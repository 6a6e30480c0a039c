import CompilationChecks.Proofs.Resolution
import CompilationChecks.Proofs.Store.WriteOutcome

/-!
# Dotted names of classes

The dotted name of a class is to keep all directories of a path whole and to drop the extension of
the file name. The manager drops what stands behind the last dot of the whole path, which is the
same if the file name has a dot, or no directory has one. Otherwise the name ends inside the last
directory with a dot. The files of classes are of the first kind: what a write makes of the names of
a package and of a class is read back from the path as it was.
-/

namespace CompilationChecks

namespace Text

/-! ## Last marks -/

theorem splitLast?_eq_none_iff {mark : Char} {text : List Char} :
    splitLast? mark text = none ↔ mark ∉ text := by
  induction text with
  | nil => simp [splitLast?]
  | cons c rest inductionHypothesis =>
      cases found : splitLast? mark rest with
      | none =>
          have restPlain := inductionHypothesis.1 found
          simp [splitLast?, found, restPlain, eq_comm]
      | some parts =>
          have inRest : mark ∈ rest := by
            rw [found] at inductionHypothesis
            simpa using inductionHypothesis
          simp [splitLast?, found, inRest]

theorem splitLast?_append_mark
    {mark : Char} (before : List Char) {after : List Char} (plain : mark ∉ after) :
    splitLast? mark (before ++ mark :: after) = some (before, after) := by
  induction before with
  | nil => simp [splitLast?, splitLast?_eq_none_iff.2 plain]
  | cons c rest inductionHypothesis => simp [splitLast?, inductionHypothesis]

theorem eq_append_of_splitLast?
    {mark : Char} {text : List Char} {parts : List Char × List Char}
    (found : splitLast? mark text = some parts) :
    text = parts.1 ++ mark :: parts.2 ∧ mark ∉ parts.2 := by
  induction text generalizing parts with
  | nil => cases found
  | cons c rest inductionHypothesis =>
      rw [splitLast?] at found
      cases restSplit : splitLast? mark rest with
      | some restParts =>
          rw [restSplit] at found
          cases found
          obtain ⟨text, plain⟩ := inductionHypothesis restSplit
          exact ⟨congrArg (List.cons c) text, plain⟩
      | none =>
          simp only [restSplit] at found
          split at found
          next isMark =>
            cases found
            exact ⟨congrArg (List.cons · rest) isMark, splitLast?_eq_none_iff.1 restSplit⟩
          next => cases found

end Text

namespace Path

/-! ## Directories and file names -/

/-- The parts of a path before its last slash. -/
def directories (path : String) : List String :=
  (parts path).dropLast

/-- The part of a path behind its last slash. -/
def fileName (path : String) : String :=
  (parts path).getLastD ""

theorem directories_append_fileName (path : String) :
    directories path ++ [fileName path] = parts path := by
  have nonempty : parts path ≠ [] := by
    simpa [parts] using Text.pieces_ne_nil (· == '/') path.toList
  rw [directories, fileName, List.getLastD_eq_getLast?, List.getLast?_eq_some_getLast nonempty,
    Option.getD_some, List.dropLast_concat_getLast]

/-- A part of a path can be cut in two, and the path with it. -/
theorem join_cut
    (before : List String) (front back : String) (behind : List String) :
    join (before ++ (front ++ back) :: behind) =
      join (before ++ [front]) ++ join (back :: behind) := by
  unfold join
  induction before with
  | nil => simp
  | cons first others inductionHypothesis =>
      rw [List.cons_append, List.cons_append,
        String.intercalate_cons_of_ne_nil (List.append_ne_nil_of_right_ne_nil _ (by simp)),
        String.intercalate_cons_of_ne_nil (List.append_ne_nil_of_right_ne_nil _ (by simp)),
        inductionHypothesis]
      simp only [String.append_assoc]

theorem dot_notMem_join
    {parts : List String} (plain : ∀ part ∈ parts, '.' ∉ part.toList) :
    '.' ∉ (join parts).toList := by
  intro dotted
  rcases mem_toList_join dotted with slash | ⟨part, member, inPart⟩
  · cases slash
  · exact plain part member inPart

/-! ## Names without extensions -/

/-- A name without its extension, which begins at the last dot. -/
def withoutExtension (name : String) : String :=
  ((splitExtension? name).map Prod.fst).getD name

theorem withoutExtension_of_plain {name : String} (plain : '.' ∉ name.toList) :
    withoutExtension name = name := by
  simp [withoutExtension, splitExtension?, Text.splitLast?_eq_none_iff.2 plain]

theorem withoutExtension_append
    (stem : String) {extension : String} (plain : '.' ∉ extension.toList) :
    withoutExtension (stem ++ "." ++ extension) = stem := by
  have text : (stem ++ "." ++ extension).toList = stem.toList ++ '.' :: extension.toList := by
    simp
  simp [withoutExtension, splitExtension?, text, Text.splitLast?_append_mark _ plain]

theorem exists_extension {name : String} (dotted : '.' ∈ name.toList) :
    ∃ stem extension, name = stem ++ "." ++ extension ∧ '.' ∉ extension.toList := by
  cases found : Text.splitLast? '.' name.toList with
  | none => exact absurd dotted (Text.splitLast?_eq_none_iff.1 found)
  | some halves =>
      obtain ⟨text, plain⟩ := Text.eq_append_of_splitLast? found
      refine ⟨String.ofList halves.1, String.ofList halves.2, ?_, by simpa using plain⟩
      apply String.toList_inj.1
      simpa using text

theorem length_withoutExtension_lt {name : String} (dotted : '.' ∈ name.toList) :
    (withoutExtension name).length < name.length := by
  obtain ⟨stem, extension, rfl, plain⟩ := exists_extension dotted
  rw [withoutExtension_append stem plain]
  simp only [String.length_append]
  have dot : ".".length = 1 := rfl
  omega

theorem mem_toList_of_mem_withoutExtension
    {name : String} {c : Char} (member : c ∈ (withoutExtension name).toList) :
    c ∈ name.toList := by
  by_cases dotted : '.' ∈ name.toList
  · obtain ⟨stem, extension, rfl, plain⟩ := exists_extension dotted
    rw [withoutExtension_append stem plain] at member
    simp [member]
  · rwa [withoutExtension_of_plain dotted] at member

/-! ## Dots for slashes -/

/-- A path with dots for slashes. -/
def withDots (path : String) : String :=
  String.ofList (path.toList.map fun c => if c = '/' then '.' else c)

@[simp]
theorem length_withDots (path : String) : (withDots path).length = path.length := by
  simp [withDots, ← String.length_toList]

theorem withDots_append (front back : String) :
    withDots (front ++ back) = withDots front ++ withDots back := by
  apply String.toList_inj.1
  simp [withDots]

theorem withDots_of_plain {path : String} (plain : '/' ∉ path.toList) : withDots path = path := by
  apply String.toList_inj.1
  have unchanged : ∀ c ∈ path.toList, (if c = '/' then '.' else c) = id c := by
    intro c member
    have noSlash : c ≠ '/' := fun isSlash => plain (isSlash ▸ member)
    rw [if_neg noSlash, id_eq]
  rw [withDots, String.toList_ofList, List.map_congr_left unchanged, List.map_id]

theorem withDots_join {parts : List String} (plain : ∀ part ∈ parts, '/' ∉ part.toList) :
    withDots (join parts) = ".".intercalate parts := by
  induction parts with
  | nil => rfl
  | cons first rest inductionHypothesis =>
      have ⟨firstPlain, restPlain⟩ := List.forall_mem_cons.1 plain
      cases rest with
      | nil => simpa [join] using withDots_of_plain firstPlain
      | cons second others =>
          have slash : withDots "/" = "." := rfl
          have restDots := inductionHypothesis restPlain
          unfold join at restDots ⊢
          rw [String.intercalate_cons_cons, String.intercalate_cons_cons, withDots_append,
            withDots_append, withDots_of_plain firstPlain, slash, restDots]

/-! ## The dotted name of a path -/

/-- The dotted name that a path stands for: all directories as they are, and the file name without
its extension. -/
def dottedName (path : String) : String :=
  ".".intercalate (directories path ++ [withoutExtension (fileName path)])

section DottedName

variable {path : String}

theorem join_directories_fileName (path : String) :
    join (directories path ++ [fileName path]) = path := by
  rw [directories_append_fileName, join_parts]

theorem slash_notMem_fileName (path : String) : '/' ∉ (fileName path).toList := by
  have member : fileName path ∈ parts path := by
    rw [← directories_append_fileName]
    simp
  exact slash_notMem_of_mem_parts member

theorem slash_notMem_of_mem_directories
    {directory : String} (member : directory ∈ directories path) :
    '/' ∉ directory.toList :=
  slash_notMem_of_mem_parts (List.dropLast_subset _ member)

theorem dot_mem_iff :
    '.' ∈ path.toList ↔
      '.' ∈ (fileName path).toList ∨
        ∃ directory ∈ directories path, '.' ∈ directory.toList := by
  constructor
  · intro dotted
    rw [← join_directories_fileName path] at dotted
    rcases mem_toList_join dotted with slash | ⟨part, member, inPart⟩
    · cases slash
    · rcases List.mem_append.1 member with isDirectory | isFileName
      · exact Or.inr ⟨part, isDirectory, inPart⟩
      · rw [List.mem_singleton.1 isFileName] at inPart
        exact Or.inl inPart
  · intro inPart
    have inSome : ∃ part ∈ parts path, '.' ∈ part.toList := by
      rw [← directories_append_fileName]
      rcases inPart with inFileName | ⟨directory, isDirectory, inDirectory⟩
      · exact ⟨fileName path, by simp, inFileName⟩
      · exact ⟨directory, by simp [isDirectory], inDirectory⟩
    obtain ⟨part, member, dotted⟩ := inSome
    exact mem_toList_of_mem_parts member dotted

theorem dottedName_of_plain (plain : '.' ∉ (fileName path).toList) :
    dottedName path = withDots path := by
  have noSlash : ∀ part ∈ directories path ++ [fileName path], '/' ∉ part.toList := by
    rw [directories_append_fileName]
    exact fun part => slash_notMem_of_mem_parts
  rw [dottedName, withoutExtension_of_plain plain, ← withDots_join noSlash,
    join_directories_fileName]

theorem withDots_withoutExtension_of_dotted (dotted : '.' ∈ (fileName path).toList) :
    withDots (withoutExtension path) = dottedName path := by
  have noSlash :
      ∀ part ∈ directories path ++ [withoutExtension (fileName path)], '/' ∉ part.toList := by
    intro part member
    rcases List.mem_append.1 member with isDirectory | isStem
    · exact slash_notMem_of_mem_directories isDirectory
    · rw [List.mem_singleton.1 isStem]
      exact fun slash =>
        slash_notMem_fileName path (mem_toList_of_mem_withoutExtension slash)
  obtain ⟨stem, extension, isFileName, plain⟩ := exists_extension dotted
  have text :
      path = join (directories path ++ [withoutExtension (fileName path)]) ++ "." ++ extension := by
    calc
      path = join (directories path ++ [stem ++ ("." ++ extension)]) := by
        rw [← String.append_assoc, ← isFileName, join_directories_fileName]
      _ = join (directories path ++ [stem]) ++ join ["." ++ extension] := join_cut _ _ _ _
      _ = join (directories path ++ [withoutExtension (fileName path)]) ++ "." ++ extension := by
        rw [isFileName, withoutExtension_append stem plain, join, join,
          String.intercalate_singleton, String.append_assoc]
  have stemOfPath := congrArg withoutExtension text
  rw [withoutExtension_append _ plain] at stemOfPath
  rw [stemOfPath, withDots_join noSlash, dottedName]

/-- Dropping what stands behind the last dot of a path gives its dotted name exactly if no directory
is cut. -/
theorem withDots_withoutExtension_eq_iff (path : String) :
    withDots (withoutExtension path) = dottedName path ↔
      '.' ∈ (fileName path).toList ∨
        ∀ directory ∈ directories path, '.' ∉ directory.toList := by
  by_cases dotted : '.' ∈ (fileName path).toList
  · exact iff_of_true (withDots_withoutExtension_of_dotted dotted) (Or.inl dotted)
  · rw [dottedName_of_plain dotted, or_iff_right dotted]
    by_cases anywhere : '.' ∈ path.toList
    · apply iff_of_false
      · -- Dots for slashes keep the length, so a path that lost something is not the dotted name.
        intro same
        have shorter := length_withoutExtension_lt anywhere
        have sameLength := congrArg String.length same
        rw [length_withDots, length_withDots] at sameLength
        omega
      · obtain ⟨directory, member, inDirectory⟩ := (dot_mem_iff.1 anywhere).resolve_left dotted
        exact fun nowhere => nowhere directory member inDirectory
    · apply iff_of_true
      · rw [withoutExtension_of_plain anywhere]
      · intro directory member inDirectory
        exact anywhere (dot_mem_iff.2 (Or.inr ⟨directory, member, inDirectory⟩))

/-- If the last dot of a path stands in a directory, everything from there on is dropped. -/
theorem withoutExtension_of_cut
    {before behind : List String} {stem cut : String}
    (shape : directories path = before ++ (stem ++ "." ++ cut) :: behind)
    (plain : ∀ part ∈ cut :: behind ++ [fileName path], '.' ∉ part.toList) :
    withoutExtension path = join (before ++ [stem]) := by
  have text :
      path = join (before ++ [stem]) ++ "." ++ join (cut :: behind ++ [fileName path]) := by
    calc
      path = join (before ++ (stem ++ ("." ++ cut)) :: (behind ++ [fileName path])) := by
        rw [← String.append_assoc, ← List.cons_append, ← List.append_assoc, ← shape,
          join_directories_fileName]
      _ = join (before ++ [stem]) ++ join (("." ++ cut) :: (behind ++ [fileName path])) :=
        join_cut _ _ _ _
      _ = join (before ++ [stem]) ++ "." ++ join (cut :: behind ++ [fileName path]) := by
        rw [join, join, String.intercalate_cons_append, String.append_assoc]
        rfl
  have stemOfPath := congrArg withoutExtension text
  rw [withoutExtension_append _ (dot_notMem_join plain)] at stemOfPath
  exact stemOfPath

end DottedName

end Path

namespace FileRef

theorem binaryName_eq (file : FileRef) :
    file.binaryName = Path.withDots (Path.withoutExtension file.path) := rfl

end FileRef

namespace Store

variable {store : Store}

/-- **A binary name is the dotted name of a path unless a directory is cut.** An open manager gives
every file of a location a name there. It is the dotted name of the path exactly if the file name
has a dot or no directory has one. Otherwise it ends inside the last directory with a dot, before
the last dot of that, and says nothing of what follows. -/
theorem binary_name_is_dotted_name_unless_cut (isOpen : store.closed = false) (file : FileRef) :
    ∃ name, store.inferBinaryName file.location file = store.answer (some name) ∧
      (name = Path.dottedName file.path ↔
        '.' ∈ (Path.fileName file.path).toList ∨
          ∀ directory ∈ Path.directories file.path, '.' ∉ directory.toList) ∧
      ∀ before stem cut behind,
        Path.directories file.path = before ++ (stem ++ "." ++ cut) :: behind →
        (∀ part ∈ cut :: behind ++ [Path.fileName file.path], '.' ∉ part.toList) →
          name = ".".intercalate (before ++ [stem]) := by
  refine ⟨file.binaryName, by simp [inferBinaryName, isOpen], ?_, ?_⟩
  · rw [FileRef.binaryName_eq]
    exact Path.withDots_withoutExtension_eq_iff file.path
  · intro before stem cut behind shape plain
    have noSlash : ∀ part ∈ before ++ [stem], '/' ∉ part.toList := by
      intro part member slash
      have inDirectory :
          ∃ directory ∈ Path.directories file.path, '/' ∈ directory.toList := by
        rw [shape]
        rcases List.mem_append.1 member with isBefore | isStem
        · exact ⟨part, List.mem_append_left _ isBefore, slash⟩
        · rw [List.mem_singleton.1 isStem] at slash
          exact ⟨stem ++ "." ++ cut, by simp, by simp [slash]⟩
      obtain ⟨directory, isDirectory, slashThere⟩ := inDirectory
      exact Path.slash_notMem_of_mem_directories isDirectory slashThere
    rw [FileRef.binaryName_eq, Path.withoutExtension_of_cut shape plain,
      Path.withDots_join noSlash]

theorem binary_name_is_dotted_name_unless_cut_dottedDirectories :
    mixedRoots.closed = false ∧
      mixedRoots.inferBinaryName (.standard .classPath)
          (.locate (.standard .classPath) "lib" "v1.2/a.b/C.x.class") =
        mixedRoots.answer (some "v1.2.a.b.C.x") ∧
      mixedRoots.inferBinaryName (.standard .classPath)
          (.locate (.standard .classPath) "lib" "v1.2/a.b/c/NOTICE") =
        mixedRoots.answer (some "v1.2.a") := by
  obtain ⟨whole, wholeInferred, wholeIff, _⟩ :=
    binary_name_is_dotted_name_unless_cut (rfl : mixedRoots.closed = false)
      (.locate (.standard .classPath) "lib" "v1.2/a.b/C.x.class")
  obtain ⟨short, shortInferred, _, shortCut⟩ :=
    binary_name_is_dotted_name_unless_cut (rfl : mixedRoots.closed = false)
      (.locate (.standard .classPath) "lib" "v1.2/a.b/c/NOTICE")
  have isWhole := wholeIff.2 (Or.inl (by decide))
  have isShort := shortCut ["v1.2"] "a" "b" ["c"] (by decide) (by decide)
  rw [isWhole] at wholeInferred
  rw [isShort] at shortInferred
  exact ⟨rfl, wholeInferred, shortInferred⟩

/-! ## A file without an extension -/

/-- A write of a file without an extension into a directory with a dot. -/
def noticeWrite : Step FileRef :=
  (Store.new "17").writeFile (.standard .classOutput) "" "conf.d/NOTICE" [120]

theorem notice_is_named_after_part_of_its_directory :
    noticeWrite.2.Reachable ∧ noticeWrite.2.closed = false ∧
      ∃ file, noticeWrite.1 = .ok file ∧ file.location = .standard .classOutput ∧
        Path.directories file.path = ["conf.d"] ∧ Path.fileName file.path = "NOTICE" ∧
        Path.dottedName file.path = "conf.d.NOTICE" ∧
        noticeWrite.2.inferBinaryName (.standard .classOutput) file =
          noticeWrite.2.answer (some "conf") ∧
        noticeWrite.2.inferBinaryName (.standard .classOutput) file ≠
          noticeWrite.2.answer (some (Path.dottedName file.path)) := by
  have reachable : noticeWrite.2.Reachable :=
    (Reachable.new "17").moves
      (.called _ (.writeFile (.standard .classOutput) "" "conf.d/NOTICE" [120]) (by decide))
  refine ⟨reachable, rfl, .locate (.standard .classOutput) "CLASS_OUTPUT" "conf.d/NOTICE", rfl, rfl,
    by decide, by decide, by decide, rfl, ?_⟩
  intro same
  have sameName := Option.some.inj (Except.ok.inj (congrArg Prod.fst same))
  exact absurd sameName (by decide)

end Store

end CompilationChecks
