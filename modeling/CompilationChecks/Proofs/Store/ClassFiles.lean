import CompilationChecks.Proofs.BinaryNames

/-!
# The files of classes

A class has a simple name in a package whose name is made of simple names. A write of a file that is
called like the class puts it below the directories of the package. Nothing of the two names gets
lost on the way: the kind of the file and the name of the class with its package are read back from
the path, so the files of different classes never have the same path.
-/

namespace CompilationChecks

namespace Path

/-! ## Dotted names -/

/-- A name that can stand between the dots of a longer one: it is not empty and has neither dots nor
separators. -/
structure IsSimpleName (name : String) : Prop where
  nonempty : name ≠ ""
  noDot : '.' ∉ name.toList
  unbroken : ∀ c ∈ name.toList, isSeparator c = false

theorem isSimpleName_iff {name : String} :
    IsSimpleName name ↔
      name ≠ "" ∧ (name.toList.all fun c => c != '.' && !isSeparator c) = true := by
  simp only [List.all_eq_true, Bool.and_eq_true, bne_iff_ne, Bool.not_eq_true']
  constructor
  · intro simple
    refine ⟨simple.nonempty, ?_⟩
    intro c member
    exact ⟨fun isDot => simple.noDot (isDot ▸ member), simple.unbroken c member⟩
  · intro tested
    exact ⟨tested.1, fun isDot => (tested.2 '.' isDot).1 rfl, fun c member =>
      (tested.2 c member).2⟩

instance (name : String) : Decidable (IsSimpleName name) :=
  decidable_of_iff' _ isSimpleName_iff

/-- A text that simple names make with dots between them. No names make the empty text. -/
structure IsDottedName (text : String) (simpleNames : List String) : Prop where
  simple : ∀ name ∈ simpleNames, IsSimpleName name
  spelled : text = ".".intercalate simpleNames

/-- The name of a class behind that of its package, if the package has one. -/
def qualified (packageName name : String) : String :=
  if packageName = "" then name else packageName ++ "." ++ name

theorem IsSimpleName.isSegment_append
    {name : String} (simple : IsSimpleName name) {ending : String}
    (unbroken : ∀ c ∈ ending.toList, isSeparator c = false) :
    IsSegment (name ++ ending) := by
  constructor
  · intro c member
    rw [String.toList_append] at member
    rcases List.mem_append.1 member with inName | inEnding
    · exact simple.unbroken c inName
    · exact unbroken c inEnding
  · obtain ⟨first, rest, text⟩ :=
      List.exists_cons_of_ne_nil (mt String.toList_eq_nil_iff.1 simple.nonempty)
    have notDot : first ≠ '.' := by
      intro isDot
      apply simple.noDot
      rw [text, isDot]
      exact List.mem_cons_self
    simp [isMeaningful, text, notDot]

namespace IsDottedName

variable {text : String} {simpleNames : List String} (dotted : IsDottedName text simpleNames)

include dotted

theorem segments_join : segments (join simpleNames) = simpleNames := by
  apply Path.segments_join
  intro name member
  have bare : IsSegment (name ++ "") := (dotted.simple name member).isSegment_append nofun
  rwa [String.append_empty] at bare

theorem dot_notMem_join : '.' ∉ (join simpleNames).toList :=
  Path.dot_notMem_join fun name member => (dotted.simple name member).noDot

theorem withDots_join : withDots (join simpleNames) = text := by
  rw [dotted.spelled]
  apply Path.withDots_join
  intro name member slash
  exact absurd ((dotted.simple name member).unbroken '/' slash) (by decide)

/-- The directories of a package are the simple names that make its name. -/
theorem packageDirectory_eq : packageDirectory text = join simpleNames := by
  -- The empty text is broken into one empty piece, which is no name, so it is a case of its own.
  cases simpleNames with
  | nil =>
      rw [dotted.spelled]
      rfl
  | cons first others =>
      have noDots : ∀ piece ∈ (first :: others).map String.toList, '.' ∉ piece := by
        intro piece member
        obtain ⟨name, inNames, rfl⟩ := List.mem_map.1 member
        exact (dotted.simple name inNames).noDot
      have pieces :
          Text.pieces (· == '.') text.toList = (first :: others).map String.toList := by
        rw [dotted.spelled, String.toList_intercalate]
        exact Text.pieces_intercalate noDots (by simp)
      have kept :
          ((first :: others).map String.toList).filter (fun piece => !piece.isEmpty) =
            (first :: others).map String.toList := by
        apply List.filter_eq_self.2
        intro piece member
        obtain ⟨name, inNames, rfl⟩ := List.mem_map.1 member
        simpa using (dotted.simple name inNames).nonempty
      rw [packageDirectory, pieces, kept, List.map_map]
      congr 1
      simp [Function.comp_def]

theorem packageDirectory_eq_empty_iff : packageDirectory text = "" ↔ simpleNames = [] := by
  rw [dotted.packageDirectory_eq]
  constructor
  · intro noDirectory
    rw [← dotted.segments_join, noDirectory, segments_empty]
  · intro noNames
    rw [noNames]
    rfl

theorem eq_empty_iff : text = "" ↔ simpleNames = [] := by
  constructor
  · intro empty
    apply dotted.packageDirectory_eq_empty_iff.1
    rw [empty]
    rfl
  · intro noNames
    rw [dotted.spelled, noNames]
    rfl

theorem append {name : String} (simple : IsSimpleName name) :
    IsDottedName (qualified text name) (simpleNames ++ [name]) := by
  constructor
  · intro simpleName member
    rcases List.mem_append.1 member with inNames | isName
    · exact dotted.simple simpleName inNames
    · rw [List.mem_singleton.1 isName]
      exact simple
  · unfold qualified
    split
    next empty =>
      rw [dotted.eq_empty_iff.1 empty, List.nil_append, String.intercalate_singleton]
    next nonempty =>
      have hasNames : simpleNames ≠ [] := fun noNames => nonempty (dotted.eq_empty_iff.2 noNames)
      rw [String.intercalate_append_of_ne_nil hasNames (by simp), String.intercalate_singleton,
        ← dotted.spelled]

end IsDottedName

end Path

/-! ## Endings -/

namespace FileKind

theorem unbroken_extension (kind : FileKind) :
    ∀ c ∈ kind.extension.toList, Path.isSeparator c = false := by
  cases kind <;> simp [extension, Path.isSeparator]

theorem ofPath_append_extension
    {stem : String} (plain : '.' ∉ stem.toList) (kind : FileKind) :
    ofPath (stem ++ kind.extension) = kind := by
  rw [ofPath_append plain]
  cases kind <;> decide

theorem withoutExtension_append_extension
    {stem : String} (plain : '.' ∉ stem.toList) (kind : FileKind) :
    Path.withoutExtension (stem ++ kind.extension) = stem := by
  have ends : ∀ extension : String, '.' ∉ extension.toList →
      Path.withoutExtension (stem ++ ("." ++ extension)) = stem := by
    intro extension extensionPlain
    rw [← String.append_assoc]
    exact Path.withoutExtension_append stem extensionPlain
  cases kind with
  | source => exact ends "java" (by decide)
  | classFile => exact ends "class" (by decide)
  | html => exact ends "html" (by decide)
  | other =>
      have bare : stem ++ FileKind.other.extension = stem := String.append_empty
      rw [bare, Path.withoutExtension_of_plain plain]

end FileKind

namespace Path

/-! ## Paths of class files -/

theorem join_append_extension (simpleNames : List String) (name : String) (kind : FileKind) :
    join (simpleNames ++ [name ++ kind.extension]) =
      join (simpleNames ++ [name]) ++ kind.extension := by
  have single : join [kind.extension] = kind.extension := String.intercalate_singleton
  rw [join_cut, single]

theorem normalize_of_isSegment {segment : String} (fit : IsSegment segment) :
    normalize segment = segment := by
  have single : join [segment] = segment := String.intercalate_singleton
  have parts : segments (join [segment]) = [segment] := by
    apply segments_join
    intro part member
    rw [List.mem_singleton.1 member]
    exact fit
  rw [single] at parts
  rw [normalize, parts, single]

/-- A file that is called like a class resolves to a path below the directories of the package. -/
theorem resolve_class
    {packageName name : String} {simpleNames : List String}
    (package : IsDottedName packageName simpleNames) (simple : IsSimpleName name)
    (kind : FileKind) :
    resolve packageName (name ++ kind.extension) =
      join (simpleNames ++ [name]) ++ kind.extension := by
  have normal : normalize (name ++ kind.extension) = name ++ kind.extension :=
    normalize_of_isSegment (simple.isSegment_append kind.unbroken_extension)
  rw [← join_append_extension]
  by_cases noNames : simpleNames = []
  · have noDirectory := package.packageDirectory_eq_empty_iff.2 noNames
    rw [resolve_of_empty noDirectory, normal, noNames, List.nil_append, join,
      String.intercalate_singleton]
  · have directory : packageDirectory packageName ≠ "" :=
      mt package.packageDirectory_eq_empty_iff.1 noNames
    rw [resolve_of_ne_empty directory, normal, package.packageDirectory_eq,
      join_append noNames (by simp), join, join, String.intercalate_singleton]

section ClassPath

variable {text : String} {simpleNames : List String} (dotted : IsDottedName text simpleNames)

include dotted

theorem withDots_class (kind : FileKind) :
    withDots (withoutExtension (join simpleNames ++ kind.extension)) = text := by
  rw [FileKind.withoutExtension_append_extension dotted.dot_notMem_join, dotted.withDots_join]

/-- Names and ending are determined by the path that they make. -/
theorem class_inj
    {otherText : String} {otherNames : List String} (otherDotted : IsDottedName otherText otherNames)
    {kind otherKind : FileKind}
    (same : join otherNames ++ otherKind.extension = join simpleNames ++ kind.extension) :
    otherNames = simpleNames ∧ otherKind = kind := by
  constructor
  · have sameStem : join otherNames = join simpleNames := by
      rw [← FileKind.withoutExtension_append_extension dotted.dot_notMem_join kind, ← same,
        FileKind.withoutExtension_append_extension otherDotted.dot_notMem_join]
    rw [← otherDotted.segments_join, sameStem, dotted.segments_join]
  · rw [← FileKind.ofPath_append_extension dotted.dot_notMem_join kind, ← same,
      FileKind.ofPath_append_extension otherDotted.dot_notMem_join]

end ClassPath

end Path

namespace Store

variable {store : Store} {location : Location}

theorem path_of_writeFile
    {packageName relativeName : String} {content : Bytes} {file : FileRef}
    (written : (store.writeFile location packageName relativeName content).1 = .ok file) :
    file.path = Path.resolve packageName relativeName := by
  obtain ⟨isOpen, output⟩ := (writeFile_ok_iff _ _ _).1 ⟨file, written⟩
  obtain ⟨_, _, _, writes⟩ := writeFile_eq isOpen output packageName relativeName content
  rw [writes] at written
  cases written
  rfl

/-- **The names of classes are read back from their files.** On an open store and for an output
location, a write of a file that is called like a class of a package, with the ending of some kind,
succeeds. The file is of that kind, its path is made of the names and the ending, and every open
manager reads the name of the class with its package back from it, but for this location alone. No
write for another package, class or kind gives a file with the same path. -/
theorem class_names_are_read_back
    (isOpen : store.closed = false) (output : location.isOutput = true)
    {packageName name : String} {simpleNames : List String}
    (package : Path.IsDottedName packageName simpleNames) (simple : Path.IsSimpleName name)
    (kind : FileKind) (content : Bytes) :
    ∃ file after,
      store.writeFile location packageName (name ++ kind.extension) content = (.ok file, after) ∧
        after.closed = false ∧
        file.kind = kind ∧
        file.path = "/".intercalate (simpleNames ++ [name ++ kind.extension]) ∧
        (∀ reader : Store, reader.closed = false →
          reader.inferBinaryName location file =
              reader.answer (some (Path.qualified packageName name)) ∧
            ∀ other ≠ location, reader.inferBinaryName other file = reader.answer none) ∧
        ∀ (otherStore : Store) (otherPackage otherName : String) (otherNames : List String)
          (otherKind : FileKind) (otherContent : Bytes) (otherFile : FileRef),
          Path.IsDottedName otherPackage otherNames → Path.IsSimpleName otherName →
            (otherStore.writeFile location otherPackage (otherName ++ otherKind.extension)
              otherContent).1 = .ok otherFile →
            otherFile.path = file.path →
              otherPackage = packageName ∧ otherName = name ∧ otherKind = kind := by
  have whole := package.append simple
  have isPath := Path.resolve_class package simple kind
  obtain ⟨first, _, _, written⟩ :=
    writeFile_eq isOpen output packageName (name ++ kind.extension) content
  rw [isPath] at written
  refine ⟨_, _, written, ?_, ?_, ?_, ?_, ?_⟩
  · exact (closed_ensureRoots store location).trans isOpen
  · exact FileKind.ofPath_append_extension whole.dot_notMem_join kind
  · exact (Path.join_append_extension simpleNames name kind).symm
  · intro reader readerOpen
    constructor
    · have isNamed := Path.withDots_class whole kind
      simp [inferBinaryName, readerOpen, FileRef.binaryName_eq, FileRef.locate, isNamed]
    · intro other different
      simp [inferBinaryName, readerOpen, FileRef.locate, Ne.symm different]
  · intro otherStore otherPackage otherName otherNames otherKind otherContent otherFile
      otherIsPackage otherSimple otherWritten samePath
    rw [path_of_writeFile otherWritten, Path.resolve_class otherIsPackage otherSimple] at samePath
    obtain ⟨sameNames, sameKind⟩ :=
      Path.class_inj whole (otherIsPackage.append otherSimple) samePath
    obtain ⟨samePackage, sameName⟩ := List.append_inj' sameNames rfl
    refine ⟨?_, List.singleton_inj.1 sameName, sameKind⟩
    rw [otherIsPackage.spelled, samePackage, package.spelled]

theorem class_names_are_read_back_mixedRoots :
    mixedRoots.closed = false ∧ (Location.module .classOutput "m").isOutput = true ∧
      Path.IsDottedName "com.example" ["com", "example"] ∧ Path.IsSimpleName "Foo" ∧
      ∃ file after,
        mixedRoots.writeFile (.module .classOutput "m") "com.example" "Foo.class" [1] =
            (.ok file, after) ∧
          file.kind = .classFile ∧ file.path = "com/example/Foo.class" ∧
          after.inferBinaryName (.module .classOutput "m") file =
            after.answer (some "com.example.Foo") ∧
          after.inferBinaryName (.standard .classOutput) file = after.answer none ∧
          ∀ otherFile,
            (after.writeFile (.module .classOutput "m") "com" "example.html" []).1 =
                .ok otherFile →
              otherFile.path ≠ file.path := by
  have simple : Path.IsSimpleName "Foo" := by decide
  have otherSimple : Path.IsSimpleName "example" := by decide
  have comSimple : Path.IsSimpleName "com" := by decide
  have package : Path.IsDottedName "com.example" ["com", "example"] :=
    ⟨by simp [comSimple, otherSimple], by decide⟩
  have otherPackage : Path.IsDottedName "com" ["com"] := ⟨by simp [comSimple], by decide⟩
  have output : (Location.module .classOutput "m").isOutput = true := rfl
  obtain ⟨file, after, written, isOpen, isKind, isPath, named, apart⟩ :=
    class_names_are_read_back (rfl : mixedRoots.closed = false) output package simple .classFile [1]
  obtain ⟨isNamed, elsewhere⟩ := named after isOpen
  refine ⟨rfl, output, package, simple, file, after, written, isKind, ?_, isNamed,
    elsewhere _ (by decide), ?_⟩
  · rw [isPath]
    decide
  · intro otherFile otherWritten samePath
    obtain ⟨samePackage, _⟩ :=
      apart after "com" "example" ["com"] .html [] otherFile otherPackage otherSimple otherWritten
        samePath
    exact absurd samePackage (by decide)

end Store

end CompilationChecks
