import CompilationChecks.File
import CompilationChecks.Proofs.Paths

/-!
# Names relative to a package

The path of a name relative to a package has the segments of the directory of the package and then
those of the name. It is a normal form exactly if the directory is one and the name adds a segment
to it; a package without a directory asks for neither. Whether it is or not, its kind is that of its
normal form, because the directory of a package has no dot.
-/

namespace CompilationChecks

namespace Text

theorem mem_of_mem_pieces
    {isBreak : Char → Bool} {text piece : List Char} (member : piece ∈ pieces isBreak text) :
    ∀ c ∈ piece, c ∈ text := by
  induction text generalizing piece with
  | nil =>
      have empty : piece = [] := by
        simpa [pieces] using member
      simp [empty]
  | cons first others inductionHypothesis =>
      obtain ⟨head, further, shape⟩ :=
        List.exists_cons_of_ne_nil (pieces_ne_nil isBreak others)
      intro c inPiece
      by_cases firstBreaks : isBreak first = true
      · simp only [pieces, firstBreaks, if_true, List.mem_cons] at member
        rcases member with rfl | inOthers
        · cases inPiece
        · exact List.mem_cons_of_mem first (inductionHypothesis inOthers c inPiece)
      · simp only [pieces, firstBreaks, Bool.false_eq_true, if_false, shape,
          List.mem_cons] at member
        rcases member with rfl | inFurther
        · rcases List.mem_cons.1 inPiece with rfl | inHead
          · exact List.mem_cons_self
          · exact List.mem_cons_of_mem first
              (inductionHypothesis (by simp [shape]) c inHead)
        · exact List.mem_cons_of_mem first
            (inductionHypothesis (by simp [shape, inFurther]) c inPiece)

/-- Text without the mark in front of another text does not move the last mark. -/
theorem splitLast?_append_of_notMem
    {mark : Char} {front : List Char} (absent : mark ∉ front) (text : List Char) :
    splitLast? mark (front ++ text) =
      (splitLast? mark text).map fun parts => (front ++ parts.1, parts.2) := by
  induction front with
  | nil =>
      rw [List.nil_append]
      cases splitLast? mark text <;> rfl
  | cons c rest inductionHypothesis =>
      have cNeMark : c ≠ mark := fun same => absent (by simp [same])
      have restAbsent : mark ∉ rest := fun inRest => absent (List.mem_cons_of_mem c inRest)
      rw [List.cons_append, splitLast?, inductionHypothesis restAbsent]
      cases splitLast? mark text with
      | none => simp [cNeMark]
      | some parts => rfl

end Text

namespace Path

/-! ## Joined segments -/

theorem mem_toList_join
    {parts : List String} {c : Char} (member : c ∈ (join parts).toList) :
    c = '/' ∨ ∃ part ∈ parts, c ∈ part.toList := by
  induction parts with
  | nil => simp [join] at member
  | cons first rest inductionHypothesis =>
      cases rest with
      | nil => exact Or.inr ⟨first, List.mem_cons_self, by simpa [join] using member⟩
      | cons second others =>
          rw [toList_join_cons_cons] at member
          rcases List.mem_append.1 member with inFirst | inRest
          · exact Or.inr ⟨first, List.mem_cons_self, inFirst⟩
          · rcases List.mem_cons.1 inRest with slash | inOthers
            · exact Or.inl slash
            · rcases inductionHypothesis inOthers with slash | ⟨part, inParts, inPart⟩
              · exact Or.inl slash
              · exact Or.inr ⟨part, List.mem_cons_of_mem first inParts, inPart⟩

theorem mem_toList_of_mem_parts
    {path part : String} (member : part ∈ parts path) {c : Char} (inPart : c ∈ part.toList) :
    c ∈ path.toList := by
  obtain ⟨piece, inPieces, rfl⟩ := List.mem_map.1 member
  exact Text.mem_of_mem_pieces inPieces c (by simpa using inPart)

theorem join_append
    {front back : List String} (frontNonempty : front ≠ []) (backNonempty : back ≠ []) :
    join (front ++ back) = join front ++ "/" ++ join back :=
  String.intercalate_append_of_ne_nil frontNonempty backNonempty

/-! ## Segments and normal forms -/

@[simp]
theorem segments_empty : segments "" = [] := rfl

theorem normalize_eq_empty_iff {path : String} : normalize path = "" ↔ segments path = [] := by
  constructor
  · intro empty
    rw [← segments_normalize, empty, segments_empty]
  · intro noSegments
    rw [normalize, noSegments]
    rfl

/-- A separator puts the segments behind it after those before it. -/
theorem segments_of_cut
    {path front back : String} {separator : Char} (separates : isSeparator separator = true)
    (text : path.toList = front.toList ++ separator :: back.toList) :
    segments path = segments front ++ segments back := by
  unfold segments
  rw [text, Text.pieces_append_break _ _ separates, List.filter_append, List.map_append]

theorem segments_append_slash (front back : String) :
    segments (front ++ "/" ++ back) = segments front ++ segments back :=
  segments_of_cut (rfl : isSeparator '/' = true) (by simp)

theorem mem_toList_normalize
    {path : String} {c : Char} (member : c ∈ (normalize path).toList) :
    c = '/' ∨ c ∈ path.toList := by
  rcases mem_toList_join member with slash | ⟨segment, inSegments, inSegment⟩
  · exact Or.inl slash
  · obtain ⟨piece, inPieces, rfl⟩ := List.mem_map.1 inSegments
    exact Or.inr
      (Text.mem_of_mem_pieces (List.mem_filter.1 inPieces).1 c (by simpa using inSegment))

theorem normalize_ne_append_slash (path front : String) : normalize path ≠ front ++ "/" := by
  intro same
  have fit : ∀ segment ∈ segments path, IsSegment segment :=
    fun _ member => isSegment_of_mem_segments member
  have text : (normalize path).toList = front.toList ++ '/' :: [] := by
    simp [same]
  exact toList_join_ne_of_edge fit (Or.inr rfl) text

/-! ## Resolving -/

theorem dot_notMem_packageDirectory (packageName : String) :
    '.' ∉ (packageDirectory packageName).toList := by
  intro member
  rcases mem_toList_join member with slash | ⟨part, inParts, inPart⟩
  · exact absurd slash (by decide)
  · obtain ⟨piece, inPieces, rfl⟩ := List.mem_map.1 inParts
    have unbroken := Text.unbroken_of_mem_pieces (List.mem_filter.1 inPieces).1
    simpa using unbroken '.' (by simpa using inPart)

/-- The directory of a package whose name has no separators is a normal form. -/
theorem normalize_packageDirectory
    {packageName : String} (plain : ∀ c ∈ packageName.toList, isSeparator c = false) :
    normalize (packageDirectory packageName) = packageDirectory packageName := by
  unfold normalize packageDirectory
  rw [segments_join]
  intro part member
  obtain ⟨piece, kept, rfl⟩ := List.mem_map.1 member
  obtain ⟨inPieces, nonempty⟩ := List.mem_filter.1 kept
  have unbroken : ∀ c ∈ piece, isSeparator c = false :=
    fun c inPiece => plain c (Text.mem_of_mem_pieces inPieces c inPiece)
  -- A single dot is no piece, because dots are where the name was broken.
  have notDot : piece ≠ ['.'] := by
    rintro rfl
    have dotStays := Text.unbroken_of_mem_pieces inPieces '.' (by simp)
    simp at dotStays
  have meaningful : isMeaningful piece = true := by
    simpa [isMeaningful, notDot] using nonempty
  simpa [IsSegment] using And.intro unbroken meaningful

theorem resolve_of_empty
    {packageName : String} (noDirectory : packageDirectory packageName = "")
    (relativeName : String) :
    resolve packageName relativeName = normalize relativeName := by
  simp [resolve, noDirectory]

theorem resolve_of_ne_empty
    {packageName : String} (directory : packageDirectory packageName ≠ "")
    (relativeName : String) :
    resolve packageName relativeName =
      packageDirectory packageName ++ "/" ++ normalize relativeName := by
  simp [resolve, directory]

theorem segments_resolve (packageName relativeName : String) :
    segments (resolve packageName relativeName) =
      segments (packageDirectory packageName) ++ segments relativeName := by
  by_cases noDirectory : packageDirectory packageName = ""
  · rw [resolve_of_empty noDirectory, noDirectory, segments_normalize, segments_empty,
      List.nil_append]
  · rw [resolve_of_ne_empty noDirectory, segments_append_slash, segments_normalize]

/-- The normal form of a resolved path, which leaves out a directory or a name that says nothing. -/
theorem normalize_resolve (packageName relativeName : String) :
    normalize (resolve packageName relativeName) =
      if normalize relativeName = "" then normalize (packageDirectory packageName)
      else if normalize (packageDirectory packageName) = "" then normalize relativeName
      else normalize (packageDirectory packageName) ++ "/" ++ normalize relativeName := by
  have joined :
      normalize (resolve packageName relativeName) =
        join (segments (packageDirectory packageName) ++ segments relativeName) := by
    rw [normalize, segments_resolve]
  rw [joined]
  by_cases noName : segments relativeName = []
  · rw [if_pos (normalize_eq_empty_iff.2 noName), noName, List.append_nil]
    rfl
  · rw [if_neg (noName ∘ normalize_eq_empty_iff.1)]
    by_cases noSegments : segments (packageDirectory packageName) = []
    · rw [if_pos (normalize_eq_empty_iff.2 noSegments), noSegments, List.nil_append]
      rfl
    · rw [if_neg (noSegments ∘ normalize_eq_empty_iff.1), join_append noSegments noName]
      rfl

/-- A name relative to a package whose path is a normal form as it stands: the package has no
directory, or its directory is a normal form and the name adds a segment to it. -/
def ResolvesNormally (packageName relativeName : String) : Prop :=
  packageDirectory packageName = "" ∨
    normalize (packageDirectory packageName) = packageDirectory packageName ∧
      normalize relativeName ≠ ""

instance (packageName relativeName : String) :
    Decidable (ResolvesNormally packageName relativeName) :=
  inferInstanceAs (Decidable (_ ∨ _ ∧ _))

theorem resolvesNormally_of_plain
    {packageName relativeName : String} (plain : ∀ c ∈ packageName.toList, isSeparator c = false)
    (named : normalize relativeName ≠ "") :
    ResolvesNormally packageName relativeName :=
  Or.inr ⟨normalize_packageDirectory plain, named⟩

theorem normalize_resolve_eq_iff (packageName relativeName : String) :
    normalize (resolve packageName relativeName) = resolve packageName relativeName ↔
      ResolvesNormally packageName relativeName := by
  unfold ResolvesNormally
  by_cases noDirectory : packageDirectory packageName = ""
  · simp [resolve_of_empty noDirectory, noDirectory]
  · rw [normalize_resolve, resolve_of_ne_empty noDirectory]
    by_cases noName : normalize relativeName = ""
    · -- The path ends with a slash, which no normal form does.
      have endsWithSlash := normalize_ne_append_slash (packageDirectory packageName)
        (packageDirectory packageName)
      simpa [noName, noDirectory] using endsWithSlash
    · by_cases noText : normalize (packageDirectory packageName) = ""
      · -- The directory says nothing, so the normal form of the path is shorter than the path.
        have longer :
            normalize relativeName ≠
              packageDirectory packageName ++ "/" ++ normalize relativeName := by
          intro same
          have sameLength := congrArg String.length same
          simp only [String.length_append] at sameLength
          have slash : "/".length = 1 := rfl
          omega
        simpa [noName, noText, noDirectory, Ne.symm noDirectory] using longer
      · simp [noName, noText, noDirectory]

end Path

namespace FileKind

theorem ofPath_append
    {front : String} (noDot : '.' ∉ front.toList) (text : String) :
    ofPath (front ++ text) = ofPath text := by
  unfold ofPath Path.splitExtension?
  rw [String.toList_append, Text.splitLast?_append_of_notMem noDot]
  cases Text.splitLast? '.' text.toList <;> rfl

/-- The kind of a file does not depend on how the directory of its package is spelled. -/
theorem ofPath_normalize_resolve (packageName relativeName : String) :
    ofPath (Path.normalize (Path.resolve packageName relativeName)) =
      ofPath (Path.resolve packageName relativeName) := by
  have directoryDot := Path.dot_notMem_packageDirectory packageName
  have normalDot : '.' ∉ (Path.normalize (Path.packageDirectory packageName)).toList := by
    intro member
    rcases Path.mem_toList_normalize member with slash | inDirectory
    · exact absurd slash (by decide)
    · exact directoryDot inDirectory
  have resolved :
      ofPath (Path.resolve packageName relativeName) = ofPath (Path.normalize relativeName) := by
    by_cases noDirectory : Path.packageDirectory packageName = ""
    · rw [Path.resolve_of_empty noDirectory]
    · rw [Path.resolve_of_ne_empty noDirectory]
      exact ofPath_append (by simpa using directoryDot) _
  rw [resolved, Path.normalize_resolve]
  split
  · -- Neither the normal form nor the empty name has a dot.
    rename_i noName
    rw [noName]
    simpa using ofPath_append normalDot ""
  · split
    · rfl
    · exact ofPath_append (by simpa using normalDot) _

end FileKind

end CompilationChecks
