import CompilationChecks.Path

/-!
# Normal forms of paths

A path says no more than its segments do. Joining segments that are fit to be segments and
reading them back gives the same segments, so the normal form of a path has the segments of the
path, and taking the normal form twice is the same as taking it once. Cutting a path at its slashes
alone gives its parts. Any path is its parts joined again, and the parts of joined segments are these
segments.
-/

namespace CompilationChecks

namespace Text

variable {isBreak : Char → Bool}

theorem pieces_of_unbroken
    {text : List Char} (unbroken : ∀ c ∈ text, isBreak c = false) :
    pieces isBreak text = [text] := by
  induction text with
  | nil => rfl
  | cons c rest inductionHypothesis =>
      have notBreak : isBreak c = false :=
        unbroken c List.mem_cons_self
      have restPieces : pieces isBreak rest = [rest] :=
        inductionHypothesis fun other member =>
          unbroken other (List.mem_cons_of_mem c member)
      simp [pieces, notBreak, restPieces]

/-- A break separates the pieces before it from the pieces behind it. -/
theorem pieces_append_break
    (text : List Char) {c : Char} (rest : List Char) (breaks : isBreak c = true) :
    pieces isBreak (text ++ c :: rest) = pieces isBreak text ++ pieces isBreak rest := by
  induction text with
  | nil => simp [pieces, breaks]
  | cons first others inductionHypothesis =>
      rw [List.cons_append]
      by_cases firstBreaks : isBreak first = true
      · simp [pieces, firstBreaks, inductionHypothesis]
      · -- The first character joins the first piece, and there always is one.
        obtain ⟨piece, further, shape⟩ :=
          List.exists_cons_of_ne_nil (pieces_ne_nil isBreak others)
        simp [pieces, firstBreaks, inductionHypothesis, shape]

/-- Lines with a break behind each are the pieces of their text, and behind the last break there
is nothing. -/
theorem pieces_of_lines
    {mark : Char} (breaks : isBreak mark = true) {lines : List (List Char)}
    (unbroken : ∀ line ∈ lines, ∀ c ∈ line, isBreak c = false) :
    pieces isBreak (lines.flatMap fun line => line ++ [mark]) = lines ++ [[]] := by
  induction lines with
  | nil => rfl
  | cons first others inductionHypothesis =>
      have ⟨firstUnbroken, othersUnbroken⟩ := List.forall_mem_cons.1 unbroken
      rw [List.flatMap_cons, List.append_assoc, List.singleton_append,
        pieces_append_break _ _ breaks, pieces_of_unbroken firstUnbroken,
        inductionHypothesis othersUnbroken, List.singleton_append, List.cons_append]

theorem unbroken_of_mem_pieces
    {text piece : List Char} (member : piece ∈ pieces isBreak text) :
    ∀ c ∈ piece, isBreak c = false := by
  induction text generalizing piece with
  | nil =>
      have empty : piece = [] := by
        simpa [pieces] using member
      simp [empty]
  | cons first others inductionHypothesis =>
      obtain ⟨head, further, shape⟩ :=
        List.exists_cons_of_ne_nil (pieces_ne_nil isBreak others)
      by_cases firstBreaks : isBreak first = true
      · simp only [pieces, firstBreaks, if_true, List.mem_cons] at member
        rcases member with rfl | inOthers
        · simp
        · exact inductionHypothesis inOthers
      · have firstPlain : isBreak first = false := by
          simpa using firstBreaks
        simp only [pieces, firstPlain, Bool.false_eq_true, if_false, shape,
          List.mem_cons] at member
        rcases member with rfl | inFurther
        · intro c inPiece
          rcases List.mem_cons.1 inPiece with rfl | inHead
          · exact firstPlain
          · exact inductionHypothesis (by simp [shape]) c inHead
        · exact inductionHypothesis (by simp [shape, inFurther])

theorem pieces_eq_splitOn (mark : Char) (text : List Char) :
    pieces (· == mark) text = text.splitOn mark := by
  induction text with
  | nil => rfl
  | cons c rest inductionHypothesis =>
      rw [List.splitOn_eq_splitOnP] at inductionHypothesis ⊢
      rw [List.splitOnP_cons_eq_if_modifyHead, ← inductionHypothesis, pieces]
      obtain ⟨first, others, shape⟩ :=
        List.exists_cons_of_ne_nil (pieces_ne_nil (· == mark) rest)
      simp [shape]

theorem intercalate_pieces (mark : Char) (text : List Char) :
    [mark].intercalate (pieces (· == mark) text) = text := by
  rw [pieces_eq_splitOn]
  exact List.intercalate_splitOn mark

theorem pieces_intercalate
    {mark : Char} {texts : List (List Char)} (unbroken : ∀ text ∈ texts, mark ∉ text)
    (nonempty : texts ≠ []) :
    pieces (· == mark) ([mark].intercalate texts) = texts := by
  rw [pieces_eq_splitOn]
  exact List.splitOn_intercalate mark unbroken nonempty

end Text

namespace Path

/-- A text that can stand between two slashes of a normal form. -/
def IsSegment (segment : String) : Prop :=
  (∀ c ∈ segment.toList, isSeparator c = false) ∧ isMeaningful segment.toList = true

theorem IsSegment.slash_notMem {segment : String} (fit : IsSegment segment) :
    '/' ∉ segment.toList :=
  fun slash => absurd (fit.1 '/' slash) (by decide)

theorem isSegment_of_mem_segments
    {path segment : String} (member : segment ∈ segments path) :
    IsSegment segment := by
  obtain ⟨piece, inPieces, rfl⟩ := List.mem_map.1 member
  obtain ⟨inAll, meaningful⟩ := List.mem_filter.1 inPieces
  have unbroken := Text.unbroken_of_mem_pieces inAll
  simpa [IsSegment] using And.intro unbroken meaningful

theorem toList_join_cons_cons (first second : String) (others : List String) :
    (join (first :: second :: others)).toList =
      first.toList ++ '/' :: (join (second :: others)).toList := by
  simp [join]

/-- Segments that are joined can be read back. -/
theorem segments_join
    {parts : List String} (fit : ∀ part ∈ parts, IsSegment part) :
    segments (join parts) = parts := by
  induction parts with
  | nil => simp [segments, join, Text.pieces, isMeaningful]
  | cons first rest inductionHypothesis =>
      obtain ⟨unbroken, meaningful⟩ := fit first List.mem_cons_self
      have restFit : ∀ part ∈ rest, IsSegment part :=
        fun part member => fit part (List.mem_cons_of_mem first member)
      cases rest with
      | nil =>
          simp [segments, join, Text.pieces_of_unbroken unbroken, meaningful]
      | cons second others =>
          have restSegments := inductionHypothesis restFit
          unfold segments at restSegments ⊢
          rw [toList_join_cons_cons, Text.pieces_append_break _ _ rfl,
            Text.pieces_of_unbroken unbroken]
          simp [meaningful, restSegments]

@[simp]
theorem segments_normalize (path : String) :
    segments (normalize path) = segments path :=
  segments_join fun _ member => isSegment_of_mem_segments member

@[simp]
theorem normalize_normalize (path : String) :
    normalize (normalize path) = normalize path := by
  unfold normalize
  rw [segments_join fun _ member => isSegment_of_mem_segments member]

/-! ## Parts -/

/-- What stands between the slashes of a path, empty parts and all. -/
def parts (path : String) : List String :=
  (Text.pieces (· == '/') path.toList).map String.ofList

theorem slash_notMem_of_mem_parts
    {path part : String} (member : part ∈ parts path) :
    '/' ∉ part.toList := by
  obtain ⟨piece, inPieces, rfl⟩ := List.mem_map.1 member
  intro slash
  rw [String.toList_ofList] at slash
  simpa using Text.unbroken_of_mem_pieces inPieces '/' slash

theorem join_parts (path : String) : join (parts path) = path := by
  apply String.toList_inj.1
  simpa [join, parts, Function.comp_def] using Text.intercalate_pieces '/' path.toList

theorem parts_join
    {segments : List String} (plain : ∀ segment ∈ segments, '/' ∉ segment.toList)
    (nonempty : segments ≠ []) :
    parts (join segments) = segments := by
  have text : (join segments).toList = ['/'].intercalate (segments.map String.toList) := by
    simp [join]
  have unbroken : ∀ piece ∈ segments.map String.toList, '/' ∉ piece := by
    simpa using plain
  rw [parts, text, Text.pieces_intercalate unbroken (by simpa using nonempty), List.map_map]
  simp [Function.comp_def]

/-- A slash at the beginning or at the end of a path leaves an empty part there. -/
theorem empty_mem_parts_of_edge
    {path : String} {front back : List Char} (text : path.toList = front ++ '/' :: back)
    (edge : front = [] ∨ back = []) :
    "" ∈ parts path := by
  have pieces :
      Text.pieces (· == '/') path.toList =
        Text.pieces (· == '/') front ++ Text.pieces (· == '/') back := by
    rw [text]
    exact Text.pieces_append_break _ _ rfl
  have empty : [] ∈ Text.pieces (· == '/') path.toList := by
    rw [pieces]
    rcases edge with rfl | rfl
    · exact List.mem_append_left _ List.mem_cons_self
    · exact List.mem_append_right _ List.mem_cons_self
  exact List.mem_map.2 ⟨[], empty, rfl⟩

/-- Segments that are joined neither begin nor end with a slash. -/
theorem toList_join_ne_of_edge
    {segments : List String} (fit : ∀ segment ∈ segments, IsSegment segment)
    {front back : List Char} (edge : front = [] ∨ back = []) :
    (join segments).toList ≠ front ++ '/' :: back := by
  intro text
  have nonempty : segments ≠ [] := by
    rintro rfl
    simp [join] at text
  have emptyPart := empty_mem_parts_of_edge text edge
  rw [parts_join (fun segment member => (fit segment member).slash_notMem) nonempty] at emptyPart
  exact absurd (fit "" emptyPart).2 (by decide)

end Path

end CompilationChecks
