import CompilationChecks.Diagnostic
import CompilationChecks.Proofs.Paths
import Mathlib.Data.List.Forall2

/-!
# Reports in messages can be told apart

In a message every report is a block, and an empty line stands between any two blocks. The texts of
reports may hold empty lines of their own, and lines that look like the first line of a block. But
every line of a block begins with a bullet or an indentation, so no line of a block is empty, and
the text of several blocks gives back how many reports there are and what the lines of each one are.
-/

namespace CompilationChecks

namespace Text

/-! ## Paragraphs -/

/-- The paragraphs of a text: what stands between the places where two line feeds follow each
other. -/
def paragraphs : List Char → List (List Char)
  | [] => [[]]
  | '\n' :: '\n' :: rest => [] :: paragraphs rest
  | c :: rest => (paragraphs rest).modifyHead (c :: ·)

theorem paragraphs_cons_of_ne {c : Char} (rest : List Char) (plain : c ≠ '\n') :
    paragraphs (c :: rest) = (paragraphs rest).modifyHead (c :: ·) := by
  rw [paragraphs]
  rintro _ rfl
  exact absurd rfl plain

/-- A line feed that another character follows separates nothing. -/
theorem paragraphs_single_break {c : Char} (rest : List Char) (plain : c ≠ '\n') :
    paragraphs ('\n' :: c :: rest) = (paragraphs (c :: rest)).modifyHead ('\n' :: ·) := by
  rw [paragraphs]
  rintro others _ same
  exact plain (List.cons.inj same).1

/-- A text in which no separator of paragraphs begins, whatever follows the text. -/
def IsParagraph (text : List Char) : Prop :=
  ∀ rest, paragraphs (text ++ rest) = (paragraphs rest).modifyHead (text ++ ·)

namespace IsParagraph

theorem of_unbroken {line : List Char} (unbroken : '\n' ∉ line) : IsParagraph line := by
  intro rest
  induction line with
  | nil => exact (congrFun List.modifyHead_id _).symm
  | cons c others inductionHypothesis =>
      obtain ⟨plain, othersUnbroken⟩ := List.ne_and_not_mem_of_not_mem_cons unbroken
      rw [List.cons_append, paragraphs_cons_of_ne _ (Ne.symm plain),
        inductionHypothesis othersUnbroken, List.modifyHead_modifyHead]
      rfl

/-- A line feed may stand between two paragraphs without separating them. -/
theorem append_break
    {left right : List Char} {c : Char} (leftFit : IsParagraph left)
    (rightFit : IsParagraph (c :: right)) (plain : c ≠ '\n') :
    IsParagraph (left ++ '\n' :: c :: right) := by
  intro rest
  have single :
      paragraphs ('\n' :: c :: (right ++ rest)) =
        (paragraphs rest).modifyHead fun text => '\n' :: c :: (right ++ text) := by
    rw [paragraphs_single_break _ plain, ← List.cons_append, rightFit, List.modifyHead_modifyHead]
    rfl
  rw [List.append_assoc, leftFit, List.cons_append, List.cons_append, single,
    List.modifyHead_modifyHead]
  simp [Function.comp_def]

/-- Lines that hold something make up a paragraph. -/
theorem of_lines
    {lines : List (List Char)} (fit : ∀ line ∈ lines, line ≠ [] ∧ '\n' ∉ line) :
    IsParagraph (['\n'].intercalate lines) := by
  induction lines with
  | nil => exact of_unbroken List.not_mem_nil
  | cons first others inductionHypothesis =>
      obtain ⟨⟨_, unbroken⟩, othersFit⟩ := List.forall_mem_cons.1 fit
      cases others with
      | nil => simpa using of_unbroken unbroken
      | cons second further =>
          -- The second line begins with a character, so the break before it is a single one.
          obtain ⟨⟨filled, secondUnbroken⟩, _⟩ := List.forall_mem_cons.1 othersFit
          obtain ⟨c, line, rfl⟩ := List.exists_cons_of_ne_nil filled
          have plain : c ≠ '\n' :=
            Ne.symm (List.ne_of_not_mem_cons secondUnbroken)
          obtain ⟨tail, shape⟩ :
              ∃ tail, ['\n'].intercalate ((c :: line) :: further) = c :: tail := by
            cases further with
            | nil => exact ⟨line, List.intercalate_singleton⟩
            | cons third last => exact ⟨_, List.intercalate_cons_cons⟩
          have behind := inductionHypothesis othersFit
          rw [shape] at behind
          rw [List.intercalate_cons_cons, shape, List.append_assoc, List.singleton_append]
          exact (of_unbroken unbroken).append_break behind plain

end IsParagraph

/-- Paragraphs are found again behind the separators between them. -/
theorem paragraphs_intercalate
    {texts : List (List Char)} (nonempty : texts ≠ []) (fit : ∀ text ∈ texts, IsParagraph text) :
    paragraphs (['\n', '\n'].intercalate texts) = texts := by
  induction texts with
  | nil => exact absurd rfl nonempty
  | cons first others inductionHypothesis =>
      obtain ⟨firstFit, othersFit⟩ := List.forall_mem_cons.1 fit
      cases others with
      | nil => simpa [paragraphs] using firstFit []
      | cons second further =>
          rw [List.intercalate_cons_cons, List.append_assoc, firstFit]
          simp [paragraphs, inductionHypothesis (List.cons_ne_nil _ _) othersFit]

/-! ## Lines -/

theorem withoutReturn_prefix (line : List Char) : withoutReturn line <+: line := by
  unfold withoutReturn
  split
  · exact List.dropLast_prefix line
  · exact List.prefix_rfl

/-- Every line begins one of the pieces between line feeds. -/
theorem exists_piece_of_mem_linesOfPieces
    {pieces : List (List Char)} {line : List Char} (member : line ∈ linesOfPieces pieces) :
    ∃ piece ∈ pieces, line <+: piece := by
  induction pieces with
  | nil => simp [linesOfPieces] at member
  | cons first others inductionHypothesis =>
      cases others with
      | nil =>
          unfold linesOfPieces at member
          split at member
          · cases member
          · exact ⟨line, member, List.prefix_rfl⟩
      | cons second further =>
          rcases List.mem_cons.1 member with rfl | inOthers
          · exact ⟨first, List.mem_cons_self, withoutReturn_prefix first⟩
          · obtain ⟨piece, inPieces, front⟩ := inductionHypothesis inOthers
            exact ⟨piece, List.mem_cons_of_mem first inPieces, front⟩

theorem unbroken_of_mem_lines
    {text line : List Char} (member : line ∈ lines text) :
    '\n' ∉ line := by
  obtain ⟨piece, inPieces, front⟩ := exists_piece_of_mem_linesOfPieces member
  intro broken
  simpa using unbroken_of_mem_pieces inPieces '\n' (front.subset broken)

/-- A text that holds something has a line. -/
theorem lines_ne_nil {text : List Char} (filled : text ≠ []) : lines text ≠ [] := by
  obtain ⟨c, rest, rfl⟩ := List.exists_cons_of_ne_nil filled
  obtain ⟨piece, others, shape⟩ :=
    List.exists_cons_of_ne_nil (pieces_ne_nil (· == '\n') rest)
  unfold lines pieces
  rw [shape]
  split
  · simp [linesOfPieces]
  · cases others with
    | nil => simp [linesOfPieces]
    | cons second further => simp [linesOfPieces]

end Text

namespace Diagnostic

/-! ## Blocks -/

/-- The lines of a report as it is shown on its own. -/
def displayLines (diagnostic : Diagnostic) : List (List Char) :=
  Text.lines diagnostic.display.toList

/-- What a text has to be for it to show a report as a block. -/
structure IsBlockOf (text : List Char) (diagnostic : Diagnostic) : Prop where
  /-- A bullet stands before the first line and an indentation before every other one. -/
  marked : ∃ (first : List Char) (others : List (List Char)),
    Text.pieces (· == '\n') text =
      (" - ".toList ++ first) :: others.map fun line => "   ".toList ++ line
  /-- Behind these marks stand the lines of the report. -/
  lines : (Text.pieces (· == '\n') text).map (List.drop 3) = diagnostic.displayLines

/-- A report is never shown as nothing: its kind stands in front. -/
theorem displayLines_ne_nil (diagnostic : Diagnostic) : diagnostic.displayLines ≠ [] := by
  apply Text.lines_ne_nil
  simp [display]

theorem block_toList (diagnostic : Diagnostic) :
    diagnostic.block.toList = ['\n'].intercalate (blockLines diagnostic.displayLines) := by
  simp [block, displayLines, String.toList_intercalate]

/-- The lines of a block hold at least their mark, and no line feed. -/
theorem fit_blockLines
    {lines : List (List Char)} (unbroken : ∀ line ∈ lines, '\n' ∉ line) :
    ∀ line ∈ blockLines lines, line ≠ [] ∧ '\n' ∉ line := by
  cases lines with
  | nil => simp [blockLines]
  | cons first others =>
      obtain ⟨firstUnbroken, othersUnbroken⟩ := List.forall_mem_cons.1 unbroken
      simp only [blockLines, List.forall_mem_cons, List.forall_mem_map]
      refine ⟨by simp [firstUnbroken], fun line member => ?_⟩
      simp [othersUnbroken line member]

theorem isParagraph_block (diagnostic : Diagnostic) : Text.IsParagraph diagnostic.block.toList := by
  rw [block_toList]
  exact .of_lines (fit_blockLines fun _ member => Text.unbroken_of_mem_lines member)

/-- The lines of a block are what it was made of. -/
theorem pieces_block (diagnostic : Diagnostic) :
    Text.pieces (· == '\n') diagnostic.block.toList = blockLines diagnostic.displayLines := by
  have fit : ∀ line ∈ blockLines diagnostic.displayLines, line ≠ [] ∧ '\n' ∉ line :=
    fit_blockLines fun _ member => Text.unbroken_of_mem_lines member
  have filled : blockLines diagnostic.displayLines ≠ [] := by
    obtain ⟨first, others, shape⟩ := List.exists_cons_of_ne_nil diagnostic.displayLines_ne_nil
    simp [shape, blockLines]
  rw [block_toList]
  exact Text.pieces_intercalate (fun line member => (fit line member).2) filled

theorem isBlockOf_block (diagnostic : Diagnostic) :
    IsBlockOf diagnostic.block.toList diagnostic := by
  obtain ⟨first, others, shape⟩ := List.exists_cons_of_ne_nil diagnostic.displayLines_ne_nil
  constructor
  · rw [pieces_block, shape]
    exact ⟨first, others, rfl⟩
  · rw [pieces_block, shape]
    simp [blockLines, Function.comp_def]

/-! ## Lists of reports -/

/-- The blocks of reports that are not at hand but referred to. -/
def referencedBlocks {ρ : Type} (report : ρ → Diagnostic) (references : List ρ) : String :=
  String.intercalate "\n\n" (references.map fun reference => (report reference).block)

theorem toList_blocks (diagnostics : List Diagnostic) :
    (blocks diagnostics).toList =
      ['\n', '\n'].intercalate (diagnostics.map fun diagnostic => diagnostic.block.toList) := by
  simp [blocks, String.toList_intercalate, Function.comp_def]

theorem paragraphs_blocks {diagnostics : List Diagnostic} (nonempty : diagnostics ≠ []) :
    Text.paragraphs (blocks diagnostics).toList =
      diagnostics.map fun diagnostic => diagnostic.block.toList := by
  rw [toList_blocks]
  apply Text.paragraphs_intercalate
  · simpa using nonempty
  · rw [List.forall_mem_map]
    exact fun diagnostic _ => diagnostic.isParagraph_block

/-- Paragraph by paragraph, the text of some reports shows each of them. -/
theorem blocks_shown {diagnostics : List Diagnostic} (nonempty : diagnostics ≠ []) :
    List.Forall₂ IsBlockOf (Text.paragraphs (blocks diagnostics).toList) diagnostics := by
  rw [paragraphs_blocks nonempty, List.forall₂_map_left_iff, List.forall₂_same]
  exact fun diagnostic _ => diagnostic.isBlockOf_block

theorem blocks_ne_nil {diagnostics : List Diagnostic} (nonempty : diagnostics ≠ []) :
    (blocks diagnostics).toList ≠ [] := by
  intro empty
  have paragraphs := paragraphs_blocks nonempty
  rw [empty] at paragraphs
  obtain ⟨diagnostic, others, rfl⟩ := List.exists_cons_of_ne_nil nonempty
  obtain ⟨first, further, marked⟩ := diagnostic.isBlockOf_block.marked
  have noText : diagnostic.block.toList = [] := (List.cons.inj paragraphs).1.symm
  rw [noText] at marked
  cases marked

/-- The text of some reports depends on their lines alone. -/
theorem blocks_eq (diagnostics : List Diagnostic) :
    blocks diagnostics =
      String.intercalate "\n\n" ((diagnostics.map displayLines).map fun lines =>
        String.intercalate "\n" ((blockLines lines).map String.ofList)) := by
  rw [List.map_map]
  rfl

/-- The lines of all reports in a text made of blocks, without their marks. -/
def linesOfBlocks (text : List Char) : List (List (List Char)) :=
  if text = [] then []
  else (Text.paragraphs text).map fun paragraph =>
    (Text.pieces (· == '\n') paragraph).map (List.drop 3)

theorem linesOfBlocks_blocks (diagnostics : List Diagnostic) :
    linesOfBlocks (blocks diagnostics).toList = diagnostics.map displayLines := by
  by_cases nonempty : diagnostics = []
  · simp [nonempty, linesOfBlocks, blocks]
  · rw [linesOfBlocks, if_neg (blocks_ne_nil nonempty), paragraphs_blocks nonempty, List.map_map]
    apply List.map_congr_left
    intro diagnostic _
    rw [Function.comp_apply]
    exact diagnostic.isBlockOf_block.lines

/-- **Blocks tell reports apart.** Between the empty lines of the text of some reports there is one
block for each report, in order, whatever their messages, sources and codes hold. So two lists of
reports have one text only if the lines of their reports are the same, report by report. It makes no
difference whether the reports are at hand or referred to. -/
theorem blocks_tell_reports_apart :
    (∀ (first : Diagnostic) (others : List Diagnostic),
      List.Forall₂ IsBlockOf (Text.paragraphs (blocks (first :: others)).toList)
        (first :: others)) ∧
    (∀ left right : List Diagnostic,
      blocks left = blocks right ↔ left.map displayLines = right.map displayLines) ∧
    ∀ {ρ : Type} (report : ρ → Diagnostic) (references : List ρ),
      referencedBlocks report references = blocks (references.map report) := by
  refine ⟨?_, ?_, ?_⟩
  · intro first others
    exact blocks_shown (List.cons_ne_nil first others)
  · intro left right
    constructor
    · intro sameText
      rw [← linesOfBlocks_blocks left, sameText, linesOfBlocks_blocks]
    · intro sameLines
      rw [blocks_eq left, sameLines, ← blocks_eq]
  · intro ρ report references
    rw [referencedBlocks, blocks, List.map_map]
    rfl

/-- A message may look like two blocks; it still is in one. -/
example :
    (Text.paragraphs (blocks [.new .error "a\n\n - [NOTE] b", .new .note "c"]).toList).map
        String.ofList =
      [" - [ERROR] a\n   \n    - [NOTE] b", " - [NOTE] c"] := by
  decide +kernel

end Diagnostic

end CompilationChecks
