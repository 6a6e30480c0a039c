import CompilationChecks.Proofs.Resolution

/-!
# Canonical paths

A path is canonical if it is made of segments with single slashes between them, where a segment is
neither empty nor a single dot and has no separator. These paths are the normal forms, and the
segments of one can be read off by cutting it at its slashes. Putting a separator between two paths
puts the segments of the one behind those of the other, however the two are spelled.
-/

namespace CompilationChecks

namespace Text

theorem pieces_map (isBreak : Char → Bool) (change : Char → Char) (text : List Char) :
    pieces isBreak (text.map change) =
      (pieces (fun c => isBreak (change c)) text).map (List.map change) := by
  induction text with
  | nil => rfl
  | cons c rest inductionHypothesis =>
      obtain ⟨first, others, shape⟩ :=
        List.exists_cons_of_ne_nil (pieces_ne_nil (fun c => isBreak (change c)) rest)
      by_cases breaks : isBreak (change c) = true
      · simp [pieces, breaks, inductionHypothesis]
      · simp [pieces, breaks, inductionHypothesis, shape]

end Text

namespace Path

/-! ## Segments and their texts -/

theorem isMeaningful_toList_iff (segment : String) :
    isMeaningful segment.toList = true ↔ segment ≠ "" ∧ segment ≠ "." := by
  have dot : segment.toList = ['.'] ↔ segment = "." := by
    rw [← String.toList_inj]
    rfl
  simp [isMeaningful, dot]

theorem isSegment_iff {segment : String} :
    IsSegment segment ↔
      ('/' ∉ segment.toList ∧ '\\' ∉ segment.toList) ∧ segment ≠ "" ∧ segment ≠ "." := by
  have unbroken :
      (∀ c ∈ segment.toList, isSeparator c = false) ↔
        '/' ∉ segment.toList ∧ '\\' ∉ segment.toList := by
    constructor
    · intro plain
      exact ⟨fun slash => absurd (plain '/' slash) (by decide),
        fun backslash => absurd (plain '\\' backslash) (by decide)⟩
    · rintro ⟨noSlash, noBackslash⟩ c member
      have notSlash : c ≠ '/' := fun same => noSlash (same ▸ member)
      have notBackslash : c ≠ '\\' := fun same => noBackslash (same ▸ member)
      simp [isSeparator, notSlash, notBackslash]
  rw [IsSegment, unbroken, isMeaningful_toList_iff]

/-! ## Slashes for backslashes -/

/-- A path with slashes for backslashes. -/
def withSlashes (path : String) : String :=
  String.ofList (path.toList.map fun c => if c = '\\' then '/' else c)

theorem parts_withSlashes (path : String) :
    parts (withSlashes path) = (Text.pieces isSeparator path.toList).map String.ofList := by
  have sameBreaks : (fun c => (if c = '\\' then '/' else c) == '/') = isSeparator := by
    funext c
    by_cases backslash : c = '\\'
    · simp [isSeparator, backslash]
    · simp [isSeparator, backslash]
  -- Between separators stands no backslash that could change.
  have unchanged :
      ∀ piece ∈ Text.pieces isSeparator path.toList,
        piece.map (fun c => if c = '\\' then '/' else c) = piece := by
    intro piece member
    have plain : ∀ c ∈ piece, (if c = '\\' then '/' else c) = c := by
      intro c inPiece
      refine if_neg ?_
      rintro rfl
      exact absurd (Text.unbroken_of_mem_pieces member '\\' inPiece) (by decide)
    rw [List.map_congr_left plain, List.map_id']
  unfold parts withSlashes
  rw [String.toList_ofList, Text.pieces_map, sameBreaks, List.map_congr_left unchanged,
    List.map_id']

/-- The segments of a path are what stands between its slashes, backslashes read as slashes, without
the empty parts and the dots. -/
theorem segments_eq_filter_parts (path : String) :
    segments path =
      (parts (withSlashes path)).filter fun part => part ≠ "" ∧ part ≠ "." := by
  have sameKept :
      ((fun part => decide (part ≠ "" ∧ part ≠ ".")) ∘ String.ofList) = isMeaningful := by
    funext piece
    have meaningful := isMeaningful_toList_iff (String.ofList piece)
    rw [String.toList_ofList] at meaningful
    calc
      decide (String.ofList piece ≠ "" ∧ String.ofList piece ≠ ".")
          = decide (isMeaningful piece = true) := decide_eq_decide.2 meaningful.symm
      _ = isMeaningful piece := Bool.decide_eq_true
  rw [parts_withSlashes, List.filter_map, sameKept, segments]

/-! ## Components -/

/-- The segments that the text of a path shows: what stands between its slashes. The empty path
shows none. -/
def components (path : String) : List String :=
  if path = "" then [] else parts path

theorem components_of_ne_empty {path : String} (named : path ≠ "") :
    components path = parts path :=
  if_neg named

theorem join_components (path : String) : join (components path) = path := by
  by_cases empty : path = ""
  · rw [empty]
    rfl
  · rw [components_of_ne_empty empty, join_parts]

theorem mem_parts_of_mem_components
    {path component : String} (member : component ∈ components path) :
    component ∈ parts path := by
  by_cases empty : path = ""
  · rw [empty] at member
    cases member
  · rwa [components_of_ne_empty empty] at member

theorem components_join
    {segments : List String} (fit : ∀ segment ∈ segments, IsSegment segment) :
    components (join segments) = segments := by
  -- Cutting the empty text gives one empty part, so it is no case of `parts_join`.
  by_cases none : segments = []
  · rw [none]
    rfl
  · have named : join segments ≠ "" := by
      intro empty
      have readBack := segments_join fit
      rw [empty, segments_empty] at readBack
      exact none readBack.symm
    rw [components_of_ne_empty named]
    exact parts_join (fun segment member => (fit segment member).slash_notMem) none

theorem components_normalize (path : String) : components (normalize path) = segments path :=
  components_join fun _ member => isSegment_of_mem_segments member

/-! ## Canonical paths -/

/-- A path of segments with single slashes between them. The empty path is one. -/
structure IsCanonical (path : String) : Prop where
  noBackslash : '\\' ∉ path.toList
  noEmptySegment : "" ∉ components path
  noDotSegment : "." ∉ components path
  noLeadingSlash : path.toList.head? ≠ some '/'
  noTrailingSlash : path.toList.getLast? ≠ some '/'

namespace IsCanonical

theorem isSegment
    {path component : String} (canonical : IsCanonical path)
    (member : component ∈ components path) :
    IsSegment component := by
  have inParts := mem_parts_of_mem_components member
  refine isSegment_iff.2 ⟨⟨slash_notMem_of_mem_parts inParts, ?_⟩, ?_, ?_⟩
  · intro backslash
    exact canonical.noBackslash (mem_toList_of_mem_parts inParts backslash)
  · rintro rfl
    exact canonical.noEmptySegment member
  · rintro rfl
    exact canonical.noDotSegment member

theorem of_join {segments : List String} (fit : ∀ segment ∈ segments, IsSegment segment) :
    IsCanonical (join segments) where
  noBackslash := by
    intro backslash
    rcases mem_toList_join backslash with slash | ⟨segment, member, inSegment⟩
    · exact absurd slash (by decide)
    · exact (isSegment_iff.1 (fit segment member)).1.2 inSegment
  noEmptySegment := by
    rw [components_join fit]
    exact fun member => (isSegment_iff.1 (fit "" member)).2.1 rfl
  noDotSegment := by
    rw [components_join fit]
    exact fun member => (isSegment_iff.1 (fit "." member)).2.2 rfl
  noLeadingSlash := by
    intro slash
    obtain ⟨back, text⟩ := List.head?_eq_some_iff.1 slash
    exact toList_join_ne_of_edge fit (Or.inl rfl) text
  noTrailingSlash := by
    intro slash
    obtain ⟨front, text⟩ := List.getLast?_eq_some_iff.1 slash
    exact toList_join_ne_of_edge fit (Or.inr rfl) text

theorem normalize (path : String) : IsCanonical (normalize path) :=
  of_join fun _ member => isSegment_of_mem_segments member

theorem normalize_eq {path : String} (canonical : IsCanonical path) :
    Path.normalize path = path := by
  have readOff : segments path = components path := by
    calc
      segments path = segments (join (components path)) := by rw [join_components]
      _ = components path := segments_join fun _ member => canonical.isSegment member
  calc
    Path.normalize path = join (components path) := congrArg join readOff
    _ = path := join_components path

end IsCanonical

theorem normalize_eq_self_iff (path : String) : normalize path = path ↔ IsCanonical path := by
  constructor
  · intro normal
    rw [← normal]
    exact IsCanonical.normalize path
  · exact IsCanonical.normalize_eq

/-! ## Joining -/

/-- Where the segments of two paths come together, so do the components of their normal forms. -/
theorem normalize_of_segments_append
    {path front back : String} (together : segments path = segments front ++ segments back) :
    normalize path = join (components (normalize front) ++ components (normalize back)) := by
  rw [components_normalize, components_normalize, ← together, normalize]

theorem segments_append_backslash (front back : String) :
    segments (front ++ "\\" ++ back) = segments front ++ segments back :=
  segments_of_cut (rfl : isSeparator '\\' = true) (by simp)

/-- **Normal forms are canonical and agree with joining.** The normal form of a path is canonical,
and its segments are what stands between the separators of the path, without the empty parts and the
dots. Taking it again changes nothing, and the canonical paths, the empty one among them, are the
only ones that it leaves as they are. Behind a slash or a backslash a path adds its segments to
those of the path before, and so does a name to those of the directory of its package. -/
theorem normal_forms_are_canonical_and_agree_with_joining :
    (∀ path,
      IsCanonical (normalize path) ∧
        components (normalize path) =
          (parts (withSlashes path)).filter (fun part => part ≠ "" ∧ part ≠ ".") ∧
        normalize (normalize path) = normalize path ∧
        (normalize path = path ↔ IsCanonical path)) ∧
    (∀ front back,
      let joined := join (components (normalize front) ++ components (normalize back))
      normalize (front ++ "/" ++ back) = joined ∧ normalize (front ++ "\\" ++ back) = joined) ∧
    ∀ packageName relativeName,
      normalize (resolve packageName relativeName) =
        join (components (normalize (packageDirectory packageName)) ++
          components (normalize relativeName)) := by
  refine ⟨fun path => ⟨IsCanonical.normalize path, ?_, normalize_normalize path,
      normalize_eq_self_iff path⟩,
    fun front back => ⟨?_, ?_⟩, fun packageName relativeName => ?_⟩
  · rw [components_normalize, segments_eq_filter_parts]
  · exact normalize_of_segments_append (segments_append_slash front back)
  · exact normalize_of_segments_append (segments_append_backslash front back)
  · exact normalize_of_segments_append (segments_resolve packageName relativeName)

/-- Both separators, runs of them, dots and an empty side. -/
example :
    (normalize "./a//b\\c.txt", normalize "/\\.", components (normalize "a/./b"),
      normalize ("a/." ++ "\\" ++ "\\b/"), resolve "com.example" "./Foo.java") =
      ("a/b/c.txt", "", ["a", "b"], "a/b", "com/example/Foo.java") := by
  decide

end Path

end CompilationChecks
