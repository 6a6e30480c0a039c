import CompilationChecks.Proofs.ByteOrder
import CompilationChecks.Proofs.Containers
import CompilationChecks.Proofs.Resolution
import Mathlib.Data.List.Basic

/-!
# What a group lists is all it knows

The listing of the top package names every file of a group: container by container, and within one
container in the order of the bytes of the paths. Every other answer of the group can be read off
it. The listing of a package is the part that lies below the directory of the package, a look-up
finds the first entry with the path, and reading gives what the container of that entry holds.
Listing compares texts, and looking up searches tables; both agree with the segments of the paths
because containers keep paths in normal form only.
-/

namespace CompilationChecks

namespace Path

/-! ## Below a directory -/

/-- A path below a directory: its segments are those of the directory and at least one more, exactly
one more unless `recurse` is set. Below the top directory, which has no segments, is every path, but
only those without a slash are directly below it. -/
def IsBelow (directory : String) (recurse : Bool) (path : String) : Prop :=
  if segments directory = [] then recurse = true ∨ '/' ∉ path.toList
  else
    ∃ rest, segments path = segments directory ++ rest ∧ rest ≠ [] ∧
      (recurse = true ∨ rest.length = 1)

theorem exists_append_iff_drop
    {α : Type} {whole front : List α} {holds : List α → Prop} :
    (∃ rest, whole = front ++ rest ∧ holds rest) ↔
      whole = front ++ whole.drop front.length ∧ holds (whole.drop front.length) := by
  constructor
  · rintro ⟨rest, rfl, held⟩
    rw [List.drop_left]
    exact ⟨rfl, held⟩
  · intro found
    exact ⟨_, found⟩

instance (directory : String) (recurse : Bool) (path : String) :
    Decidable (IsBelow directory recurse path) :=
  have := fun holds [DecidablePred holds] =>
    decidable_of_iff' _
      (@exists_append_iff_drop _ (segments path) (segments directory) holds)
  inferInstanceAs (Decidable (ite _ _ _))

theorem slash_notMem_join_iff
    {parts : List String} (fit : ∀ part ∈ parts, IsSegment part) (nonempty : parts ≠ []) :
    '/' ∉ (join parts).toList ↔ parts.length = 1 := by
  cases parts with
  | nil => exact absurd rfl nonempty
  | cons first rest =>
      cases rest with
      | nil =>
          have noSlash := (fit first List.mem_cons_self).slash_notMem
          simpa [join] using noSlash
      | cons second others =>
          simp [join]

/-- A normal form that begins with a directory and a slash has segments below the directory. -/
theorem exists_segments_of_startsWith
    {directory path tail : String} (normal : normalize path = path)
    (split : path = normalize directory ++ "/" ++ tail) :
    ∃ rest, segments path = segments directory ++ rest ∧ rest ≠ [] := by
  have parts : segments path = segments directory ++ segments tail := by
    rw [split, segments_append_slash, segments_normalize]
  refine ⟨segments tail, parts, ?_⟩
  intro noTail
  have sameText : path = normalize directory := by
    rw [← normal, normalize, parts, noTail, List.append_nil, normalize]
  have sameLength := congrArg String.length (sameText.symm.trans split)
  simp only [String.length_append] at sameLength
  have slash : "/".length = 1 := rfl
  omega

theorem eq_append_of_segments
    {directory path : String} {rest : List String} (normal : normalize path = path)
    (named : segments directory ≠ []) (parts : segments path = segments directory ++ rest)
    (nonempty : rest ≠ []) :
    path = normalize directory ++ "/" ++ join rest := by
  calc
    path = join (segments path) := normal.symm
    _ = join (segments directory ++ rest) := by rw [parts]
    _ = join (segments directory) ++ "/" ++ join rest := join_append named nonempty

end Path

namespace Container

theorem isListed_iff_of_segments
    {directory path : String} {rest : List String} (normal : Path.normalize path = path)
    (named : Path.segments directory ≠ [])
    (parts : Path.segments path = Path.segments directory ++ rest) (nonempty : rest ≠ [])
    (recurse : Bool) :
    isListed (directoryStart directory) recurse path = true ↔
      recurse = true ∨ rest.length = 1 := by
  have fit : ∀ part ∈ rest, Path.IsSegment part := by
    intro part member
    have inPath : part ∈ Path.segments path := by
      rw [parts]
      exact List.mem_append_right _ member
    exact Path.isSegment_of_mem_segments inPath
  have text : path.toList =
      (Path.normalize directory).toList ++ ['/'] ++ (Path.join rest).toList := by
    have whole := Path.eq_append_of_segments normal named parts nonempty
    simpa using congrArg String.toList whole
  have start : directoryStart directory = (Path.normalize directory).toList ++ ['/'] := by
    have hasText : Path.normalize directory ≠ "" := named ∘ Path.normalize_eq_empty_iff.1
    simp [directoryStart, hasText]
  have single := Path.slash_notMem_join_iff fit nonempty
  simp [isListed, start, text, single]

/-- Comparing texts finds the paths below a directory, as long as they are normal forms. -/
theorem isListed_iff_isBelow
    {path : String} (normal : Path.normalize path = path) (directory : String) (recurse : Bool) :
    isListed (directoryStart directory) recurse path = true ↔
      Path.IsBelow directory recurse path := by
  unfold Path.IsBelow
  by_cases top : Path.segments directory = []
  · have empty : Path.normalize directory = "" := Path.normalize_eq_empty_iff.2 top
    simp [isListed, directoryStart, top, empty]
  · rw [if_neg top]
    constructor
    · intro listed
      have starts : directoryStart directory <+: path.toList := by
        rw [isListed, Bool.and_eq_true, List.isPrefixOf_iff_prefix] at listed
        exact listed.1
      have nonempty : Path.normalize directory ≠ "" := top ∘ Path.normalize_eq_empty_iff.1
      obtain ⟨tail, split⟩ := starts
      have text : path = Path.normalize directory ++ "/" ++ String.ofList tail := by
        apply String.toList_inj.1
        simpa [directoryStart, nonempty] using split.symm
      obtain ⟨rest, parts, nonemptyRest⟩ := Path.exists_segments_of_startsWith normal text
      have deep := (isListed_iff_of_segments normal top parts nonemptyRest recurse).1 listed
      exact ⟨rest, parts, nonemptyRest, deep⟩
    · rintro ⟨rest, parts, nonemptyRest, deep⟩
      exact (isListed_iff_of_segments normal top parts nonemptyRest recurse).2 deep

/-! ## Stored paths -/

theorem Tidy.list_eq
    {container : Container} (tidy : container.Tidy) (directory : String) (recurse : Bool) :
    container.list directory recurse =
      container.paths.filter fun path =>
        Path.IsBelow (Path.normalize directory) recurse path := by
  have sameStart : directoryStart (Path.normalize directory) = directoryStart directory := by
    rw [directoryStart, Path.normalize_normalize, directoryStart]
  apply List.filter_congr
  intro path member
  rw [Bool.eq_iff_iff, decide_eq_true_iff, ← sameStart]
  exact isListed_iff_isBelow (tidy path member) (Path.normalize directory) recurse

end Container

/-- The shelf with a container for each name, filled by the writes that stand with the name. -/
def Shelf.filled (fillings : List (String × List (String × Bytes))) : Shelf :=
  ⟨fillings.map fun filling => (Container.new filling.1).writeAll filling.2⟩

theorem Shelf.tidy_filled (fillings : List (String × List (String × Bytes))) :
    (Shelf.filled fillings).Tidy := by
  intro id
  simp only [get, filled, List.getD_eq_getElem?_getD, List.getElem?_map]
  cases fillings[id]? with
  | none => exact Container.tidy_new ""
  | some filling => exact (Container.tidy_new filling.1).writeAll filling.2

namespace PackageGroup

variable (group : PackageGroup) (shelf : Shelf)

/-- The entry of the listing for a path in a container. -/
def entry (container : Container) (path : String) : FileRef :=
  .locate group.location container.name path

theorem list_top :
    group.list shelf "" [] true =
      (group.containers shelf).flatMap fun container =>
        container.paths.map (group.entry container) := by
  have top : Path.packageDirectory "" = "" := rfl
  unfold list
  rw [top]
  simp only [Container.list_top, List.isEmpty_nil, Bool.true_or]
  exact List.filter_eq_self.2 fun _ _ => rfl

theorem list_eq_filter_list_top
    {shelf : Shelf} (tidy : shelf.Tidy) (packageName : String) (kinds : List FileKind)
    (recurse : Bool) :
    group.list shelf packageName kinds recurse =
      (group.list shelf "" [] true).filter fun file =>
        (kinds = [] ∨ file.kind ∈ kinds) ∧
          Path.IsBelow (Path.normalize (Path.packageDirectory packageName)) recurse file.path := by
  have listed :
      ∀ container ∈ group.containers shelf,
        container.list (Path.packageDirectory packageName) recurse =
          container.paths.filter fun path =>
            Path.IsBelow (Path.normalize (Path.packageDirectory packageName)) recurse path := by
    intro container member
    obtain ⟨id, _, rfl⟩ := List.mem_map.1 member
    exact (tidy id).list_eq _ _
  rw [list_top, List.filter_flatMap]
  unfold list
  rw [List.filter_flatMap]
  refine List.flatMap_congr ?_
  intro container member
  rw [listed container member, List.filter_map, List.filter_map, List.filter_filter]
  have samePredicate :
      (fun path =>
          (kinds.isEmpty || kinds.contains (group.entry container path).kind) &&
            decide (Path.IsBelow (Path.normalize (Path.packageDirectory packageName)) recurse path)) =
        fun path =>
          decide ((kinds = [] ∨ (group.entry container path).kind ∈ kinds) ∧
            Path.IsBelow (Path.normalize (Path.packageDirectory packageName)) recurse path) := by
    funext path
    have anyKind : kinds.isEmpty = decide (kinds = []) := by
      cases kinds <;> rfl
    simp [anyKind]
  exact congrArg
    (fun keep => (container.paths.filter keep).map (group.entry container)) samePredicate

/-- Among the entries of one container a look-up finds the path if the container holds it. -/
theorem find?_map_entry (container : Container) (path : String) :
    ((container.paths.map (group.entry container)).find? fun file =>
        file.path = Path.normalize path) =
      if container.contains path then some (group.entry container (Path.normalize path))
      else none := by
  by_cases held : container.contains path = true
  · rw [if_pos held, List.find?_map, Option.map_eq_some_iff]
    refine ⟨Path.normalize path, ?_, rfl⟩
    have isStored := Container.normalize_mem_paths_iff.2 held
    cases found : container.paths.find? fun stored => stored = Path.normalize path with
    | none => simpa using List.find?_eq_none.1 found _ isStored
    | some stored =>
        have same : stored = Path.normalize path := by
          simpa using List.find?_some found
        exact found.trans (congrArg some same)
  · rw [if_neg held, List.find?_eq_none]
    intro file member same
    obtain ⟨stored, isStored, rfl⟩ := List.mem_map.1 member
    have samePath : stored = Path.normalize path := of_decide_eq_true same
    rw [samePath] at isStored
    exact held (Container.normalize_mem_paths_iff.1 isStored)

theorem file?_eq_find?_list_top (path : String) :
    group.file? shelf path =
      (group.list shelf "" [] true).find? fun file => file.path = Path.normalize path := by
  rw [list_top, List.find?_flatMap]
  unfold file?
  induction group.containers shelf with
  | nil => rfl
  | cons container others inductionHypothesis =>
      rw [List.findSome?_cons, List.find?_cons, Container.contains_normalize, find?_map_entry]
      by_cases held : container.contains path = true
      · simp only [held, if_true]
        rfl
      · simp only [held, Bool.false_eq_true, if_false]
        exact inductionHypothesis

theorem contains_iff_mem_list_top (path : String) :
    group.contains shelf path = true ↔
      ∃ file ∈ group.list shelf "" [] true, file.path = Path.normalize path := by
  simp only [contains, List.any_eq_true, list_top, List.mem_flatMap, List.mem_map]
  constructor
  · rintro ⟨container, member, held⟩
    exact ⟨_, ⟨container, member, _, Container.normalize_mem_paths_iff.2 held, rfl⟩, rfl⟩
  · rintro ⟨_, ⟨container, member, stored, isStored, rfl⟩, same⟩
    have samePath : stored = Path.normalize path := same
    rw [samePath] at isStored
    exact ⟨container, member, Container.normalize_mem_paths_iff.1 isStored⟩

theorem read_eq_none_iff (path : String) :
    group.read shelf path = none ↔ group.file? shelf path = none := by
  simp [read, file?, Container.contains_eq_isSome_read]

/-- The file that is found stands in the first container that holds its path, and what that
container holds is what is read. -/
theorem exists_first_of_file?
    {path : String} {file : FileRef} (found : group.file? shelf path = some file) :
    ∃ before container after content,
      group.containers shelf = before ++ container :: after ∧
        (∀ other ∈ before, Path.normalize path ∉ other.paths) ∧
        file = group.entry container (Path.normalize path) ∧
        container.read path = some content ∧ group.read shelf path = some content := by
  obtain ⟨container, first, rfl⟩ := Option.map_eq_some_iff.1 found
  obtain ⟨held, before, after, shape, skipped⟩ := List.find?_eq_some_iff_append.1 first
  rw [Container.contains_normalize, Container.contains_eq_isSome_read] at held
  obtain ⟨content, stored⟩ := Option.isSome_iff_exists.1 held
  have unread : ∀ other ∈ before, other.read path = none := by
    intro other member
    simpa [Container.contains_eq_isSome_read] using skipped other member
  refine ⟨before, container, after, content, shape, ?_, rfl, stored, ?_⟩
  · intro other member isStored
    have contained := Container.normalize_mem_paths_iff.1 isStored
    rw [Container.contains_eq_isSome_read, unread other member] at contained
    cases contained
  · have noneBefore : before.findSome? (fun other => other.read path) = none :=
      List.findSome?_eq_none_iff.2 unread
    rw [read, shape, List.findSome?_append, noneBefore, Option.none_or, List.findSome?_cons, stored]

end PackageGroup

/-- **The listing of a group is all it knows.** Of a group over containers filled by any writes, the
listing of the top package names every path of every container, container by container, and within
one container in the order of the bytes of the paths. The listing of a package keeps the entries of
the wanted kinds that lie below the directory of the package. A path is looked up as the first entry
with its normal form, it is there if there is such an entry, and reading gives what the container of
that entry holds, which is the first one to hold the path. -/
theorem listing_determines_answers
    (fillings : List (String × List (String × Bytes))) (group : PackageGroup) :
    let shelf := Shelf.filled fillings
    let all := group.list shelf "" [] true
    (all = (group.containers shelf).flatMap fun container =>
        container.paths.map (group.entry container)) ∧
      (∀ container ∈ group.containers shelf,
        container.paths.Pairwise fun left right => Utf8.encode left < Utf8.encode right) ∧
      (∀ (packageName : String) (kinds : List FileKind) (recurse : Bool),
        group.list shelf packageName kinds recurse =
          all.filter fun file =>
            (kinds = [] ∨ file.kind ∈ kinds) ∧
              Path.IsBelow (Path.normalize (Path.packageDirectory packageName)) recurse
                file.path) ∧
      ∀ path : String,
        (group.file? shelf path = all.find? fun file => file.path = Path.normalize path) ∧
          (group.contains shelf path = true ↔ ∃ file ∈ all, file.path = Path.normalize path) ∧
          (group.file? shelf path = none → group.read shelf path = none) ∧
          ∀ file, group.file? shelf path = some file →
            ∃ before container after content,
              group.containers shelf = before ++ container :: after ∧
                (∀ other ∈ before, Path.normalize path ∉ other.paths) ∧
                file = group.entry container (Path.normalize path) ∧
                container.read path = some content ∧
                group.read shelf path = some content := by
  intro shelf all
  have tidy : shelf.Tidy := Shelf.tidy_filled fillings
  refine ⟨group.list_top shelf, ?_, ?_, fun path => ⟨?_, ?_, ?_, ?_⟩⟩
  · intro container _
    exact container.files.keys_in_byte_order
  · intro packageName kinds recurse
    exact group.list_eq_filter_list_top tidy packageName kinds recurse
  · exact group.file?_eq_find?_list_top shelf path
  · exact group.contains_iff_mem_list_top shelf path
  · exact (group.read_eq_none_iff shelf path).2
  · intro file found
    exact group.exists_first_of_file? shelf found

/-- A directory lists its files under any spelling, but not those of a sibling with a longer name. -/
example :
    let shelf := Shelf.filled
      [("first", [("a/B.java", [1]), ("ab/C.java", [])]), ("second", [("./a\\B.java", [2])])]
    (PackageGroup.list ⟨.standard .classPath, [0, 1]⟩ shelf "a" [.source] false).map
        (fun file => (file.container, file.path)) =
      [("first", "a/B.java"), ("second", "a/B.java")] := by
  decide

end CompilationChecks
