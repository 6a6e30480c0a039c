import CompilationChecks.Proofs.Verification.Verdict
import Mathlib.Data.List.Forall2

/-!
# Outputs become containers

Every name of outputs that stands for a location becomes one container of it, with all files that
are recorded under the name. Several names may stand for one location, and several paths of a record
may have one normal form. Of such paths the last one counts and of such names the first one, both in
the order of their bytes.
-/

namespace CompilationChecks

namespace Fixture

/-! ## One record -/

/-- A text that is recorded for a path: among the recorded paths with the same normal form, none
comes behind the one that the text belongs to. -/
def IsTextOf (files : SortedTable String String) (path text : String) : Prop :=
  ∃ recorded, (recorded, text) ∈ files.entries ∧
    Path.normalize recorded = Path.normalize path ∧
    ∀ other ∈ files.keys, Path.normalize other = Path.normalize path →
      ¬ Utf8.encode recorded < Utf8.encode other

/-- A container holds what is recorded for a location under one name, and nothing else. -/
structure Materialises (location : Location) (container : Container)
    (files : SortedTable String String) : Prop where
  name : container.name = location.name
  paths : ∀ path, path ∈ container.paths ↔ ∃ recorded ∈ files.keys, Path.normalize recorded = path
  contents : ∀ path content, container.read path = some content ↔
    ∃ text, IsTextOf files path text ∧ content = Utf8.encode text
  /-- A file can get lost to another one with the same normal form only. -/
  kept : ∀ recorded text, (recorded, text) ∈ files.entries →
    (∀ other ∈ files.keys, Path.normalize other = Path.normalize recorded → other = recorded) →
      container.read recorded = some (Utf8.encode text)

variable {location : Location} {files : SortedTable String String}

theorem read_containerOf_iff {path : String} {content : Bytes} :
    (containerOf location files).read path = some content ↔
      ∃ text, IsTextOf files path text ∧ content = Utf8.encode text := by
  have ordered := files.entries_in_byte_order
  unfold containerOf
  rw [Container.read_writeAll, Container.read_new, Option.or_none,
    Container.lastContent?_eq_some_iff]
  constructor
  · rintro ⟨before, file, after, shape, same, rfl, last⟩
    obtain ⟨front, rest, split, rfl, restShape⟩ := List.map_eq_append_iff.1 shape
    obtain ⟨entry, back, rfl, rfl, rfl⟩ := List.map_eq_cons_iff.1 restShape
    refine ⟨entry.2, ⟨entry.1, ?_, same, ?_⟩, rfl⟩
    · rw [split]
      exact List.mem_append_right front List.mem_cons_self
    · intro other isKey sameOther greater
      obtain ⟨found, member, rfl⟩ := List.mem_map.1 isKey
      have behind : found ∈ back := (Utf8.mem_after_iff ordered split member).2 greater
      exact last _ (List.mem_map.2 ⟨found, behind, rfl⟩) sameOther
  · rintro ⟨text, ⟨recorded, member, same, last⟩, rfl⟩
    obtain ⟨front, back, split⟩ := List.append_of_mem member
    let encoded := fun file : String × String => (file.1, Utf8.encode file.2)
    refine ⟨front.map encoded, encoded (recorded, text), back.map encoded, ?_, same, rfl, ?_⟩
    · rw [split, List.map_append, List.map_cons]
    · intro later inBack
      obtain ⟨found, behind, rfl⟩ := List.mem_map.1 inBack
      have foundMember : found ∈ files.entries := by
        rw [split]
        exact List.mem_append_right front (List.mem_cons_of_mem _ behind)
      intro sameLater
      exact last found.1 (List.mem_map.2 ⟨found, foundMember, rfl⟩) sameLater
        ((Utf8.mem_after_iff ordered split foundMember).1 behind)

theorem materialises_containerOf : Materialises location (containerOf location files) files where
  name := Container.name_writeAll _ _
  paths := by
    intro path
    have tidy : (containerOf location files).Tidy := (Container.tidy_new location.name).writeAll _
    rw [tidy.mem_paths_iff_contains, contains_containerOf_iff]
    constructor
    · rintro ⟨normal, file, member, same⟩
      exact ⟨file.1, List.mem_map.2 ⟨file, member, rfl⟩, same.trans normal⟩
    · rintro ⟨_, isKey, rfl⟩
      obtain ⟨file, member, rfl⟩ := List.mem_map.1 isKey
      exact ⟨Path.normalize_normalize _, file, member, (Path.normalize_normalize _).symm⟩
  contents := fun _ _ => read_containerOf_iff
  kept := by
    intro recorded text member alone
    refine read_containerOf_iff.2 ⟨text, ⟨recorded, member, rfl, ?_⟩, rfl⟩
    intro other isKey same
    rw [alone other isKey same]
    exact List.lt_irrefl _

/-! ## All records of a location -/

/-- The outputs under the names that stand for a location, in the order of the names. -/
def outputsAt (fixture : Fixture) (location : Location) :
    List (String × SortedTable String String) :=
  fixture.outputs.entries.filter fun output => Location.parse? output.1 = some location

variable {fixture : Fixture}

theorem outputsAt_in_byte_order (fixture : Fixture) (location : Location) :
    (fixture.outputsAt location).Pairwise
      fun left right => Utf8.encode left.1 < Utf8.encode right.1 :=
  fixture.outputs.entries_in_byte_order.filter _

/-- A group made of the outputs of a location reads a path in the first of them that has it. -/
theorem read_iff_of_outputsAt
    {group : PackageGroup} {shelf : Shelf}
    (made : group.containers shelf =
      (fixture.outputsAt location).map fun output => containerOf location output.2)
    {path : String} {content : Bytes} :
    group.read shelf path = some content ↔
      ∃ output ∈ fixture.outputsAt location,
        (∃ text, IsTextOf output.2 path text ∧ content = Utf8.encode text) ∧
        ∀ earlier ∈ fixture.outputsAt location,
          Utf8.encode earlier.1 < Utf8.encode output.1 →
            ∀ recorded ∈ earlier.2.keys, Path.normalize recorded ≠ Path.normalize path := by
  have ordered := fixture.outputsAt_in_byte_order location
  rw [PackageGroup.read_eq_some_iff, made]
  constructor
  · rintro ⟨before, container, after, shape, stored, unread⟩
    obtain ⟨front, rest, split, rfl, restShape⟩ := List.map_eq_append_iff.1 shape
    obtain ⟨output, back, rfl, rfl, rfl⟩ := List.map_eq_cons_iff.1 restShape
    refine ⟨output, ?_, read_containerOf_iff.1 stored, ?_⟩
    · rw [split]
      exact List.mem_append_right front List.mem_cons_self
    · intro earlier member less recorded isKey same
      obtain ⟨file, inEntries, rfl⟩ := List.mem_map.1 isKey
      have inFront : earlier ∈ front := (Utf8.mem_before_iff ordered split member).2 less
      have held : (containerOf location earlier.2).contains path = true :=
        contains_containerOf_iff.2 ⟨file, inEntries, same⟩
      rw [Container.contains_eq_isSome_read, unread _ (List.mem_map.2 ⟨earlier, inFront, rfl⟩)]
        at held
      cases held
  · rintro ⟨output, member, isText, first⟩
    obtain ⟨front, back, split⟩ := List.append_of_mem member
    let toContainer := fun output : String × SortedTable String String =>
      containerOf location output.2
    refine ⟨front.map toContainer, toContainer output, back.map toContainer, ?_,
      read_containerOf_iff.2 isText, ?_⟩
    · rw [split, List.map_append, List.map_cons]
    · intro other inFront
      obtain ⟨earlier, isBefore, rfl⟩ := List.mem_map.1 inFront
      have earlierMember : earlier ∈ fixture.outputsAt location := by
        rw [split]
        exact List.mem_append_left _ isBefore
      have less := (Utf8.mem_before_iff ordered split earlierMember).1 isBefore
      have notHeld : ¬ (containerOf location earlier.2).contains path = true := by
        intro held
        obtain ⟨file, inEntries, same⟩ := contains_containerOf_iff.1 held
        exact first earlier earlierMember less file.1 (List.mem_map.2 ⟨file, inEntries, rfl⟩) same
      simpa [Container.contains_eq_isSome_read] using notHeld

theorem Filled.containers_eq_outputsAt
    {store : Store} (filled : Filled store fixture.outputs.entries) {group : PackageGroup}
    (known : store.packageGroup? location = some group) :
    group.containers store.shelf =
      (fixture.outputsAt location).map fun output => containerOf location output.2 := by
  rw [filled.containers_eq known, recordsOf, List.map_map]
  rfl

theorem Filled.packageGroup?_eq_none_iff
    {store : Store} (filled : Filled store fixture.outputs.entries) :
    store.packageGroup? location = none ↔ fixture.outputsAt location = [] := by
  rw [Option.eq_none_iff_forall_not_mem, outputsAt, List.filter_eq_nil_iff]
  have known : (∃ group, store.packageGroup? location = some group) ↔ _ :=
    filled.exists_group_iff
  constructor
  · intro unknown output member stands
    obtain ⟨group, found⟩ := known.2 ⟨output, member, of_decide_eq_true stands⟩
    exact unknown group found
  · intro standsNot group found
    obtain ⟨output, member, stands⟩ := known.1 ⟨group, found⟩
    exact standsNot output member (decide_eq_true stands)

end Fixture

namespace Verifier

variable (verifier : Verifier) (number : Nat) {fixture : Fixture}

/-- **Outputs are materialised.** Let the file manager of a fixture be built, in whatever mode, and
let it be asked for a location that holds files. If no name of outputs stands for the location, there
is no group. Otherwise there is one container for each name that does, in the order of the bytes of
the names, and each holds what is recorded under its name. So the group reads a path as recorded
under the first of the names that has it. -/
theorem outputs_are_materialised
    {store : Store} (built : fixture.store = .ok store) (journal : Log.Journal)
    {location : Location} (holdsFiles : location.isModuleOriented = false) :
    let outputs := fixture.outputsAt location
    let asked := verifier.manager number (.getPackageGroup location) ⟨journal, store⟩
    let shelf := asked.2.inner.shelf
    (outputs.map Prod.fst).Pairwise (fun left right => Utf8.encode left < Utf8.encode right) ∧
      (outputs = [] → asked.1 = .returned none) ∧
      (outputs ≠ [] → ∃ group : PackageGroup, asked.1 = .returned (some group) ∧
        group.location = location ∧
        List.Forall₂ (Fixture.Materialises location) (group.containers shelf)
          (outputs.map Prod.snd) ∧
        ∀ path content, group.read shelf path = some content ↔
          ∃ output ∈ outputs,
            (∃ text, Fixture.IsTextOf output.2 path text ∧ content = Utf8.encode text) ∧
            ∀ earlier ∈ outputs, Utf8.encode earlier.1 < Utf8.encode output.1 →
              ∀ recorded ∈ earlier.2.keys, Path.normalize recorded ≠ Path.normalize path) := by
  intro outputs asked shelf
  have filled := Fixture.filled_of_store_eq_ok built
  have isOpen : (World.mk journal store).inner.closed = false := filled.isOpen
  obtain ⟨after, unchanged, answered⟩ :=
    Fixture.getPackageGroup_eq (verifier.manager_agrees number) isOpen holdsFiles
  have ending : asked.1 = .returned (store.packageGroup? location) := congrArg Prod.fst answered
  have sameShelf : shelf = store.shelf := by
    simp only [shelf, asked, answered, unchanged]
  refine ⟨List.pairwise_map.2 (fixture.outputsAt_in_byte_order location), ?_, ?_⟩
  · intro noOutputs
    rw [ending, filled.packageGroup?_eq_none_iff.2 noOutputs]
  · intro someOutputs
    obtain ⟨group, known⟩ : ∃ group, store.packageGroup? location = some group :=
      Option.ne_none_iff_exists'.1 (mt filled.packageGroup?_eq_none_iff.1 someOutputs)
    have containers := filled.containers_eq_outputsAt known
    rw [sameShelf]
    refine ⟨group, ?_, ?_, ?_, ?_⟩
    · rw [ending, known]
    · obtain ⟨roots, _, shape⟩ := Option.map_eq_some_iff.1 known
      rw [← shape]
    · rw [containers, List.forall₂_map_left_iff, List.forall₂_map_right_iff, List.forall₂_same]
      intro output _
      exact Fixture.materialises_containerOf
    · intro path content
      exact Fixture.read_iff_of_outputsAt containers

/-- Files with a path in two spellings, of which the second one comes last. -/
def spelledTwice : SortedTable String String :=
  .ofList [("p\\A.class", "2"), ("B.class", "3"), ("p/A.class", "1")]

/-- Two names stand for one location, both with files of one path. -/
def overlapping : Fixture :=
  { aliased with
    name := "overlapping"
    outputs := .ofList
      [("class_output", .ofList [("./p/A.class", "4"), ("C.class", "5")]),
        ("CLASS_OUTPUT", spelledTwice)] }

/-- The last text under the first name is read for the path. -/
theorem outputs_are_materialised_overlapping :
    let verifier : Verifier := ⟨.enabled, .memory .trace, ⟨none, []⟩⟩
    ∃ store : Store, overlapping.store = .ok store ∧
      (Location.standard .classOutput).isModuleOriented = false ∧
      ∃ group : PackageGroup,
        let asked := verifier.manager 0 (.getPackageGroup (.standard .classOutput)) ⟨.start, store⟩
        asked.1 = .returned (some group) ∧
          group.read asked.2.inner.shelf "p//A.class" = some (Utf8.encode "2") := by
  intro verifier
  have possible : overlapping.store.isOk = true := rfl
  have holdsFiles : (Location.standard .classOutput).isModuleOriented = false := rfl
  cases built : overlapping.store with
  | error trouble =>
      rw [built] at possible
      cases possible
  | ok store =>
      have member :
          ("CLASS_OUTPUT", spelledTwice) ∈ overlapping.outputsAt (.standard .classOutput) :=
        List.mem_cons_self
      obtain ⟨_, _, materialised⟩ :=
        verifier.outputs_are_materialised 0 built .start holdsFiles
      obtain ⟨group, answered, _, _, reads⟩ := materialised (List.ne_nil_of_mem member)
      refine ⟨store, rfl, holdsFiles, group, answered, (reads _ _).2 ?_⟩
      refine ⟨("CLASS_OUTPUT", spelledTwice), member, ⟨"2", ⟨"p\\A.class", ?_, ?_, ?_⟩, rfl⟩, ?_⟩
      · decide +kernel
      · decide +kernel
      · decide +kernel
      · decide +kernel

end Verifier

end CompilationChecks
