import CompilationChecks.Group
import CompilationChecks.Proofs.Paths
import CompilationChecks.Proofs.Tables

/-!
# Containers, the shelf and groups

A container knows a path by its normal form only, and a write changes what it says about that one
normal form. The shelf keeps every container apart from all others, so a write through one place
is seen at that place alone. A group answers for a file with the first container that holds it.
-/

namespace CompilationChecks

namespace Container

/-! ## One container -/

@[simp]
theorem name_write (container : Container) (path : String) (content : Bytes) :
    (container.write path content).name = container.name := rfl

@[simp]
theorem read_normalize (container : Container) (path : String) :
    container.read (Path.normalize path) = container.read path := by
  simp [read]

@[simp]
theorem contains_normalize (container : Container) (path : String) :
    container.contains (Path.normalize path) = container.contains path := by
  simp [contains]

theorem contains_eq_isSome_read (container : Container) (path : String) :
    container.contains path = (container.read path).isSome := rfl

/-- Under every spelling of the written path stands the written content. -/
theorem read_write_same
    (container : Container) {path other : String} (content : Bytes)
    (same : Path.normalize other = Path.normalize path) :
    (container.write path content).read other = some content := by
  unfold read write
  rw [same]
  exact SortedTable.find?_insert_self _ _ _

@[simp]
theorem read_write_self (container : Container) (path : String) (content : Bytes) :
    (container.write path content).read path = some content :=
  read_write_same container content rfl

theorem read_write_of_ne
    (container : Container) {path other : String} (content : Bytes)
    (different : Path.normalize other ≠ Path.normalize path) :
    (container.write path content).read other = container.read other :=
  SortedTable.find?_insert_of_ne _ _ different

/-- After a write the container holds the written path and what it held before. -/
theorem contains_write_iff
    (container : Container) (path other : String) (content : Bytes) :
    (container.write path content).contains other = true ↔
      Path.normalize path = Path.normalize other ∨ container.contains other = true := by
  simp only [contains_eq_isSome_read]
  by_cases same : Path.normalize other = Path.normalize path
  · simp [read_write_same container content same, same]
  · rw [read_write_of_ne container content same]
    simp [Ne.symm same]

@[simp]
theorem read_new (name path : String) : (new name).read path = none := rfl

@[simp]
theorem contains_new (name path : String) : (new name).contains path = false := rfl

/-! ### Several writes -/

@[simp]
theorem name_writeAll (container : Container) (files : List (String × Bytes)) :
    (container.writeAll files).name = container.name := by
  induction files generalizing container with
  | nil => rfl
  | cons file others inductionHypothesis =>
      exact inductionHypothesis (container.write file.1 file.2)

/-- After several writes the container holds every path that one of them wrote. -/
theorem contains_writeAll_iff
    (container : Container) (files : List (String × Bytes)) (path : String) :
    (container.writeAll files).contains path = true ↔
      (∃ file ∈ files, Path.normalize file.1 = Path.normalize path) ∨
        container.contains path = true := by
  induction files generalizing container with
  | nil => simp [writeAll]
  | cons file others inductionHypothesis =>
      have step := inductionHypothesis (container.write file.1 file.2)
      rw [contains_write_iff] at step
      calc
        (container.writeAll (file :: others)).contains path = true
            ↔ (∃ other ∈ others, Path.normalize other.1 = Path.normalize path) ∨
                Path.normalize file.1 = Path.normalize path ∨
                  container.contains path = true := step
        _ ↔ _ := by
            simp only [List.mem_cons, exists_eq_or_imp, or_assoc]
            exact or_left_comm

/-- The content of a file if it has a path. -/
def contentAt? (path : String) (file : String × Bytes) : Option Bytes :=
  if Path.normalize file.1 = Path.normalize path then some file.2 else none

theorem contentAt?_eq_some_iff {path : String} {file : String × Bytes} {content : Bytes} :
    contentAt? path file = some content ↔
      Path.normalize file.1 = Path.normalize path ∧ file.2 = content := by
  simp [contentAt?]

theorem read_write (container : Container) (file : String × Bytes) (path : String) :
    (container.write file.1 file.2).read path =
      (contentAt? path file).or (container.read path) := by
  unfold contentAt?
  by_cases same : Path.normalize file.1 = Path.normalize path
  · simp [read_write_same container file.2 same.symm, same]
  · simp [read_write_of_ne container file.2 (Ne.symm same), same]

/-- The content of the last of some files that have a path. -/
def lastContent? (files : List (String × Bytes)) (path : String) : Option Bytes :=
  files.reverse.findSome? (contentAt? path)

/-- After several writes a path has the content that the last of them gave it. -/
theorem read_writeAll
    (container : Container) (files : List (String × Bytes)) (path : String) :
    (container.writeAll files).read path = (lastContent? files path).or (container.read path) := by
  induction files generalizing container with
  | nil => rfl
  | cons file others inductionHypothesis =>
      have last :
          lastContent? (file :: others) path =
            (lastContent? others path).or (contentAt? path file) := by
        simp [lastContent?, List.findSome?_append]
      calc
        (container.writeAll (file :: others)).read path
            = (lastContent? others path).or ((container.write file.1 file.2).read path) :=
          inductionHypothesis _
        _ = (lastContent? (file :: others) path).or (container.read path) := by
          rw [read_write, last, Option.or_assoc]

theorem lastContent?_eq_some_iff
    {files : List (String × Bytes)} {path : String} {content : Bytes} :
    lastContent? files path = some content ↔
      ∃ before file after,
        files = before ++ file :: after ∧
          Path.normalize file.1 = Path.normalize path ∧ file.2 = content ∧
          ∀ later ∈ after, Path.normalize later.1 ≠ Path.normalize path := by
  unfold lastContent?
  rw [List.findSome?_eq_some_iff]
  constructor
  · rintro ⟨after, file, before, shape, found, skipped⟩
    obtain ⟨same, isContent⟩ := contentAt?_eq_some_iff.1 found
    refine ⟨before.reverse, file, after.reverse, ?_, same, isContent, ?_⟩
    · simpa using List.reverse_eq_iff.1 shape
    · intro later member
      simpa [contentAt?] using skipped later (List.mem_reverse.1 member)
  · rintro ⟨before, file, after, rfl, same, isContent, others⟩
    refine ⟨after.reverse, file, before.reverse, by simp, ?_, ?_⟩
    · exact contentAt?_eq_some_iff.2 ⟨same, isContent⟩
    · intro later member
      simpa [contentAt?] using others later (List.mem_reverse.1 member)

/-! ### Stored paths -/

@[simp]
theorem paths_new (name : String) : (new name).paths = [] := rfl

theorem mem_paths_iff {container : Container} {path : String} :
    path ∈ container.paths ↔ ∃ content, container.files.find? path = some content :=
  SortedTable.mem_keys_iff

theorem normalize_mem_paths_iff {container : Container} {path : String} :
    Path.normalize path ∈ container.paths ↔ container.contains path = true := by
  rw [contains_eq_isSome_read, Option.isSome_iff_exists]
  exact mem_paths_iff

/-- A write adds at most one path, in its normal form. -/
theorem mem_paths_write
    {container : Container} {path other : String} {content : Bytes}
    (member : other ∈ (container.write path content).paths) :
    other = Path.normalize path ∨ other ∈ container.paths := by
  by_cases written : other = Path.normalize path
  · exact Or.inl written
  · obtain ⟨found, stored⟩ := mem_paths_iff.1 member
    have storedBefore : container.files.find? other = some found :=
      (SortedTable.find?_insert_of_ne container.files content written).symm.trans stored
    exact Or.inr (mem_paths_iff.2 ⟨found, storedBefore⟩)

@[simp]
theorem list_top (container : Container) : container.list "" true = container.paths := by
  have top : directoryStart "" = [] := rfl
  simp [list, isListed, top]

/-- A container whose paths are all normal forms. -/
def Tidy (container : Container) : Prop :=
  ∀ path ∈ container.paths, Path.normalize path = path

theorem tidy_new (name : String) : (new name).Tidy := by
  simp [Tidy]

theorem Tidy.write
    {container : Container} (tidy : container.Tidy) (path : String) (content : Bytes) :
    (container.write path content).Tidy := by
  intro other member
  rcases mem_paths_write member with rfl | inOld
  · exact Path.normalize_normalize path
  · exact tidy other inOld

theorem Tidy.writeAll
    {container : Container} (tidy : container.Tidy) (files : List (String × Bytes)) :
    (container.writeAll files).Tidy := by
  induction files generalizing container with
  | nil => exact tidy
  | cons file others inductionHypothesis =>
      exact inductionHypothesis (tidy.write file.1 file.2)

theorem Tidy.mem_paths_iff_contains
    {container : Container} (tidy : container.Tidy) {path : String} :
    path ∈ container.paths ↔ Path.normalize path = path ∧ container.contains path = true := by
  constructor
  · intro member
    have normal := tidy path member
    rw [← normal] at member
    exact ⟨normal, normalize_mem_paths_iff.1 member⟩
  · rintro ⟨normal, contained⟩
    rw [← normal]
    exact normalize_mem_paths_iff.2 contained

end Container

/-! ## The shelf -/

namespace Shelf

@[simp]
theorem size_add (shelf : Shelf) (container : Container) :
    (shelf.add container).size = shelf.size + 1 := by
  simp [size, add]

@[simp]
theorem size_write (shelf : Shelf) (id : ContainerId) (path : String) (content : Bytes) :
    (shelf.write id path content).size = shelf.size := by
  simp [size, write]

/-- The place after the last one is that of the container added next. -/
@[simp]
theorem get_add_size (shelf : Shelf) (container : Container) :
    (shelf.add container).get shelf.size = container := by
  simp [get, add, size]

theorem get_add_of_ne
    (shelf : Shelf) (container : Container) {id : ContainerId} (different : id ≠ shelf.size) :
    (shelf.add container).get id = shelf.get id := by
  unfold size at different
  rcases Nat.lt_or_gt_of_ne different with used | unused
  · simp [get, add, List.getElem?_append_left used]
  · have absent : shelf.containers[id]? = none :=
      List.getElem?_eq_none (Nat.le_of_lt unused)
    have stillAbsent : (shelf.containers ++ [container])[id]? = none :=
      List.getElem?_eq_none (by rw [List.length_append]; exact unused)
    simp [get, add, absent, stillAbsent]

theorem get_add_of_lt
    (shelf : Shelf) (container : Container) {id : ContainerId} (used : id < shelf.size) :
    (shelf.add container).get id = shelf.get id :=
  get_add_of_ne shelf container (Nat.ne_of_lt used)

/-- A place that is not in use reads like an empty container. -/
theorem read_get_of_le
    (shelf : Shelf) {id : ContainerId} (unused : shelf.size ≤ id) (path : String) :
    (shelf.get id).read path = none := by
  unfold size at unused
  have absent : shelf.containers[id]? = none :=
    List.getElem?_eq_none unused
  simp only [get, List.getD_eq_getElem?_getD, absent, Option.getD_none]
  exact Container.read_new "" path

theorem get_write_self
    (shelf : Shelf) {id : ContainerId} (path : String) (content : Bytes)
    (used : id < shelf.size) :
    (shelf.write id path content).get id = (shelf.get id).write path content := by
  unfold size at used
  simp [get, write, used]

theorem get_write_of_ne
    (shelf : Shelf) {id other : ContainerId} (path : String) (content : Bytes)
    (different : other ≠ id) :
    (shelf.write id path content).get other = shelf.get other := by
  simp [get, write, Ne.symm different]

/-- There is nothing to write into at a place that is not in use. -/
theorem write_of_le
    (shelf : Shelf) {id : ContainerId} (path : String) (content : Bytes)
    (unused : shelf.size ≤ id) :
    shelf.write id path content = shelf := by
  unfold size at unused
  simp [write, List.modify_eq_self unused]

@[simp]
theorem name_get_write
    (shelf : Shelf) (id other : ContainerId) (path : String) (content : Bytes) :
    ((shelf.write id path content).get other).name = (shelf.get other).name := by
  by_cases different : other = id
  · subst different
    by_cases used : other < shelf.size
    · rw [get_write_self shelf path content used, Container.name_write]
    · rw [write_of_le shelf path content (Nat.le_of_not_lt used)]
  · rw [get_write_of_ne shelf path content different]

theorem read_get_write_self
    (shelf : Shelf) {id : ContainerId} (path : String) (content : Bytes)
    (used : id < shelf.size) :
    ((shelf.write id path content).get id).read path = some content := by
  rw [get_write_self shelf path content used]
  exact Container.read_write_self _ _ _

/-- A shelf on which every path of every container is a normal form. -/
def Tidy (shelf : Shelf) : Prop :=
  ∀ id, (shelf.get id).Tidy

theorem tidy_empty : empty.Tidy := fun _ => Container.tidy_new ""

namespace Tidy

variable {shelf : Shelf}

theorem add (tidy : shelf.Tidy) {container : Container} (fresh : container.Tidy) :
    (shelf.add container).Tidy := by
  intro id
  by_cases isNew : id = shelf.size
  · rw [isNew, get_add_size]
    exact fresh
  · rw [get_add_of_ne shelf container isNew]
    exact tidy id

theorem write (tidy : shelf.Tidy) (id : ContainerId) (path : String) (content : Bytes) :
    (shelf.write id path content).Tidy := by
  intro other
  by_cases same : other = id
  · subst same
    by_cases used : other < shelf.size
    · rw [get_write_self shelf path content used]
      exact (tidy other).write path content
    · rw [write_of_le shelf path content (Nat.le_of_not_lt used)]
      exact tidy other
  · rw [get_write_of_ne shelf path content same]
    exact tidy other

end Tidy

end Shelf

/-! ## Groups -/

namespace PackageGroup

variable {group : PackageGroup} {shelf : Shelf}

@[simp]
theorem contains_normalize (group : PackageGroup) (shelf : Shelf) (path : String) :
    group.contains shelf (Path.normalize path) = group.contains shelf path := by
  simp [contains]

@[simp]
theorem read_normalize (group : PackageGroup) (shelf : Shelf) (path : String) :
    group.read shelf (Path.normalize path) = group.read shelf path := by
  simp [read]

theorem contains_eq_isSome_read (group : PackageGroup) (shelf : Shelf) (path : String) :
    group.contains shelf path = (group.read shelf path).isSome := by
  unfold contains read
  rw [Bool.eq_iff_iff, List.any_eq_true, List.findSome?_isSome_iff]
  rfl

/-- A group reads a file in its first container that holds the file. -/
theorem read_eq_some_iff {path : String} {content : Bytes} :
    group.read shelf path = some content ↔
      ∃ before container after,
        group.containers shelf = before ++ container :: after ∧
          container.read path = some content ∧
          ∀ other ∈ before, other.read path = none :=
  List.findSome?_eq_some_iff

/-- A group whose first container holds a file reads the content there. -/
theorem read_of_first
    {first : ContainerId} {others : List ContainerId} {path : String} {content : Bytes}
    (roots : group.roots = first :: others)
    (held : (shelf.get first).read path = some content) :
    group.read shelf path = some content := by
  simp [read, containers, roots, held]

theorem file?_of_first
    {first : ContainerId} {others : List ContainerId} {path : String} {content : Bytes}
    (roots : group.roots = first :: others)
    (held : (shelf.get first).read path = some content) :
    group.file? shelf path =
      some (.locate group.location (shelf.get first).name (Path.normalize path)) := by
  have contained : (shelf.get first).contains path = true := by
    simp [Container.contains_eq_isSome_read, held]
  simp [file?, containers, roots, contained]

end PackageGroup

end CompilationChecks
