import CompilationChecks.Proofs.Store.Reachable

/-!
# Reading what was written

A write goes into the first root of its location. Reading by the name of a container, searching a
location and asking its group go different ways, but the first root comes first on all of them, so
all find the written content. Nothing else in the store changes.
-/

namespace CompilationChecks.Store

variable {store : Store}

/-! ## The first root answers -/

section FirstRoot

variable {location : Location} {first : ContainerId} {others : List ContainerId} {path : String}
  {content : Bytes}

theorem packageGroup?_of_roots (roots : store.roots? location = some (first :: others)) :
    store.packageGroup? location = some ⟨location, first :: others⟩ := by
  simp [packageGroup?, roots]

/-- A file that the first root holds is read from there, whatever the other roots are called. -/
theorem read_of_first
    (isOpen : store.closed = false) (roots : store.roots? location = some (first :: others))
    (held : (store.shelf.get first).read path = some content) {container other : String}
    (sameContainer : container = (store.shelf.get first).name)
    (samePath : Path.normalize other = Path.normalize path) :
    (store.read (.locate location container other)).1 = .ok content := by
  have heldThere : (store.shelf.get first).read other = some content := by
    rw [← Container.read_normalize, samePath, Container.read_normalize]
    exact held
  have group := packageGroup?_of_roots roots
  simp [read, FileRef.locate, isOpen, group, PackageGroup.containers, sameContainer, heldThere,
    answer]

theorem contains_of_first
    (isOpen : store.closed = false) (roots : store.roots? location = some (first :: others))
    (held : (store.shelf.get first).read path = some content) :
    (store.contains location path).1 = .ok true := by
  have contained : (store.shelf.get first).contains path = true := by
    rw [Container.contains_eq_isSome_read, held]
    rfl
  have group := packageGroup?_of_roots roots
  simp [contains, isOpen, group, PackageGroup.contains, PackageGroup.containers, contained,
    answer]

theorem getPackageGroup_of_roots
    (isOpen : store.closed = false) (holdsFiles : location.isModuleOriented = false)
    (roots : store.roots? location = some (first :: others)) :
    (store.getPackageGroup location).1 = .ok (some ⟨location, first :: others⟩) := by
  have group := packageGroup?_of_roots roots
  simp [getPackageGroup, isOpen, holdsFiles, group, answer]

theorem getFileForInput_of_first
    (isOpen : store.closed = false) (holdsFiles : location.isModuleOriented = false)
    (roots : store.roots? location = some (first :: others)) {packageName relativeName : String}
    (held :
      (store.shelf.get first).read (Path.resolve packageName relativeName) = some content) :
    (store.getFileForInput location packageName relativeName).1 =
      .ok (some (.locate location (store.shelf.get first).name
        (Path.normalize (Path.resolve packageName relativeName)))) := by
  have group := packageGroup?_of_roots roots
  have found :
      (PackageGroup.mk location (first :: others)).file? store.shelf
          (Path.resolve packageName relativeName) =
        some (.locate location (store.shelf.get first).name
          (Path.normalize (Path.resolve packageName relativeName))) :=
    PackageGroup.file?_of_first rfl held
  simp [getFileForInput, isOpen, holdsFiles, group, found, answer]

end FirstRoot

/-! ## Writes -/

/-- The content that was written under a name relative to a package, and whose file is named by a
reference, is found on every way that leads to a file. -/
structure Shows (store : Store) (location : Location) (packageName relativeName : String)
    (file : FileRef) (content : Bytes) : Prop where
  read : (store.read file).1 = .ok content
  contained : (store.contains location file.path).1 = .ok true
  grouped : ∃ group, (store.getPackageGroup location).1 = .ok (some group) ∧
    group.read store.shelf file.path = some content
  lookedUp : ∃ found, (store.getFileForInput location packageName relativeName).1 =
      .ok (some found) ∧
    (store.read found).1 = .ok content

/-- Between two stores only what stands under one path of the first root of a location differs.
The location may have got that root in between; then the root is new and carries its name. -/
structure DiffersAt (before after : Store) (location : Location) (first : ContainerId)
    (path : String) : Prop where
  contents : ∀ (id : ContainerId) (other : String),
    id ≠ first ∨ Path.normalize other ≠ Path.normalize path →
      (after.shelf.get id).read other = (before.shelf.get id).read other
  names : ∀ id < before.shelf.size, (after.shelf.get id).name = (before.shelf.get id).name
  otherRoots : ∀ other ≠ location, after.roots? other = before.roots? other
  ownRoots :
    (∃ others, before.roots? location = some (first :: others) ∧
      after.roots? location = before.roots? location) ∨
    (before.roots? location = none ∧ first = before.shelf.size ∧
      after.roots? location = some [first] ∧ (after.shelf.get first).name = location.name)

theorem shows_writeInto
    {location : Location} {first : ContainerId} {others : List ContainerId}
    (isOpen : store.closed = false) (output : location.isOutput = true)
    (roots : store.roots? location = some (first :: others)) (onShelf : first < store.shelf.size)
    (packageName relativeName : String) (content : Bytes) {path : String}
    (resolved : Path.resolve packageName relativeName = path) :
    (store.writeInto first path content).Shows location packageName relativeName
      (.locate location (store.shelf.get first).name path) content := by
  have afterOpen : (store.writeInto first path content).closed = false := isOpen
  have afterRoots :
      (store.writeInto first path content).roots? location = some (first :: others) := roots
  have sameName :
      (store.shelf.get first).name = ((store.writeInto first path content).shelf.get first).name :=
    (Shelf.name_get_write store.shelf first first path content).symm
  have held :
      ((store.writeInto first path content).shelf.get first).read path = some content :=
    Shelf.read_get_write_self store.shelf path content onShelf
  generalize store.writeInto first path content = after at *
  have holdsFiles := Location.isModuleOriented_of_isOutput output
  subst resolved
  refine ⟨?_, ?_, ?_, ?_⟩
  · exact read_of_first afterOpen afterRoots held sameName rfl
  · exact contains_of_first afterOpen afterRoots held
  · exact ⟨_, getPackageGroup_of_roots afterOpen holdsFiles afterRoots,
      PackageGroup.read_of_first rfl held⟩
  · refine ⟨_, getFileForInput_of_first afterOpen holdsFiles afterRoots held, ?_⟩
    exact read_of_first afterOpen afterRoots held rfl
      (Path.normalize_normalize (Path.resolve packageName relativeName))

theorem differsAt_writeInto
    {location : Location} {first : ContainerId} {others : List ContainerId}
    (sound : store.Sound) (holdsFiles : location.isModuleOriented = false)
    (roots : (store.ensureRoots location).roots? location = some (first :: others))
    (path : String) (content : Bytes) :
    store.DiffersAt ((store.ensureRoots location).writeInto first path content) location first
      path := by
  have onShelf : first < (store.ensureRoots location).shelf.size :=
    (sound.ensureRoots holdsFiles).onShelf location _ roots first List.mem_cons_self
  refine ⟨?_, ?_, ?_, ?_⟩
  · intro id other apart
    rw [← read_ensureRoots store location id other]
    by_cases same : id = first
    · subst same
      have otherPath : Path.normalize other ≠ Path.normalize path :=
        apart.resolve_left fun different => different rfl
      have written := Shelf.get_write_self _ path content onShelf
      exact (congrArg (Container.read · other) written).trans
        (Container.read_write_of_ne _ content otherPath)
    · exact congrArg (Container.read · other) (Shelf.get_write_of_ne _ path content same)
  · intro id used
    rw [← name_get_ensureRoots store location used]
    exact Shelf.name_get_write _ _ _ _ _
  · intro other different
    exact roots?_ensureRoots_of_ne store location different
  · cases known : store.roots? location with
    | none =>
        have fresh := roots?_ensureRoots_of_none known
        have firstIsNew : first = store.shelf.size := by
          rw [roots] at fresh
          cases fresh
          rfl
        refine Or.inr ⟨rfl, firstIsNew, ?_, ?_⟩
        · rw [firstIsNew]
          exact fresh
        · rw [firstIsNew]
          refine (Shelf.name_get_write _ _ _ _ _).trans ?_
          rw [ensureRoots_of_none known, shelf_register]
          exact congrArg Container.name (Shelf.get_add_size _ _)
    | some oldRoots =>
        have unchanged :=
          ensureRoots_of_nonempty known (sound.nonempty location oldRoots known)
        rw [unchanged] at roots ⊢
        rw [known] at roots
        exact Or.inl ⟨others, roots, known⟩

/-- **Read your writes, and nothing else changes.** On a reachable open store a write to an output
location succeeds. The content is then read through the file that the write named, through the
group of the location and through a look-up by the same name; and nothing else in the store has
changed, except that a location without roots has got its first one. -/
theorem written_content_is_read
    (reachable : store.Reachable) (isOpen : store.closed = false) {location : Location}
    (output : location.isOutput = true) (packageName relativeName : String) (content : Bytes) :
    ∃ file after first,
      store.writeFile location packageName relativeName content = (.ok file, after) ∧
        after.Shows location packageName relativeName file content ∧
        store.DiffersAt after location first file.path := by
  have sound := reachable.sound
  have holdsFiles := Location.isModuleOriented_of_isOutput output
  obtain ⟨first, others, roots, written⟩ :=
    writeFile_eq isOpen output packageName relativeName content
  refine ⟨_, _, first, written, ?_, ?_⟩
  · have readyOpen : (store.ensureRoots location).closed = false := by
      rw [closed_ensureRoots]
      exact isOpen
    have onShelf : first < (store.ensureRoots location).shelf.size :=
      (sound.ensureRoots holdsFiles).onShelf location _ roots first List.mem_cons_self
    exact shows_writeInto readyOpen output roots onShelf packageName relativeName content rfl
  · exact differsAt_writeInto sound holdsFiles roots _ content

/-! ## Shadowed and shared roots -/

/-- Two containers with one name are the roots of the class output, and the first is a root of the
source output as well. The second already holds a file. -/
def sharedRoots : Store :=
  let made := ((Store.new "17").place (.new "out")).place (.new "out")
  let first := (made.perform (.addContainer (.standard .classOutput) 0)).2
  let second := (first.perform (.addContainer (.standard .classOutput) 1)).2
  let shared := (second.perform (.addContainer (.standard .sourceOutput) 0)).2
  shared.writeInto 1 "p/A.class" [1]

theorem sharedRoots_reachable : sharedRoots.Reachable := by
  have made := ((Reachable.new "17").moves (.made _ "out")).moves (.made _ "out")
  have first := made.moves (.called _ (.addContainer (.standard .classOutput) 0) (by decide))
  have second := first.moves (.called _ (.addContainer (.standard .classOutput) 1) (by decide))
  have shared := second.moves (.called _ (.addContainer (.standard .sourceOutput) 0) (by decide))
  exact shared.moves (.written _ 1 "p/A.class" [1] (by decide))

theorem written_content_is_read_sharedRoots :
    sharedRoots.Reachable ∧ sharedRoots.closed = false ∧
      (Location.standard .classOutput).isOutput = true ∧
      ∃ file after first,
        sharedRoots.writeFile (.standard .classOutput) "p" "A.class" [2] = (.ok file, after) ∧
          after.Shows (.standard .classOutput) "p" "A.class" file [2] ∧
          sharedRoots.DiffersAt after (.standard .classOutput) first file.path :=
  ⟨sharedRoots_reachable, rfl, rfl,
    written_content_is_read sharedRoots_reachable rfl rfl "p" "A.class" [2]⟩

end CompilationChecks.Store
