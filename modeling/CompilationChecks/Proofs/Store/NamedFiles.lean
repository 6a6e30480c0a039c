import CompilationChecks.Proofs.Store.Growth
import CompilationChecks.Proofs.Store.ListedFiles

/-!
# Files that the manager names can be read

A file names its container by a text, so reading searches the roots of its location for the first
one that is called so and holds the path. The root that the file was found in is such a root, and
it stays one: containers keep their names, their paths and their places among the roots. Roots with
different names are never taken for each other, whatever they hold.
-/

namespace CompilationChecks

open Relation

namespace PackageGroup

variable {group : PackageGroup} {shelf : Shelf}

/-- The listing of a group goes through its roots one by one. -/
theorem list_eq_flatMap_roots
    (group : PackageGroup) (packageName : String) (kinds : List FileKind) (recurse : Bool) :
    group.list shelf packageName kinds recurse =
      group.roots.flatMap fun id =>
        (⟨group.location, [id]⟩ : PackageGroup).list shelf packageName kinds recurse := by
  unfold list containers
  rw [List.filter_flatMap, List.flatMap_map]
  simp only [List.map_cons, List.map_nil, List.flatMap_cons, List.flatMap_nil, List.append_nil]

theorem exists_path_of_mem_list_root
    {location : Location} {id : ContainerId} {packageName : String} {kinds : List FileKind}
    {recurse : Bool} {file : FileRef}
    (member :
      file ∈ (⟨location, [id]⟩ : PackageGroup).list shelf packageName kinds recurse) :
    ∃ path ∈ (shelf.get id).paths, file = .locate location (shelf.get id).name path := by
  have listed := (List.mem_filter.1 member).1
  obtain ⟨container, isRoot, inContainer⟩ := List.mem_flatMap.1 listed
  obtain ⟨path, isListed, rfl⟩ := List.mem_map.1 inContainer
  have isThis : container = shelf.get id := by
    simpa [containers] using isRoot
  subst isThis
  exact ⟨path, (List.mem_filter.1 isListed).1, rfl⟩

theorem exists_root_of_file?
    {path : String} {file : FileRef} (found : group.file? shelf path = some file) :
    ∃ front id back content,
      group.roots = front ++ id :: back ∧
        (∀ other ∈ front, (shelf.get other).contains path = false) ∧
        file = group.entry (shelf.get id) (Path.normalize path) ∧
        (shelf.get id).read path = some content ∧ group.read shelf path = some content := by
  obtain ⟨before, container, after, content, shape, skipped, isFile, stored, isRead⟩ :=
    group.exists_first_of_file? shelf found
  obtain ⟨front, rest, roots, rfl, restShape⟩ := List.map_eq_append_iff.1 shape
  obtain ⟨id, back, rfl, rfl, _⟩ := List.map_eq_cons_iff.1 restShape
  refine ⟨front, id, back, content, roots, ?_, isFile, stored, isRead⟩
  intro other member
  have isAbsent := skipped (shelf.get other) (List.mem_map_of_mem member)
  rw [Container.normalize_mem_paths_iff] at isAbsent
  simpa using isAbsent

end PackageGroup

namespace Store

variable {store later : Store}

/-! ## Names stay -/

/-- Every container of the first store is in its place in the second one, under its name. -/
structure KeepsNames (before after : Store) : Prop where
  size : before.shelf.size ≤ after.shelf.size
  names : ∀ id < before.shelf.size, (after.shelf.get id).name = (before.shelf.get id).name

namespace KeepsNames

theorem of_shelf_eq {before after : Store} (same : after.shelf = before.shelf) :
    before.KeepsNames after := by
  constructor
  · rw [same]
  · intro id _
    rw [same]

theorem refl (store : Store) : store.KeepsNames store :=
  of_shelf_eq rfl

theorem trans {before middle after : Store} (first : before.KeepsNames middle)
    (second : middle.KeepsNames after) : before.KeepsNames after := by
  constructor
  · exact Nat.le_trans first.size second.size
  · intro id used
    rw [second.names id (Nat.lt_of_lt_of_le used first.size)]
    exact first.names id used

theorem place (store : Store) (name : String) : store.KeepsNames (store.place (.new name)) := by
  constructor
  · simp [Store.place]
  · intro id used
    exact congrArg Container.name (Shelf.get_add_of_lt store.shelf (.new name) used)

theorem writeInto (store : Store) (id : ContainerId) (path : String) (content : Bytes) :
    store.KeepsNames (store.writeInto id path content) := by
  constructor
  · simp [Store.writeInto]
  · intro other _
    exact Shelf.name_get_write store.shelf id other path content

theorem persists : Persists KeepsNames where
  refl := refl
  trans := trans
  place := place
  register store location id := of_shelf_eq (shelf_register store location id)
  ensureModules _ _ := of_shelf_eq rfl
  writeInto := writeInto
  close _ := of_shelf_eq rfl

theorem run (run : ReflTransGen Moves store later) : store.KeepsNames later :=
  persists.run run

end KeepsNames

/-! ## The root that a file is read from -/

/-- A root of the location of a file that is called like its container and holds its path. -/
structure IsOrigin (store : Store) (file : FileRef) (id : ContainerId) : Prop where
  isRoot : ∃ roots, store.roots? file.location = some roots ∧ id ∈ roots
  named : (store.shelf.get id).name = file.container
  holds : (store.shelf.get id).contains file.path = true

/-- The first root of the location of a file that is called like its container and holds its
path. -/
structure IsSource (store : Store) (file : FileRef) (id : ContainerId) : Prop where
  isFirst : ∃ front back, store.roots? file.location = some (front ++ id :: back) ∧
    ∀ other ∈ front, (store.shelf.get other).name = file.container →
      (store.shelf.get other).contains file.path = false
  named : (store.shelf.get id).name = file.container
  holds : (store.shelf.get id).contains file.path = true

variable {file : FileRef} {id : ContainerId}

theorem IsSource.isOrigin (source : store.IsSource file id) : store.IsOrigin file id := by
  obtain ⟨front, back, known, _⟩ := source.isFirst
  exact ⟨⟨_, known, List.mem_append_right front List.mem_cons_self⟩, source.named, source.holds⟩

theorem IsSource.read (source : store.IsSource file id) (isOpen : store.closed = false) :
    ∃ content, (store.shelf.get id).read file.path = some content ∧
      store.read file = store.answer content := by
  obtain ⟨⟨front, back, roots, skipped⟩, named, holds⟩ := source
  rw [Container.contains_eq_isSome_read] at holds
  obtain ⟨content, stored⟩ := Option.isSome_iff_exists.1 holds
  have unread :
      ((front.map store.shelf.get).filter fun container =>
        container.name == file.container).findSome? (fun container => container.read file.path) =
          none := by
    apply List.findSome?_eq_none_iff.2
    intro container member
    obtain ⟨inFront, isNamed⟩ := List.mem_filter.1 member
    obtain ⟨other, isBefore, rfl⟩ := List.mem_map.1 inFront
    have isAbsent := skipped other isBefore (by simpa using isNamed)
    simpa [Container.contains_eq_isSome_read] using isAbsent
  refine ⟨content, stored, ?_⟩
  simp [Store.read, isOpen, packageGroup?, roots, PackageGroup.containers, List.filter_append,
    List.findSome?_append, unread, named, stored]

namespace IsOrigin

theorem exists_source (origin : store.IsOrigin file id) : ∃ source, store.IsSource file source := by
  obtain ⟨⟨roots, known, isRoot⟩, named, holds⟩ := origin
  let fits := fun other =>
    decide ((store.shelf.get other).name = file.container) &&
      (store.shelf.get other).contains file.path
  have isThere : (roots.find? fits).isSome = true :=
    List.find?_isSome.2 ⟨id, isRoot, by simp [fits, named, holds]⟩
  obtain ⟨source, first⟩ := Option.isSome_iff_exists.1 isThere
  obtain ⟨sourceFits, front, back, rfl, skipped⟩ := List.find?_eq_some_iff_append.1 first
  simp only [fits, Bool.and_eq_true, decide_eq_true_eq] at sourceFits
  refine ⟨source, ⟨front, back, known, ?_⟩, sourceFits.1, sourceFits.2⟩
  intro other member otherNamed
  simpa [fits, otherNamed] using skipped other member

theorem run
    (origin : store.IsOrigin file id) (sound : store.Sound)
    (run : ReflTransGen Moves store later) :
    later.IsOrigin file id := by
  obtain ⟨⟨roots, known, isRoot⟩, named, holds⟩ := origin
  have grows : store.Grows later := Grows.run run
  have onShelf := sound.onShelf _ roots known id isRoot
  obtain ⟨grown, knownLater, isPrefix⟩ := grows.roots _ _ known
  refine ⟨⟨grown, knownLater, isPrefix.subset isRoot⟩, ?_, grows.held id _ holds⟩
  rw [(KeepsNames.run run).names id onShelf]
  exact named

/-- A root that a file comes from, and that has a name of its own among the roots before it, is the
one that the file is read from for ever after. -/
theorem isSource_run
    (origin : store.IsOrigin file id) (sound : store.Sound)
    (run : ReflTransGen Moves store later) {front back : List ContainerId}
    (known : store.roots? file.location = some (front ++ id :: back))
    (otherNames : ∀ other ∈ front, (store.shelf.get other).name ≠ file.container) :
    later.IsSource file id := by
  have originLater := origin.run sound run
  obtain ⟨grown, knownLater, further, rfl⟩ := (Grows.run run).roots _ _ known
  refine ⟨⟨front, back ++ further, by simpa using knownLater, ?_⟩, originLater.named,
    originLater.holds⟩
  intro other member named
  have onShelf := sound.onShelf _ _ known other (List.mem_append_left _ member)
  rw [(KeepsNames.run run).names other onShelf] at named
  exact absurd named (otherNames other member)

end IsOrigin

/-! ## Files that are listed or looked up -/

/-- The files of a package that a listing takes from one root of a location. -/
def listedFrom (store : Store) (location : Location) (id : ContainerId) (packageName : String)
    (kinds : List FileKind) (recurse : Bool) : List FileRef :=
  (⟨location, [id]⟩ : PackageGroup).list store.shelf packageName kinds recurse

/-- A file that a listing or a look-up gives. -/
def Names (store : Store) (file : FileRef) : Prop :=
  (∃ location packageName kinds recurse files,
    store.list location packageName kinds recurse = store.answer files ∧ file ∈ files) ∨
  ∃ location packageName relativeName,
    store.getFileForInput location packageName relativeName = store.answer (some file)

section Answers

variable {location : Location} {packageName relativeName : String} {kinds : List FileKind}
  {recurse : Bool}

theorem list_eq_answer_iff {files : List FileRef} :
    store.list location packageName kinds recurse = store.answer files ↔
      store.closed = false ∧ location.isModuleOriented = false ∧
        ((store.roots? location).getD []).flatMap
          (fun id => store.listedFrom location id packageName kinds recurse) = files := by
  cases isClosed : store.closed with
  | true => simp [list, isClosed, refuse, answer]
  | false =>
      cases holdsModules : location.isModuleOriented with
      | true => simp [list, isClosed, holdsModules, refuse, answer]
      | false =>
          rw [list_eq isClosed holdsModules]
          cases known : store.roots? location with
          | none => simp [packageGroup?, known, answer]
          | some roots =>
              simp [packageGroup?, known, answer, listedFrom,
                PackageGroup.list_eq_flatMap_roots ⟨location, roots⟩]

theorem getFileForInput_eq_answer_iff :
    store.getFileForInput location packageName relativeName = store.answer (some file) ↔
      store.closed = false ∧ location.isModuleOriented = false ∧
        ∃ group, store.packageGroup? location = some group ∧
          group.file? store.shelf (Path.resolve packageName relativeName) = some file := by
  cases isClosed : store.closed with
  | true => simp [getFileForInput, isClosed, refuse, answer]
  | false =>
      cases holdsModules : location.isModuleOriented with
      | true => simp [getFileForInput, isClosed, holdsModules, refuse, answer]
      | false =>
          rw [getFileForInput_eq isClosed holdsModules]
          simp [answer, Option.bind_eq_some_iff]

theorem isOrigin_of_mem_listedFrom
    (tidy : store.shelf.Tidy) {roots : List ContainerId}
    (known : store.roots? location = some roots) (isRoot : id ∈ roots)
    (member : file ∈ store.listedFrom location id packageName kinds recurse) :
    store.IsOrigin file id := by
  obtain ⟨path, isStored, rfl⟩ := PackageGroup.exists_path_of_mem_list_root member
  refine ⟨⟨roots, known, isRoot⟩, rfl, ?_⟩
  exact ((tidy id).mem_paths_iff_contains.1 isStored).2

end Answers

/-- A file that is looked up has its source in the first root that holds the path at all, and that
is where the group reads the path. -/
theorem exists_source_of_file?
    {location : Location} {group : PackageGroup} {path : String}
    (known : store.packageGroup? location = some group)
    (found : group.file? store.shelf path = some file) :
    ∃ source, store.IsSource file source ∧
      group.read store.shelf file.path = (store.shelf.get source).read file.path := by
  obtain ⟨roots, rootsKnown, rfl⟩ := Option.map_eq_some_iff.1 known
  obtain ⟨front, source, back, content, shape, skipped, rfl, stored, isRead⟩ :=
    PackageGroup.exists_root_of_file? found
  have shapeOfRoots : roots = front ++ source :: back := shape
  subst shapeOfRoots
  refine ⟨source, ⟨⟨front, back, rootsKnown, ?_⟩, rfl, ?_⟩, ?_⟩
  · intro other member _
    exact (Container.contains_normalize _ _).trans (skipped other member)
  · rw [PackageGroup.path_entry, Container.contains_normalize, Container.contains_eq_isSome_read,
      stored]
    rfl
  · rw [PackageGroup.path_entry, PackageGroup.read_normalize, Container.read_normalize, isRead,
      stored]

theorem exists_origin_of_names (tidy : store.shelf.Tidy) (names : store.Names file) :
    ∃ origin, store.IsOrigin file origin := by
  rcases names with
    ⟨location, packageName, kinds, recurse, files, listed, member⟩ |
      ⟨location, packageName, relativeName, lookedUp⟩
  · obtain ⟨_, _, rfl⟩ := list_eq_answer_iff.1 listed
    obtain ⟨id, isRoot, fromRoot⟩ := List.mem_flatMap.1 member
    cases known : store.roots? location with
    | none => simp [known] at isRoot
    | some roots =>
        rw [known, Option.getD_some] at isRoot
        exact ⟨id, isOrigin_of_mem_listedFrom tidy known isRoot fromRoot⟩
  · obtain ⟨_, _, group, known, found⟩ := getFileForInput_eq_answer_iff.1 lookedUp
    obtain ⟨source, isSource, _⟩ := exists_source_of_file? known found
    exact ⟨source, isSource.isOrigin⟩

/-- **Every file that the manager names can be read, and reads the right content.** A file that a
listing or a look-up gave is read in that state and in every later open one, with the content that
then stands under its path in the first root of its location that is called like its container and
holds the path. For a file that was looked up this is what the group of the location reads. If the
roots of a location have pairwise different names, a file that was listed from one of them is always
read from that root, also where the path stands in an earlier one. -/
theorem named_files_are_read
    (reachable : store.Reachable) (run : ReflTransGen Moves store later)
    (isOpen : later.closed = false) :
    (∀ file, store.Names file →
      ∃ source content, later.IsSource file source ∧
        (later.shelf.get source).read file.path = some content ∧
        later.read file = later.answer content) ∧
    (∀ location packageName relativeName file,
      store.getFileForInput location packageName relativeName = store.answer (some file) →
        ∃ group content, store.getPackageGroup location = store.answer (some group) ∧
          group.read store.shelf file.path = some content ∧
          store.read file = store.answer content) ∧
    ∀ location group, store.getPackageGroup location = store.answer (some group) →
      ∀ packageName kinds recurse,
        store.list location packageName kinds recurse =
            store.answer (group.roots.flatMap fun id =>
              store.listedFrom location id packageName kinds recurse) ∧
          (((group.containers store.shelf).map Container.name).Nodup →
            ∀ id ∈ group.roots,
              ∀ file ∈ store.listedFrom location id packageName kinds recurse,
                ∃ content, (later.shelf.get id).read file.path = some content ∧
                  later.read file = later.answer content) := by
  have sound := reachable.sound
  have tidy := reachable.tidy
  refine ⟨?_, ?_, ?_⟩
  · intro file names
    obtain ⟨origin, isOrigin⟩ := exists_origin_of_names tidy names
    obtain ⟨source, isSource⟩ := (isOrigin.run sound run).exists_source
    obtain ⟨content, stored, isRead⟩ := isSource.read isOpen
    exact ⟨source, content, isSource, stored, isRead⟩
  · intro location packageName relativeName file lookedUp
    obtain ⟨wasOpen, holdsFiles, group, known, found⟩ :=
      getFileForInput_eq_answer_iff.1 lookedUp
    obtain ⟨source, isSource, sameContent⟩ := exists_source_of_file? known found
    obtain ⟨content, stored, isRead⟩ := isSource.read wasOpen
    refine ⟨group, content, ?_, sameContent.trans stored, isRead⟩
    rw [getPackageGroup_of_holds_files wasOpen holdsFiles, known]
  · intro location group given packageName kinds recurse
    obtain ⟨wasOpen, holdsFiles, _, known⟩ :=
      getPackageGroup_ok_iff.1 (congrArg Prod.fst given)
    refine ⟨list_eq_answer_iff.2 ⟨wasOpen, holdsFiles, by rw [known, Option.getD_some]⟩, ?_⟩
    intro distinct id isRoot file member
    have isOrigin := isOrigin_of_mem_listedFrom tidy known isRoot member
    obtain ⟨front, back, shape⟩ := List.append_of_mem isRoot
    have isHere : file.location = location := by
      obtain ⟨path, _, rfl⟩ := PackageGroup.exists_path_of_mem_list_root member
      rfl
    rw [← isHere, shape] at known
    -- What the earlier roots hold does not matter, because none of them is called like this one.
    have otherNames : ∀ other ∈ front, (store.shelf.get other).name ≠ file.container := by
      intro other isBefore sameName
      rw [← isOrigin.named] at sameName
      rw [PackageGroup.containers, shape, List.map_append, List.map_append] at distinct
      have apart := (List.nodup_append.1 distinct).2.2
      exact apart _ (List.mem_map_of_mem (List.mem_map_of_mem isBefore)) _ List.mem_cons_self
        sameName
    exact (isOrigin.isSource_run sound run known otherNames).read isOpen

/-! ## A root with a name that is taken -/

/-- A third root of the class path has the name of the second and holds the path that the others
hold, and the second has got a new content under it. -/
def namesakeRoots : Store :=
  let added :=
    ((shadowedRoots.place (.new "second")).perform (.addContainer (.standard .classPath) 2)).2
  (added.writeInto 2 "a/B.class" [4]).writeInto 1 "a/B.class" [5]

theorem namesakeRoots_run : ReflTransGen Moves shadowedRoots namesakeRoots := by
  have made : ReflTransGen Moves shadowedRoots (shadowedRoots.place (.new "second")) :=
    ReflTransGen.single (.made _ "second")
  have added := made.tail (.called _ (.addContainer (.standard .classPath) 2) (by decide))
  have filled := added.tail (.written _ 2 "a/B.class" [4] (by decide))
  exact filled.tail (.written _ 1 "a/B.class" [5] (by decide))

/-- The file that was listed from the second root when the first one shadowed it is read there when
the third root has come, and the one that was looked up is read from the first root. -/
theorem named_files_are_read_namesakeRoots :
    shadowedRoots.Reachable ∧ ReflTransGen Moves shadowedRoots namesakeRoots ∧
      namesakeRoots.closed = false ∧
      (∃ source content,
        namesakeRoots.IsSource (.locate (.standard .classPath) "first" "a/B.class") source ∧
          (namesakeRoots.shelf.get source).read "a/B.class" = some content ∧
          namesakeRoots.read (.locate (.standard .classPath) "first" "a/B.class") =
            namesakeRoots.answer content) ∧
      (∃ group content,
        shadowedRoots.getPackageGroup (.standard .classPath) =
            shadowedRoots.answer (some group) ∧
          group.read shadowedRoots.shelf "a/B.class" = some content ∧
          shadowedRoots.read (.locate (.standard .classPath) "first" "a/B.class") =
            shadowedRoots.answer content) ∧
      ∃ content, (namesakeRoots.shelf.get 1).read "a/B.class" = some content ∧
        namesakeRoots.read (.locate (.standard .classPath) "second" "a/B.class") =
          namesakeRoots.answer content := by
  obtain ⟨later, lookedUp, listed⟩ :=
    named_files_are_read shadowedRoots_reachable namesakeRoots_run rfl
  have found :
      shadowedRoots.getFileForInput (.standard .classPath) "a" "B.class" =
        shadowedRoots.answer (some (.locate (.standard .classPath) "first" "a/B.class")) := rfl
  have given :
      shadowedRoots.getPackageGroup (.standard .classPath) =
        shadowedRoots.answer (some ⟨.standard .classPath, [0, 1]⟩) := rfl
  obtain ⟨_, fromRoots⟩ := listed _ _ given "a" [.classFile] false
  have fromSecond :
      .locate (.standard .classPath) "second" "a/B.class" ∈
        shadowedRoots.listedFrom (.standard .classPath) 1 "a" [.classFile] false := by
    decide
  refine ⟨shadowedRoots_reachable, namesakeRoots_run, rfl, ?_, ?_, ?_⟩
  · exact later _ (Or.inr ⟨_, _, _, found⟩)
  · have readFirst := lookedUp _ _ _ _ found
    exact readFirst
  · have readSecond := fromRoots (by decide) 1 (by decide) _ fromSecond
    exact readSecond

end Store

end CompilationChecks
