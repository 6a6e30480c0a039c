import CompilationChecks.Proofs.Store.Growth

/-!
# Questions about locations and the groups of locations

Whether a location is known, and whether it holds a file, is answered straight from the two tables;
the getters look at the category of the location first. The answers fit together because of which
keys can be in the tables: locations that hold modules have no roots of their own, and as long as
roots are given to modules only where modules may stand, all other locations but the outputs have
no modules.
-/

namespace CompilationChecks

/-! ## Calls that fit -/

/-- Whether a call fits depends only on where it adds a container and which location it makes
known. -/
theorem Call.fits_iff {call : Call} :
    call.Fits ↔ ∀ parent moduleName,
      (call = .createEmptyLocation (.module parent moduleName) ∨
        ∃ id, call = .addContainer (.module parent moduleName) id) →
      parent.takesModules = true := by
  constructor
  · rintro fits parent moduleName (rfl | ⟨id, rfl⟩)
    · exact fits parent moduleName rfl
    · exact fits parent moduleName rfl
  · intro onlyWhereTaken parent moduleName rooted
    cases takes : parent.takesModules with
    | true => rfl
    | false =>
        have registration :=
          (Store.rooted?_eq_iff_of_takes_none parent moduleName takes call).1 rooted
        rw [← takes]
        exact onlyWhereTaken parent moduleName registration

/-! ## Files in containers and groups -/

/-- The container has stored a file under a path with the same normal form. -/
def Container.Holds (container : Container) (path : String) : Prop :=
  ∃ stored ∈ container.paths, Path.normalize stored = Path.normalize path

theorem Container.Tidy.contains_iff_holds
    {container : Container} (tidy : container.Tidy) {path : String} :
    container.contains path = true ↔ container.Holds path := by
  rw [← normalize_mem_paths_iff]
  constructor
  · intro member
    exact ⟨Path.normalize path, member, Path.normalize_normalize path⟩
  · rintro ⟨stored, member, same⟩
    rw [← same, tidy stored member]
    exact member

/-- Some container of the group holds a file. -/
def PackageGroup.Holds (group : PackageGroup) (shelf : Shelf) (path : String) : Prop :=
  ∃ id ∈ group.roots, (shelf.get id).Holds path

/-- Some container of some module of the group holds a file. -/
def ModuleGroup.Holds (group : ModuleGroup) (shelf : Shelf) (path : String) : Prop :=
  ∃ moduleName part, group.module? moduleName = some part ∧ part.Holds shelf path

theorem PackageGroup.contains_iff_holds
    {shelf : Shelf} (tidy : shelf.Tidy) {group : PackageGroup} {path : String} :
    group.contains shelf path = true ↔ group.Holds shelf path := by
  unfold contains containers Holds
  rw [List.any_map, List.any_eq_true]
  exact exists_congr fun id => and_congr_right fun _ => (tidy id).contains_iff_holds

theorem ModuleGroup.any_contains_iff_holds
    {shelf : Shelf} (tidy : shelf.Tidy) {group : ModuleGroup} {path : String} :
    (group.modules.values.any fun part => part.contains shelf path) = true ↔
      group.Holds shelf path := by
  unfold SortedTable.values Holds
  rw [List.any_map, List.any_eq_true]
  constructor
  · rintro ⟨⟨moduleName, part⟩, member, contained⟩
    exact ⟨moduleName, part, SortedTable.mem_entries_iff.1 member,
      (PackageGroup.contains_iff_holds tidy).1 contained⟩
  · rintro ⟨moduleName, part, known, held⟩
    exact ⟨(moduleName, part), SortedTable.mem_entries_iff.2 known,
      (PackageGroup.contains_iff_holds tidy).2 held⟩

namespace Store

variable {store : Store}

namespace FitlyReachable

theorem moves
    {next : Store} (fitly : store.FitlyReachable) (moves : store.FitMoves next) :
    next.FitlyReachable := by
  obtain ⟨release, before⟩ := fitly
  exact ⟨release, before.tail moves⟩

theorem reachable (fitly : store.FitlyReachable) : store.Reachable := by
  obtain ⟨release, moves⟩ := fitly
  refine ⟨release, Relation.ReflTransGen.mono ?_ _ _ moves⟩
  intro earlier later move
  cases move with
  | made name => exact .made _ name
  | written id path content onShelf => exact .written _ id path content onShelf
  | called call onShelf _ => exact .called _ call onShelf

end FitlyReachable

/-! ## What the tables hold and what the getters give -/

section Getters

variable {location : Location} (isOpen : store.closed = false)

include isOpen

/-- Only locations that hold files have roots, so the getter keeps none back. -/
theorem getPackageGroup_some_iff (sound : store.Sound) {group : PackageGroup} :
    (store.getPackageGroup location).1 = .ok (some group) ↔
      store.packageGroup? location = some group := by
  rw [getPackageGroup_ok_iff]
  unfold packageGroup?
  rw [Option.map_eq_some_iff]
  constructor
  · rintro ⟨_, _, rfl, known⟩
    exact ⟨group.roots, known, rfl⟩
  · rintro ⟨roots, known, rfl⟩
    exact ⟨isOpen, sound.holdsFiles location roots known, rfl, known⟩

/-- Only locations that take modules are known to have some, so the getter keeps none back. -/
theorem getModuleGroup_some_iff (fit : store.ModulesFit) {group : ModuleGroup} :
    (store.getModuleGroup location).1 = .ok (some group) ↔
      (store.moduleTable? location).map (ModuleGroup.mk location) = some group := by
  rw [getModuleGroup_ok_iff, Option.map_eq_some_iff]
  constructor
  · rintro ⟨_, _, rfl, known⟩
    exact ⟨group.modules, known, rfl⟩
  · rintro ⟨modules, known, rfl⟩
    refine ⟨isOpen, ?_, rfl, known⟩
    cases location with
    | module parent moduleName => cases known
    | standard parent =>
        obtain ⟨table, parentKnown, _⟩ := Option.map_eq_some_iff.1 known
        exact fit parent table parentKnown

end Getters

/-! ## The questions -/

theorem contains_eq (isOpen : store.closed = false) (location : Location) (path : String) :
    store.contains location path =
      store.answer
        ((store.packageGroup? location).any (fun group => group.contains store.shelf path) ||
          (store.moduleTable? location).any fun modules =>
            modules.values.any fun group => group.contains store.shelf path) := by
  simp [contains, isOpen]

/-- **Questions about locations agree with the groups of locations.** Take an open store whose calls
gave roots to modules only in locations that take modules. A location is known exactly if it holds
files and has a group of roots, or takes modules and has a group of modules; and a location holds a
file exactly if a container of its group of roots, or of a module in its group of modules, has
stored one under a path with the same normal form. -/
theorem location_queries_agree_with_groups
    (fitly : store.FitlyReachable) (isOpen : store.closed = false) (location : Location)
    (path : String) :
    (store.hasLocation location = true ↔
      location.isModuleOriented = false ∧
          (∃ group, (store.getPackageGroup location).1 = .ok (some group)) ∨
        (location.isModuleOriented = true ∨ location.isOutput = true) ∧
          ∃ group, (store.getModuleGroup location).1 = .ok (some group)) ∧
      ∃ held, store.contains location path = store.answer held ∧
        (held = true ↔
          (∃ group, (store.getPackageGroup location).1 = .ok (some group) ∧
            group.Holds store.shelf path) ∨
          ∃ group, (store.getModuleGroup location).1 = .ok (some group) ∧
            group.Holds store.shelf path) := by
  have reachable := fitly.reachable
  have packages : ∀ group, (store.getPackageGroup location).1 = .ok (some group) ↔
      store.packageGroup? location = some group := fun _ =>
    getPackageGroup_some_iff isOpen reachable.sound
  have modules : ∀ group, (store.getModuleGroup location).1 = .ok (some group) ↔
      (store.moduleTable? location).map (ModuleGroup.mk location) = some group := fun _ =>
    getModuleGroup_some_iff isOpen fitly.modulesFit
  constructor
  · -- A getter that gives a group has checked the category already.
    have ofPackages : (∃ group, (store.getPackageGroup location).1 = .ok (some group)) →
        location.isModuleOriented = false := by
      rintro ⟨group, found⟩
      exact (getPackageGroup_ok_iff.1 found).2.1
    have ofModules : (∃ group, (store.getModuleGroup location).1 = .ok (some group)) →
        location.isModuleOriented = true ∨ location.isOutput = true := by
      rintro ⟨group, found⟩
      exact Bool.or_eq_true_iff.1 (getModuleGroup_ok_iff.1 found).2.1
    rw [and_iff_right_of_imp ofPackages, and_iff_right_of_imp ofModules]
    simp only [packages, modules, ← Option.isSome_iff_exists, packageGroup?, Option.isSome_map,
      hasLocation, Bool.or_eq_true]
  · refine ⟨_, contains_eq isOpen location path, ?_⟩
    have tidy := reachable.tidy
    simp only [packages, modules, Bool.or_eq_true, Option.any_eq_true, Option.map_eq_some_iff]
    refine or_congr ?_ ?_
    · exact exists_congr fun group => and_congr_right fun _ => PackageGroup.contains_iff_holds tidy
    · constructor
      · rintro ⟨table, known, contained⟩
        exact ⟨⟨location, table⟩, ⟨table, known, rfl⟩,
          (ModuleGroup.any_contains_iff_holds tidy).1 contained⟩
      · rintro ⟨_, ⟨table, known, rfl⟩, held⟩
        exact ⟨table, known, (ModuleGroup.any_contains_iff_holds tidy).2 held⟩

theorem mixedRoots_fitlyReachable : mixedRoots.FitlyReachable := by
  have new : (Store.new "17").FitlyReachable := ⟨"17", .refl⟩
  have made := new.moves (.made _ "lib")
  have packaged := made.moves (.called _ (.addContainer (.standard .classPath) 0) (by decide)
    (Call.fits_iff.2 (by simp)))
  have modular := packaged.moves (.called _ (.addModuleContainer (.standard .modulePath) "m" 0)
    (by decide) (Call.fits_iff.2 (by simp)))
  have known := modular.moves (.called _ (.createEmptyLocation (.standard .moduleSourcePath))
    (by decide) (Call.fits_iff.2 (by simp)))
  exact known.moves (.called _ (.writeFile (.module .classOutput "m") "p" "A.class" [1])
    (by decide) (Call.fits_iff.2 (by simp)))

/-- The class output has no roots of its own, so it is its module that makes it known and that
holds the file. -/
theorem location_queries_agree_with_groups_mixedRoots :
    mixedRoots.FitlyReachable ∧ mixedRoots.closed = false ∧
      mixedRoots.hasLocation (.standard .classOutput) = true ∧
      (mixedRoots.getPackageGroup (.standard .classOutput)).1 = .ok none ∧
      ∃ group, (mixedRoots.getModuleGroup (.standard .classOutput)).1 = .ok (some group) ∧
        group.Holds mixedRoots.shelf "p\\.//A.class" := by
  obtain ⟨_, held, answered, heldIff⟩ :=
    location_queries_agree_with_groups mixedRoots_fitlyReachable rfl (.standard .classOutput)
      "p\\.//A.class"
  have noRoots : (mixedRoots.getPackageGroup (.standard .classOutput)).1 = .ok none := rfl
  have contained : mixedRoots.contains (.standard .classOutput) "p\\.//A.class" =
      mixedRoots.answer true := rfl
  have isHeld : held = true := by
    rw [contained] at answered
    exact (Except.ok.inj (congrArg Prod.fst answered)).symm
  refine ⟨mixedRoots_fitlyReachable, rfl, rfl, noRoots, ?_⟩
  rcases heldIff.1 isHeld with ⟨group, found, _⟩ | inModules
  · rw [noRoots] at found
    cases found
  · exact inModules

end Store

end CompilationChecks
