import CompilationChecks.Proofs.Store.Reachable
import CompilationChecks.Proofs.TableChanges
import Mathlib.Logic.Equiv.Basic

/-!
# Renaming places

A container is known by its place on the shelf, but the manager only ever compares names and
contents. So the containers of a store can be moved to other places, if the roots are moved with
them: groups have the same containers, and whatever is done to both stores keeps them so. Two
containers that were just made can change places.
-/

namespace CompilationChecks

/-! ## Renamed groups and calls -/

/-- A renaming of places. -/
abbrev Renaming := Equiv.Perm ContainerId

def PackageGroup.renamed (rename : Renaming) (group : PackageGroup) : PackageGroup :=
  ⟨group.location, group.roots.map rename⟩

/-- The groups of several modules with their places renamed. -/
def renameModules (rename : Renaming) (modules : SortedTable String PackageGroup) :
    SortedTable String PackageGroup :=
  modules.mapWithKey fun _ => PackageGroup.renamed rename

theorem values_renameModules (rename : Renaming) (modules : SortedTable String PackageGroup) :
    (renameModules rename modules).values = modules.values.map (PackageGroup.renamed rename) := by
  simp [renameModules, SortedTable.values, SortedTable.mapWithKey]

def ModuleGroup.renamed (rename : Renaming) (group : ModuleGroup) : ModuleGroup :=
  ⟨group.location, renameModules rename group.modules⟩

def OutputGroup.renamed (rename : Renaming) (group : OutputGroup) : OutputGroup :=
  ⟨group.package.renamed rename, renameModules rename group.modules⟩

namespace Call

variable (rename : Renaming)

/-- The call with the place of the container that it hands over renamed, if there is one. -/
def renamed : Call → Call
  | .addContainer location id => .addContainer location (rename id)
  | .addModuleContainer location moduleName id =>
    .addModuleContainer location moduleName (rename id)
  | other => other

/-- The answer to a call with the places in it renamed, if there are any. -/
def renameAnswer : (call : Call) → call.Answer → (call.renamed rename).Answer
  | .addContainer .., answer => answer
  | .addModuleContainer .., answer => answer
  | .createEmptyLocation .., answer => answer
  | .hasLocation .., known => known
  | .contains .., held => held
  | .getPackageGroup .., group => group.map (PackageGroup.renamed rename)
  | .getModuleGroup .., group => group.map (ModuleGroup.renamed rename)
  | .getOutputGroup .., group => group.map (OutputGroup.renamed rename)
  | .getPackageGroups, groups => groups.map (PackageGroup.renamed rename)
  | .list .., files => files
  | .getFileForInput .., file => file
  | .writeFile .., file => file
  | .read .., content => content
  | .inferBinaryName .., name => name
  | .effectiveRelease, release => release
  | .flush, answer => answer
  | .close, answer => answer

end Call

/-! ## Corresponding stores -/

namespace Store

/-- The second store is the first one with the places of its containers renamed. Places that are
not in use keep their names. -/
structure Corresponds (rename : Renaming) (left right : Store) : Prop where
  release : right.release = left.release
  closed : right.closed = left.closed
  size : right.shelf.size = left.shelf.size
  unused : ∀ id, left.shelf.size ≤ id → rename id = id
  get : ∀ id, right.shelf.get (rename id) = left.shelf.get id
  packages : right.packages = left.packages.mapWithKey fun _ => List.map rename
  modules : right.modules =
    left.modules.mapWithKey fun _ modules => modules.mapWithKey fun _ => List.map rename

theorem map_rename_append
    (rename : Renaming) (id : ContainerId) (old : Option (List ContainerId)) :
    (old.getD [] ++ [id]).map rename = (old.map (List.map rename)).getD [] ++ [rename id] := by
  cases old <;> simp

namespace Corresponds

variable {rename : Renaming} {left right : Store}
  (corresponds : Corresponds rename left right)

include corresponds

/-! ### Roots and groups -/

theorem roots?_eq (location : Location) :
    right.roots? location = (left.roots? location).map (List.map rename) := by
  cases location with
  | standard root => simp only [roots?, corresponds.packages, SortedTable.find?_mapWithKey]
  | module parent moduleName =>
      simp only [roots?, corresponds.modules, SortedTable.find?_mapWithKey]
      cases left.modules.find? parent with
      | none => rfl
      | some modules => simp only [Option.map_some, Option.bind_some, SortedTable.find?_mapWithKey]

theorem packageGroup?_eq (location : Location) :
    right.packageGroup? location =
      (left.packageGroup? location).map (PackageGroup.renamed rename) := by
  simp only [packageGroup?, corresponds.roots?_eq, Option.map_map]
  rfl

theorem moduleTable?_eq (location : Location) :
    right.moduleTable? location = (left.moduleTable? location).map (renameModules rename) := by
  cases location with
  | module parent moduleName => rfl
  | standard parent =>
      simp only [moduleTable?, corresponds.modules, SortedTable.find?_mapWithKey, Option.map_map]
      refine congrArg (Option.map · _) (funext fun modules => ?_)
      simp only [Function.comp_apply, renameModules, SortedTable.mapWithKey_mapWithKey]
      rfl

theorem containers_eq (group : PackageGroup) :
    (group.renamed rename).containers right.shelf = group.containers left.shelf := by
  simp only [PackageGroup.containers, PackageGroup.renamed, List.map_map]
  exact List.map_congr_left fun id _ => corresponds.get id

theorem contains_group_eq (group : PackageGroup) (path : String) :
    (group.renamed rename).contains right.shelf path = group.contains left.shelf path := by
  rw [PackageGroup.contains, corresponds.containers_eq, PackageGroup.contains]

theorem list_group_eq
    (group : PackageGroup) (packageName : String) (kinds : List FileKind) (recurse : Bool) :
    (group.renamed rename).list right.shelf packageName kinds recurse =
      group.list left.shelf packageName kinds recurse := by
  rw [PackageGroup.list, corresponds.containers_eq]
  rfl

theorem file?_group_eq (group : PackageGroup) (path : String) :
    (group.renamed rename).file? right.shelf path = group.file? left.shelf path := by
  rw [PackageGroup.file?, corresponds.containers_eq]
  rfl

/-! ### Changes of both stores -/

theorem place (container : Container) :
    Corresponds rename (left.place container) (right.place container) where
  release := corresponds.release
  closed := corresponds.closed
  size := by simp [Store.place, corresponds.size]
  unused id unused := by
    refine corresponds.unused id ?_
    simp only [Store.place, Shelf.size_add] at unused
    omega
  get id := by
    have lastPlace : rename left.shelf.size = left.shelf.size :=
      corresponds.unused _ (Nat.le_refl _)
    simp only [Store.place]
    by_cases isNew : id = left.shelf.size
    · rw [isNew, lastPlace, Shelf.get_add_size, ← corresponds.size, Shelf.get_add_size]
    · have stillOld : rename id ≠ right.shelf.size := by
        rw [corresponds.size, ← lastPlace]
        exact fun same => isNew (rename.injective same)
      rw [Shelf.get_add_of_ne _ _ isNew, Shelf.get_add_of_ne _ _ stillOld, corresponds.get]
  packages := corresponds.packages
  modules := corresponds.modules

theorem rename_lt_size {id : ContainerId} (used : id < left.shelf.size) :
    rename id < right.shelf.size := by
  rw [corresponds.size]
  by_contra beyond
  have fixed : rename (rename id) = rename id := corresponds.unused _ (Nat.le_of_not_lt beyond)
  rw [rename.injective fixed] at beyond
  exact beyond used

theorem writeInto (id : ContainerId) (path : String) (content : Bytes) :
    Corresponds rename (left.writeInto id path content)
      (right.writeInto (rename id) path content) where
  release := corresponds.release
  closed := corresponds.closed
  size := by simp [Store.writeInto, corresponds.size]
  unused other unused := by
    refine corresponds.unused other ?_
    simpa only [Store.writeInto, Shelf.size_write] using unused
  get other := by
    simp only [Store.writeInto]
    by_cases here : other = id
    · subst here
      by_cases used : other < left.shelf.size
      · rw [Shelf.get_write_self _ _ _ used,
          Shelf.get_write_self _ _ _ (corresponds.rename_lt_size used), corresponds.get]
      · -- Nothing is written on either side.
        have unused : left.shelf.size ≤ other := Nat.le_of_not_lt used
        have unusedRight : right.shelf.size ≤ rename other := by
          rw [corresponds.size, corresponds.unused other unused]
          exact unused
        rw [Shelf.write_of_le _ _ _ unused, Shelf.write_of_le _ _ _ unusedRight, corresponds.get]
    · have elsewhere : rename other ≠ rename id := fun same => here (rename.injective same)
      rw [Shelf.get_write_of_ne _ _ _ here, Shelf.get_write_of_ne _ _ _ elsewhere,
        corresponds.get]
  packages := corresponds.packages
  modules := corresponds.modules

theorem register (location : Location) (id : ContainerId) :
    Corresponds rename (left.register location id) (right.register location (rename id)) := by
  cases location with
  | standard root =>
      refine ⟨corresponds.release, corresponds.closed, corresponds.size, corresponds.unused,
        corresponds.get, ?_, corresponds.modules⟩
      simp only [Store.register, corresponds.packages]
      exact (SortedTable.mapWithKey_update _ _ _ (map_rename_append rename id)).symm
  | module parent moduleName =>
      refine ⟨corresponds.release, corresponds.closed, corresponds.size, corresponds.unused,
        corresponds.get, corresponds.packages, ?_⟩
      simp only [Store.register, registerModule, corresponds.modules]
      refine (SortedTable.mapWithKey_update _ _ _ fun known => ?_).symm
      have sameModules :
          (known.getD .empty).mapWithKey (fun _ => List.map rename) =
            (known.map fun modules => modules.mapWithKey fun _ => List.map rename).getD .empty := by
        cases known <;> rfl
      have appended :
          ((known.getD .empty).update moduleName fun roots => roots.getD [] ++ [id]).mapWithKey
              (fun _ => List.map rename) =
            ((known.getD .empty).mapWithKey fun _ => List.map rename).update moduleName
              fun roots => roots.getD [] ++ [rename id] :=
        SortedTable.mapWithKey_update _ _ _ (map_rename_append rename id)
      rw [appended, sameModules]

theorem ensureModules (parent : Location.Standard) :
    Corresponds rename (left.ensureModules parent) (right.ensureModules parent) := by
  refine ⟨corresponds.release, corresponds.closed, corresponds.size, corresponds.unused,
    corresponds.get, corresponds.packages, ?_⟩
  simp only [Store.ensureModules, corresponds.modules]
  refine (SortedTable.mapWithKey_update _ _ _ fun known => ?_).symm
  cases known <;> rfl

theorem ensureRoots (location : Location) :
    Corresponds rename (left.ensureRoots location) (right.ensureRoots location) := by
  have sameLack :
      (right.roots? location).getD [] = [] ↔ (left.roots? location).getD [] = [] := by
    rw [corresponds.roots?_eq]
    cases left.roots? location <;> simp
  have lastPlace : rename left.shelf.size = right.shelf.size := by
    rw [corresponds.unused _ (Nat.le_refl _), corresponds.size]
  unfold Store.ensureRoots
  by_cases lacking : (left.roots? location).getD [] = []
  · rw [if_pos lacking, if_pos (sameLack.2 lacking), ← lastPlace]
    exact (corresponds.place _).register location _
  · rw [if_neg lacking, if_neg (mt sameLack.1 lacking)]
    exact corresponds

end Corresponds

/-! ## Places that are exchanged -/

section Fixed

variable {store : Store} {rename : Renaming} (sound : store.Sound)
  (fixed : ∀ id, id < store.shelf.size → rename id = id)

include sound fixed

theorem Sound.map_roots_eq {location : Location} {roots : List ContainerId}
    (known : store.roots? location = some roots) : roots.map rename = roots := by
  have everyFixed : ∀ id ∈ roots, rename id = id := fun id member =>
    fixed id (sound.onShelf location roots known id member)
  exact (List.map_congr_left everyFixed).trans (List.map_id' roots)

theorem Sound.packages_eq :
    store.packages.mapWithKey (fun _ => List.map rename) = store.packages := by
  apply SortedTable.ext_find?
  intro root
  rw [SortedTable.find?_mapWithKey]
  cases known : store.packages.find? root with
  | none => rfl
  | some roots =>
      have rooted : store.roots? (.standard root) = some roots := known
      exact congrArg some (sound.map_roots_eq fixed rooted)

theorem Sound.modules_eq :
    store.modules.mapWithKey (fun _ modules => modules.mapWithKey fun _ => List.map rename) =
      store.modules := by
  apply SortedTable.ext_find?
  intro parent
  rw [SortedTable.find?_mapWithKey]
  cases parentKnown : store.modules.find? parent with
  | none => rfl
  | some modules =>
      refine congrArg some (SortedTable.ext_find? fun moduleName => ?_)
      rw [SortedTable.find?_mapWithKey]
      cases known : modules.find? moduleName with
      | none => rfl
      | some roots =>
          have rooted : store.roots? (.module parent moduleName) = some roots := by
            simp only [roots?, parentKnown, Option.bind_some, known]
          exact congrArg some (sound.map_roots_eq fixed rooted)

end Fixed

namespace Corresponds

theorem refl (store : Store) : Corresponds (Equiv.refl _) store store := by
  have sameRoots : List.map (Equiv.refl ContainerId) = fun roots => roots := funext List.map_id
  refine ⟨rfl, rfl, rfl, fun _ _ => rfl, fun _ => rfl, ?_, ?_⟩
  · rw [sameRoots, SortedTable.mapWithKey_self]
  · rw [sameRoots]
    simp only [SortedTable.mapWithKey_self]

/-- It does not matter which of two new containers is placed first. -/
theorem place_place {store : Store} (sound : store.Sound) (container other : Container) :
    Corresponds (Equiv.swap store.shelf.size (store.shelf.size + 1))
      ((store.place container).place other) ((store.place other).place container) := by
  have fixed : ∀ id, id < store.shelf.size →
      Equiv.swap store.shelf.size (store.shelf.size + 1) id = id := fun id used =>
    Equiv.swap_apply_of_ne_of_ne (by omega) (by omega)
  refine ⟨rfl, rfl, by simp [Store.place], ?_, ?_, (sound.packages_eq fixed).symm,
    (sound.modules_eq fixed).symm⟩
  · intro id unused
    simp only [Store.place, Shelf.size_add] at unused
    exact Equiv.swap_apply_of_ne_of_ne (Nat.ne_of_gt (by omega)) (Nat.ne_of_gt (by omega))
  · intro id
    simp only [Store.place]
    have sizeAdd : ∀ added : Container, store.shelf.size + 1 = (store.shelf.add added).size :=
      fun added => (Shelf.size_add store.shelf added).symm
    have sizesDiffer : ∀ added : Container, store.shelf.size ≠ (store.shelf.add added).size := by
      intro added
      rw [Shelf.size_add]
      omega
    by_cases isFirst : id = store.shelf.size
    · rw [isFirst, Equiv.swap_apply_left, sizeAdd other, Shelf.get_add_size,
        Shelf.get_add_of_ne _ _ (sizesDiffer container), Shelf.get_add_size]
    · by_cases isSecond : id = store.shelf.size + 1
      · rw [isSecond, Equiv.swap_apply_right, Shelf.get_add_of_ne _ _ (sizesDiffer other),
          Shelf.get_add_size, sizeAdd container, Shelf.get_add_size]
      · rw [Equiv.swap_apply_of_ne_of_ne isFirst isSecond,
          Shelf.get_add_of_ne _ _ (sizeAdd other ▸ isSecond),
          Shelf.get_add_of_ne _ _ isFirst, Shelf.get_add_of_ne _ _ (sizeAdd container ▸ isSecond),
          Shelf.get_add_of_ne _ _ isFirst]

end Corresponds

end Store

end CompilationChecks
