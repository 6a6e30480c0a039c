import CompilationChecks.Proofs.Containers
import CompilationChecks.Store

/-!
# The roots of a store

Which roots a location has after each thing that can be done to a store, and what the containers
behind them hold. Registering a root appends it to the roots of one location and touches nothing
else; making sure that a location has roots adds at most one new container, which is empty.
-/

namespace CompilationChecks

theorem Location.isModuleOriented_of_isOutput
    {location : Location} (output : location.isOutput = true) :
    location.isModuleOriented = false := by
  cases location with
  | standard root => cases root <;> first | rfl | cases output
  | module parent moduleName => rfl

/-- A new container without files changes nothing that can be read. -/
theorem Shelf.read_get_add_new
    (shelf : Shelf) (name : String) (id : ContainerId) (path : String) :
    ((shelf.add (.new name)).get id).read path = (shelf.get id).read path := by
  by_cases isNew : id = shelf.size
  · rw [isNew, get_add_size, read_get_of_le shelf (Nat.le_refl _), Container.read_new]
  · rw [get_add_of_ne shelf _ isNew]

namespace Store

variable (store : Store)

/-! ## The tables decide -/

section SameTables

variable {store} {next : Store} (samePackages : next.packages = store.packages)
  (sameModules : next.modules = store.modules)

include samePackages sameModules

theorem roots?_congr (location : Location) : next.roots? location = store.roots? location := by
  cases location with
  | standard root => exact congrArg (SortedTable.find? · root) samePackages
  | module parent moduleName => simp only [roots?, sameModules]

theorem hasLocation_congr (location : Location) :
    next.hasLocation location = store.hasLocation location := by
  have sameModuleTable : next.moduleTable? location = store.moduleTable? location := by
    cases location with
    | standard root => simp only [moduleTable?, sameModules]
    | module parent moduleName => rfl
  simp only [hasLocation, roots?_congr samePackages sameModules, sameModuleTable]

end SameTables

/-! ## Registering -/

theorem roots?_register_self (location : Location) (id : ContainerId) :
    (store.register location id).roots? location =
      some ((store.roots? location).getD [] ++ [id]) := by
  cases location with
  | standard root => exact SortedTable.find?_update_self _ _ _
  | module parent moduleName =>
      simp only [register, registerModule, roots?, SortedTable.find?_update_self,
        Option.bind_some]
      cases store.modules.find? parent with
      | none => rfl
      | some modules => rfl

theorem roots?_register_of_ne
    {location other : Location} (id : ContainerId) (different : other ≠ location) :
    (store.register location id).roots? other = store.roots? other := by
  cases location with
  | standard root =>
      cases other with
      | module otherParent otherName => rfl
      | standard otherRoot =>
          have rootNe : otherRoot ≠ root := fun same => different (by rw [same])
          exact SortedTable.find?_update_of_ne _ _ rootNe
  | module parent moduleName =>
      cases other with
      | standard otherRoot => rfl
      | module otherParent otherName =>
          by_cases sameParent : otherParent = parent
          · subst sameParent
            have nameNe : otherName ≠ moduleName := fun same => different (by rw [same])
            simp only [register, registerModule, roots?, SortedTable.find?_update_self,
              Option.bind_some]
            rw [SortedTable.find?_update_of_ne _ _ nameNe]
            cases store.modules.find? otherParent with
            | none => rfl
            | some modules => rfl
          · simp only [register, registerModule, roots?]
            rw [SortedTable.find?_update_of_ne _ _ sameParent]

@[simp]
theorem shelf_register (location : Location) (id : ContainerId) :
    (store.register location id).shelf = store.shelf := by
  cases location <;> rfl

@[simp]
theorem closed_register (location : Location) (id : ContainerId) :
    (store.register location id).closed = store.closed := by
  cases location <;> rfl

/-- A location that is known to hold modules has the roots and modules that it had. -/
theorem roots?_ensureModules (parent : Location.Standard) (location : Location) :
    (store.ensureModules parent).roots? location = store.roots? location := by
  cases location with
  | standard root => rfl
  | module other moduleName =>
      by_cases same : other = parent
      · subst same
        simp only [ensureModules, roots?, SortedTable.find?_update_self, Option.bind_some]
        cases store.modules.find? other with
        | none => rfl
        | some modules => rfl
      · simp only [ensureModules, roots?]
        rw [SortedTable.find?_update_of_ne _ _ same]

/-! ## Making sure of roots -/

variable {store} {location : Location}

theorem ensureRoots_of_nonempty
    {roots : List ContainerId} (known : store.roots? location = some roots)
    (nonempty : roots ≠ []) :
    store.ensureRoots location = store := by
  simp [ensureRoots, known, nonempty]

theorem ensureRoots_of_none (unknown : store.roots? location = none) :
    store.ensureRoots location =
      (store.place (.new location.name)).register location store.shelf.size := by
  simp [ensureRoots, unknown]

theorem roots?_ensureRoots_of_none (unknown : store.roots? location = none) :
    (store.ensureRoots location).roots? location = some [store.shelf.size] := by
  have unknownPlaced : (store.place (.new location.name)).roots? location = none := unknown
  rw [ensureRoots_of_none unknown, roots?_register_self, unknownPlaced]
  rfl

variable (store location)

theorem roots?_ensureRoots_of_ne {other : Location} (different : other ≠ location) :
    (store.ensureRoots location).roots? other = store.roots? other := by
  unfold ensureRoots
  split
  · rw [roots?_register_of_ne _ _ different]
    rfl
  · rfl

/-- Making sure of roots changes nothing that can be read. -/
theorem read_ensureRoots (id : ContainerId) (path : String) :
    ((store.ensureRoots location).shelf.get id).read path = (store.shelf.get id).read path := by
  unfold ensureRoots
  split
  · rw [shelf_register]
    exact Shelf.read_get_add_new _ _ _ _
  · rfl

theorem tidy_ensureRoots (tidy : store.shelf.Tidy) : (store.ensureRoots location).shelf.Tidy := by
  unfold ensureRoots
  split
  · rw [shelf_register]
    exact tidy.add (Container.tidy_new _)
  · exact tidy

@[simp]
theorem closed_ensureRoots : (store.ensureRoots location).closed = store.closed := by
  unfold ensureRoots
  split
  · rw [closed_register]
    rfl
  · rfl

theorem name_get_ensureRoots {id : ContainerId} (used : id < store.shelf.size) :
    ((store.ensureRoots location).shelf.get id).name = (store.shelf.get id).name := by
  unfold ensureRoots
  split
  · rw [shelf_register]
    exact congrArg Container.name (Shelf.get_add_of_lt _ _ used)
  · rfl

end Store

end CompilationChecks
