import CompilationChecks.Proofs.Store.Modules
import Mathlib.Data.List.Sort

/-!
# The groups of one store

Five operations hand out groups, and they read two tables in different ways. They agree with each
other: an output group has the parts that the other two getters give for its location; a module
stands in the group of its parent exactly if it has a group of its own, and the two are the same;
and the groups of all locations are those that can be asked for one by one, in the order of the
locations.
-/

namespace CompilationChecks

/-! ## Tables with few keys -/

/-- The entries of a table can be looked up one by one if all possible keys are known. -/
theorem SortedTable.entries_eq_filterMap
    {κ ν : Type} [Ord κ] [Std.TransOrd κ] [Std.LawfulEqOrd κ]
    (table : SortedTable κ ν) {keys : List κ}
    (ascending : keys.Pairwise fun left right => compare left right = .lt)
    (complete : ∀ entry ∈ table.entries, entry.1 ∈ keys) :
    table.entries =
      keys.filterMap fun key => (table.find? key).map fun value => (key, value) := by
  have irreflexive : Std.Irrefl fun left right : κ × ν => compare left.1 right.1 = .lt :=
    ⟨fun _ before => Std.OrientedCmp.not_lt_of_lt before before⟩
  have antisymmetric : Std.Antisymm fun left right : κ × ν => compare left.1 right.1 = .lt :=
    ⟨fun _ _ before behind => absurd behind (Std.OrientedCmp.not_lt_of_lt before)⟩
  have lookedUpAscending :
      (keys.filterMap fun key => (table.find? key).map fun value => (key, value)).Pairwise
        fun left right => compare left.1 right.1 = .lt := by
    refine List.Pairwise.filterMap _ ?_ ascending
    intro left right before leftEntry leftFound rightEntry rightFound
    obtain ⟨leftValue, _, rfl⟩ := Option.map_eq_some_iff.1 leftFound
    obtain ⟨rightValue, _, rfl⟩ := Option.map_eq_some_iff.1 rightFound
    exact before
  -- Two ascending lists with the same members are the same list.
  refine List.Pairwise.eq_of_mem_iff table.ascending lookedUpAscending ?_
  rintro ⟨key, value⟩
  simp only [List.mem_filterMap, Option.map_eq_some_iff, Prod.mk.injEq, mem_entries_iff]
  constructor
  · intro found
    have possible : key ∈ keys := complete (key, value) (mem_entries_iff.2 found)
    exact ⟨key, possible, value, found, rfl, rfl⟩
  · rintro ⟨_, _, _, found, rfl, rfl⟩
    exact found

theorem Location.Standard.ascending_all :
    all.Pairwise fun left right => compare left right = .lt := by
  decide

namespace Store

variable {store : Store}

/-! ## What the getters give -/

section Getters

variable {location : Location} (isOpen : store.closed = false)

include isOpen

theorem getPackageGroup_of_holds_files (holdsFiles : location.isModuleOriented = false) :
    store.getPackageGroup location = store.answer (store.packageGroup? location) := by
  simp [getPackageGroup, isOpen, holdsFiles]

theorem getModuleGroup_of_takes
    {parent : Location.Standard} (takes : parent.takesModules = true) :
    store.getModuleGroup (.standard parent) =
      store.answer ((store.moduleTable? (.standard parent)).map fun modules =>
        ⟨.standard parent, modules⟩) := by
  have eitherKind :
      ((Location.standard parent).isModuleOriented || (Location.standard parent).isOutput) = true :=
    takes
  simp only [getModuleGroup, isOpen, eitherKind, Bool.false_eq_true, if_false, if_true]

theorem getPackageGroups_eq :
    store.getPackageGroups =
      store.answer (store.packages.entries.map fun entry => ⟨.standard entry.1, entry.2⟩) := by
  simp [getPackageGroups, isOpen]

end Getters

/-! ## One group and its parts -/

/-- An output group is there if one of its parts is, and it consists of these parts; a part that is
not there is empty in it. -/
structure Assembles (location : Location) (output : Option OutputGroup)
    (package : Option PackageGroup) (modules : Option ModuleGroup) : Prop where
  none_iff : output = none ↔ package = none ∧ modules = none
  package_eq : ∀ group, output = some group → group.package = package.getD ⟨location, []⟩
  modules_eq : ∀ group, output = some group → group.moduleGroup = modules.getD ⟨location, .empty⟩

theorem getOutputGroup_assembles
    (isOpen : store.closed = false) {location : Location} (output : location.isOutput = true) :
    ∃ found,
      store.getOutputGroup location = store.answer found ∧
        Assembles location found (store.packageGroup? location)
          ((store.moduleTable? location).map fun modules => ⟨location, modules⟩) := by
  unfold getOutputGroup
  simp only [isOpen, output, Bool.false_eq_true, if_false, if_true]
  have here : ∀ package, store.packageGroup? location = some package →
      package.location = location := by
    intro package found
    obtain ⟨roots, _, rfl⟩ := Option.map_eq_some_iff.1 found
    rfl
  cases packageFound : store.packageGroup? location with
  | none =>
      cases modulesFound : store.moduleTable? location with
      | none => exact ⟨none, rfl, by simp, nofun, nofun⟩
      | some modules =>
          refine ⟨_, rfl, by simp, ?_, ?_⟩
          · rintro group ⟨⟩
            rfl
          · rintro group ⟨⟩
            rfl
  | some package =>
      have samePlace : package.location = location := here package packageFound
      refine ⟨_, rfl, by simp, ?_, ?_⟩
      · rintro group ⟨⟩
        rfl
      · rintro group ⟨⟩
        cases store.moduleTable? location <;>
          simp [OutputGroup.moduleGroup, OutputGroup.location, samePlace]

/-- A module of a standard location has the same group as a part of its parent and alone. -/
theorem find?_moduleTable?_eq (parent : Location.Standard) (moduleName : String) :
    ((store.moduleTable? (.standard parent)).bind fun modules => modules.find? moduleName) =
      store.packageGroup? (.module parent moduleName) := by
  cases known : store.modules.find? parent with
  | none => simp [moduleTable?, packageGroup?, roots?, known]
  | some modules => simp [moduleTable?, packageGroup?, roots?, known]

/-- The roots of all standard locations, looked up one by one. -/
theorem packages_eq_filterMap (sound : store.Sound) :
    store.packages.entries.map (fun entry => (⟨.standard entry.1, entry.2⟩ : PackageGroup)) =
      (Location.Standard.all.filter fun root => !root.isModuleOriented).filterMap fun root =>
        store.packageGroup? (.standard root) := by
  have possible : ∀ entry ∈ store.packages.entries,
      entry.1 ∈ Location.Standard.all.filter fun root => !root.isModuleOriented := by
    rintro ⟨root, roots⟩ member
    have known : store.roots? (.standard root) = some roots :=
      SortedTable.mem_entries_iff.1 member
    have holdsFiles : root.isModuleOriented = false := sound.holdsFiles _ roots known
    exact List.mem_filter.2 ⟨Location.Standard.mem_all root, by rw [holdsFiles]; rfl⟩
  rw [store.packages.entries_eq_filterMap (Location.Standard.ascending_all.filter _) possible,
    List.map_filterMap]
  congr 1
  funext root
  exact Option.map_map _ _ _

/-! ## All getters -/

/-- **The getters describe one and the same store.** On a reachable open store the output group of
an output location has exactly the parts that the other two getters give; a module of a location
that takes modules is in the group of this location exactly if it has a group of its own, which is
then the same; and the groups of all locations are the groups of the standard locations that hold
files, one after another in the order of the locations. -/
theorem getters_describe_one_store (reachable : store.Reachable) (isOpen : store.closed = false) :
    (∀ root : Location.Standard, root.isOutput = true →
      ∃ output package modules,
        store.getOutputGroup root = store.answer output ∧
          store.getPackageGroup root = store.answer package ∧
          store.getModuleGroup root = store.answer modules ∧
          Assembles root output package modules) ∧
    (∀ parent : Location.Standard, parent.takesModules = true →
      ∃ modules, store.getModuleGroup parent = store.answer modules ∧
        ∀ moduleName, ∃ group,
          store.getPackageGroup (.module parent moduleName) = store.answer group ∧
            (modules.bind fun found => found.module? moduleName) = group ∧
            ∀ found, group = some found → found.location = .module parent moduleName) ∧
    ∃ group : Location.Standard → Option PackageGroup,
      (∀ root : Location.Standard, root.isModuleOriented = false →
        store.getPackageGroup (.standard root) = store.answer (group root)) ∧
        store.getPackageGroups =
          store.answer
            ((Location.Standard.all.filter fun root => !root.isModuleOriented).filterMap group) := by
  refine ⟨?_, ?_, ?_⟩
  · intro root output
    have rootOutput : (Location.standard root).isOutput = true := output
    obtain ⟨found, outputFound, assembles⟩ := getOutputGroup_assembles isOpen rootOutput
    have holdsFiles : (Location.standard root).isModuleOriented = false :=
      Location.isModuleOriented_of_isOutput output
    have takes : root.takesModules = true := by
      simp [Location.Standard.takesModules, output]
    exact ⟨found, _, _, outputFound, getPackageGroup_of_holds_files isOpen holdsFiles,
      getModuleGroup_of_takes isOpen takes, assembles⟩
  · intro parent takes
    refine ⟨_, getModuleGroup_of_takes isOpen takes, fun moduleName => ?_⟩
    refine ⟨_, getPackageGroup_of_holds_files isOpen rfl, ?_, ?_⟩
    · rw [← find?_moduleTable?_eq, Option.bind_map]
      rfl
    · intro found isThere
      obtain ⟨roots, _, rfl⟩ := Option.map_eq_some_iff.1 isThere
      rfl
  · refine ⟨fun root => store.packageGroup? (.standard root), ?_, ?_⟩
    · intro root holdsFiles
      exact getPackageGroup_of_holds_files isOpen holdsFiles
    · rw [getPackageGroups_eq isOpen, packages_eq_filterMap reachable.sound]

/-- The class output of this store has a module and no roots of its own, so its output group is
there with an empty part; only the class path has a group among those of all locations. -/
theorem getters_describe_one_store_mixedRoots :
    mixedRoots.Reachable ∧ mixedRoots.closed = false ∧
      (∃ output package modules,
        mixedRoots.getOutputGroup Location.Standard.classOutput = mixedRoots.answer output ∧
          mixedRoots.getPackageGroup Location.Standard.classOutput = mixedRoots.answer package ∧
          mixedRoots.getModuleGroup Location.Standard.classOutput = mixedRoots.answer modules ∧
          Assembles Location.Standard.classOutput output package modules) ∧
      (∃ modules, mixedRoots.getModuleGroup Location.Standard.modulePath =
          mixedRoots.answer modules ∧
        (modules.bind fun found => found.module? "m") = some ⟨.module .modulePath "m", [0]⟩) ∧
      mixedRoots.getPackageGroups = mixedRoots.answer [⟨.standard .classPath, [0]⟩] := by
  obtain ⟨outputs, modules, _⟩ :=
    getters_describe_one_store mixedRoots_reachable rfl
  refine ⟨mixedRoots_reachable, rfl, outputs .classOutput rfl, ?_, ?_⟩
  · obtain ⟨found, moduleGroup, parts⟩ := modules .modulePath rfl
    obtain ⟨alone, aloneFound, same, _⟩ := parts "m"
    have expected : mixedRoots.getPackageGroup (.module .modulePath "m") =
        mixedRoots.answer (some ⟨.module .modulePath "m", [0]⟩) := rfl
    refine ⟨found, moduleGroup, same.trans ?_⟩
    rw [aloneFound] at expected
    exact Except.ok.inj (congrArg Prod.fst expected)
  · rfl

end Store

end CompilationChecks
