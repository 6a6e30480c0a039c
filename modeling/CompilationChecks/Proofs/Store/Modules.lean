import CompilationChecks.Proofs.Store.Closing

/-!
# The roots of modules

A module gets a root by its own location or by that of its parent together with its name. The
second way asks whether modules may stand in the parent; the first way does not, so the two agree
exactly where the parent takes modules. Every call gives roots to one location at most, and the
calls that give roots to a module of a parent that takes none are two: the first way of adding a
container, and making the location of the module known.
-/

namespace CompilationChecks

/-- A location that modules may stand in: one that holds modules, or an output. -/
def Location.Standard.takesModules (parent : Location.Standard) : Bool :=
  parent.isModuleOriented || parent.isOutput

/-- The location that an open manager gives a root to when it carries out a call. -/
def Call.rooted? : Call → Option Location
  | .addContainer location _ => if location.isModuleOriented then none else some location
  | .addModuleContainer (.standard parent) moduleName _ =>
    if parent.takesModules then some (.module parent moduleName) else none
  | .createEmptyLocation location => if location.isModuleOriented then none else some location
  | .writeFile location _ _ _ => if location.isOutput then some location else none
  | _ => none

/-- A call that is to give a root to a module in a location that takes modules, if to any. -/
def Call.Fits (call : Call) : Prop :=
  ∀ parent moduleName, call.rooted? = some (.module parent moduleName) → parent.takesModules = true

namespace Store

variable {store : Store} {call : Call} {location : Location}

/-! ## Calls that give roots -/

section Calls

variable (isOpen : store.closed = false)

include isOpen

theorem addContainer_eq (holdsFiles : location.isModuleOriented = false) (id : ContainerId) :
    store.addContainer location id = (.ok (), store.register location id) := by
  simp [addContainer, isOpen, holdsFiles]

theorem addModuleContainer_eq
    {parent : Location.Standard} (takes : parent.takesModules = true) (moduleName : String)
    (id : ContainerId) :
    store.addModuleContainer (.standard parent) moduleName id =
      (.ok (), store.register (.module parent moduleName) id) := by
  unfold Location.Standard.takesModules at takes
  simp [addModuleContainer, isOpen, takes, register]

theorem addModuleContainer_of_takes_none
    {parent : Location.Standard} (takesNone : parent.takesModules = false) (moduleName : String)
    (id : ContainerId) :
    store.addModuleContainer (.standard parent) moduleName id =
      store.refuse (.notModuleOriented parent.name) := by
  unfold Location.Standard.takesModules at takesNone
  simp [addModuleContainer, isOpen, takesNone, Location.name]

theorem createEmptyLocation_eq (holdsFiles : location.isModuleOriented = false) :
    store.createEmptyLocation location = (.ok (), store.ensureRoots location) := by
  cases location with
  | module parent moduleName => simp [createEmptyLocation, isOpen]
  | standard root =>
      have rootHoldsFiles : root.isModuleOriented = false := holdsFiles
      simp [createEmptyLocation, isOpen, rootHoldsFiles]

end Calls

/-! ## One call, one location -/

/-- A call that gives a root to a location appends one, or makes sure that there is one; files may
be written besides. -/
theorem perform_of_rooted?
    (isOpen : store.closed = false) (rooted : call.rooted? = some location) :
    (∃ id, (store.perform call).2 = store.register location id) ∨
      ∃ shelf, (store.perform call).2 = { store.ensureRoots location with shelf := shelf } := by
  cases call
  case addContainer target id =>
    cases holdsModules : target.isModuleOriented <;> simp [Call.rooted?, holdsModules] at rooted
    subst rooted
    exact Or.inl ⟨id, congrArg Prod.snd (addContainer_eq isOpen holdsModules id)⟩
  case addModuleContainer target moduleName id =>
    cases target with
    | module => cases rooted
    | standard parent =>
        cases takes : parent.takesModules <;> simp [Call.rooted?, takes] at rooted
        subst rooted
        exact Or.inl ⟨id, congrArg Prod.snd (addModuleContainer_eq isOpen takes moduleName id)⟩
  case createEmptyLocation target =>
    cases holdsModules : target.isModuleOriented <;> simp [Call.rooted?, holdsModules] at rooted
    subst rooted
    exact Or.inr ⟨_, congrArg Prod.snd (createEmptyLocation_eq isOpen holdsModules)⟩
  case writeFile target packageName relativeName content =>
    cases output : target.isOutput <;> simp [Call.rooted?, output] at rooted
    subst rooted
    obtain ⟨_, _, _, written⟩ := writeFile_eq isOpen output packageName relativeName content
    exact Or.inr ⟨_, congrArg Prod.snd written⟩
  all_goals cases rooted

/-- Any other call leaves both tables as they are, but that it may make known a location that holds
modules. -/
theorem perform_of_not_rooted? (notRooted : call.rooted? = none) :
    ((store.perform call).2.packages = store.packages ∧
      (store.perform call).2.modules = store.modules) ∨
      ∃ parent : Location.Standard, parent.isModuleOriented = true ∧
        (store.perform call).2 = store.ensureModules parent := by
  cases closedness : store.closed with
  | true =>
      rw [unchanged_of_closed closedness]
      exact Or.inl ⟨rfl, rfl⟩
  | false =>
      cases call
      case addContainer target id =>
        cases holdsModules : target.isModuleOriented <;>
          simp [Call.rooted?, holdsModules] at notRooted
        simp [perform, addContainer, closedness, holdsModules, refuse]
      case addModuleContainer target moduleName id =>
        cases target with
        | module => simp [perform, addModuleContainer, closedness, refuse]
        | standard parent =>
            cases takes : parent.takesModules <;> simp [Call.rooted?, takes] at notRooted
            simp [perform, addModuleContainer_of_takes_none closedness takes, refuse]
      case createEmptyLocation target =>
        cases target with
        | module => cases notRooted
        | standard root =>
            cases holdsModules : root.isModuleOriented <;>
              simp [Call.rooted?, Location.isModuleOriented, holdsModules] at notRooted
            refine Or.inr ⟨root, holdsModules, ?_⟩
            simp [perform, createEmptyLocation, closedness, holdsModules]
      case writeFile target packageName relativeName content =>
        cases output : target.isOutput <;> simp [Call.rooted?, output] at notRooted
        simp [perform, writeFile_of_not_output _ _ _ closedness output, refuse]
      case close => exact Or.inl ⟨rfl, rfl⟩
      -- All other calls only ask.
      all_goals
        rw [perform_of_onlyAsks rfl]
        exact Or.inl ⟨rfl, rfl⟩

/-- A location gets roots, or more of them, only from a call that is to give it one. -/
theorem roots?_perform_of_ne
    (notRooted : store.closed = true ∨ call.rooted? ≠ some location) :
    (store.perform call).2.roots? location = store.roots? location := by
  cases closedness : store.closed with
  | true => rw [unchanged_of_closed closedness]
  | false =>
      have elsewhere : call.rooted? ≠ some location := by
        rcases notRooted with isClosed | elsewhere
        · rw [closedness] at isClosed
          cases isClosed
        · exact elsewhere
      cases target : call.rooted? with
      | some other =>
          have different : location ≠ other := fun same => elsewhere (by rw [target, same])
          rcases perform_of_rooted? closedness target with ⟨id, after⟩ | ⟨shelf, after⟩
          · rw [after, roots?_register_of_ne _ _ different]
          · rw [after]
            exact roots?_ensureRoots_of_ne store other different
      | none =>
          rcases perform_of_not_rooted? target with ⟨samePackages, sameModules⟩ | ⟨parent, _, after⟩
          · exact roots?_congr samePackages sameModules location
          · rw [after, roots?_ensureModules]

theorem roots?_perform_ne_none
    (isOpen : store.closed = false) (rooted : call.rooted? = some location) :
    (store.perform call).2.roots? location ≠ none := by
  rcases perform_of_rooted? isOpen rooted with ⟨id, after⟩ | ⟨shelf, after⟩
  · rw [after, roots?_register_self]
    exact nofun
  · obtain ⟨first, others, known⟩ := exists_first_root store location
    have knownAfter : (store.perform call).2.roots? location = some (first :: others) := by
      rw [after]
      exact known
    rw [knownAfter]
    exact nofun

/-- A location without roots has some after a call exactly if the manager is open and the call is
to give it one. -/
theorem gains_roots_iff (without : store.roots? location = none) :
    (store.perform call).2.roots? location ≠ none ↔
      store.closed = false ∧ call.rooted? = some location := by
  constructor
  · intro gained
    have notElse : ¬ (store.closed = true ∨ call.rooted? ≠ some location) := fun notRooted =>
      gained ((roots?_perform_of_ne notRooted).trans without)
    rw [not_or, Bool.not_eq_true, Decidable.not_not] at notElse
    exact notElse
  · rintro ⟨isOpen, rooted⟩
    exact roots?_perform_ne_none isOpen rooted

/-! ## Locations that take modules -/

/-- Only locations that take modules are known to hold some. -/
def ModulesFit (store : Store) : Prop :=
  ∀ parent modules, store.modules.find? parent = some modules → parent.takesModules = true

namespace ModulesFit

theorem new (release : String) : (Store.new release).ModulesFit := by
  intro parent modules known
  cases known

theorem of_modules_eq {next : Store} (fit : store.ModulesFit) (same : next.modules = store.modules) :
    next.ModulesFit := by
  intro parent modules known
  rw [same] at known
  exact fit parent modules known

theorem register
    (fit : store.ModulesFit) (id : ContainerId)
    (fits : ∀ parent moduleName, location = .module parent moduleName →
      parent.takesModules = true) :
    (store.register location id).ModulesFit := by
  cases location with
  | standard root => exact fit
  | module parent moduleName =>
      intro other modules known
      by_cases same : other = parent
      · rw [same]
        exact fits parent moduleName rfl
      · have before : store.modules.find? other = some modules :=
          (SortedTable.find?_update_of_ne _ _ same).symm.trans known
        exact fit other modules before

theorem ensureRoots
    (fit : store.ModulesFit)
    (fits : ∀ parent moduleName, location = .module parent moduleName →
      parent.takesModules = true) :
    (store.ensureRoots location).ModulesFit := by
  have fitPlaced : (store.place (.new location.name)).ModulesFit := fit
  unfold Store.ensureRoots
  split
  · exact fitPlaced.register _ fits
  · exact fit

theorem ensureModules
    (fit : store.ModulesFit) {parent : Location.Standard}
    (holdsModules : parent.isModuleOriented = true) :
    (store.ensureModules parent).ModulesFit := by
  intro other modules known
  by_cases same : other = parent
  · simp [same, Location.Standard.takesModules, holdsModules]
  · have before : store.modules.find? other = some modules :=
      (SortedTable.find?_update_of_ne _ _ same).symm.trans known
    exact fit other modules before

theorem perform (fit : store.ModulesFit) (fits : call.Fits) :
    (store.perform call).2.ModulesFit := by
  cases closedness : store.closed with
  | true =>
      rw [unchanged_of_closed closedness]
      exact fit
  | false =>
      cases target : call.rooted? with
      | some location =>
          have fitsThere : ∀ parent moduleName, location = .module parent moduleName →
              parent.takesModules = true := by
            intro parent moduleName same
            exact fits parent moduleName (by rw [target, same])
          rcases perform_of_rooted? closedness target with ⟨id, after⟩ | ⟨shelf, after⟩
          · rw [after]
            exact fit.register id fitsThere
          · rw [after]
            exact (fit.ensureRoots fitsThere).of_modules_eq rfl
      | none =>
          rcases perform_of_not_rooted? target with ⟨_, sameModules⟩ | ⟨parent, holds, after⟩
          · exact fit.of_modules_eq sameModules
          · rw [after]
            exact fit.ensureModules holds

end ModulesFit

/-- One move in the life of a store in which calls give roots to modules only in locations that
take modules. -/
inductive FitMoves : Store → Store → Prop where
  | made (store : Store) (name : String) : FitMoves store (store.place (.new name))
  | written (store : Store) (id : ContainerId) (path : String) (content : Bytes)
      (onShelf : id < store.shelf.size) : FitMoves store (store.writeInto id path content)
  | called (store : Store) (call : Call) (onShelf : ∀ id ∈ call.containers, id < store.shelf.size)
      (fits : call.Fits) : FitMoves store (store.perform call).2

/-- A store that comes about by such moves from one that was just made. -/
def FitlyReachable (store : Store) : Prop :=
  ∃ release, Relation.ReflTransGen FitMoves (.new release) store

theorem ModulesFit.moves {next : Store} (fit : store.ModulesFit) (moves : store.FitMoves next) :
    next.ModulesFit := by
  cases moves with
  | made name => exact fit.of_modules_eq rfl
  | written id path content _ => exact fit.of_modules_eq rfl
  | called call _ fits => exact fit.perform fits

theorem FitlyReachable.modulesFit (reachable : store.FitlyReachable) : store.ModulesFit := by
  obtain ⟨release, moves⟩ := reachable
  induction moves with
  | refl => exact ModulesFit.new release
  | tail _ move inductionHypothesis => exact inductionHypothesis.moves move

/-! ## Two ways to register a root of a module -/

/-- Two answers to calls on one store agree: both calls succeed and leave the same store, or both
fail and leave the store as it was. -/
def Agree (store : Store) (left right : Step Unit) : Prop :=
  (∃ next, left = (.ok (), next) ∧ right = (.ok (), next)) ∨
    ∃ leftFailure rightFailure,
      left = (.error leftFailure, store) ∧ right = (.error rightFailure, store)

section Registrations

variable (store) (parent : Location.Standard) (moduleName : String)

theorem agree_iff (id : ContainerId) :
    store.Agree (store.addContainer (.module parent moduleName) id)
        (store.addModuleContainer (.standard parent) moduleName id) ↔
      store.closed = true ∨ parent.takesModules = true := by
  cases closedness : store.closed with
  | true =>
      have bothRefused :
          store.Agree (store.addContainer (.module parent moduleName) id)
            (store.addModuleContainer (.standard parent) moduleName id) := by
        refine Or.inr ⟨.of .closed, .of .closed, ?_, ?_⟩
        · simp [addContainer, closedness, refuse]
        · simp [addModuleContainer, closedness, refuse]
      simp [bothRefused]
  | false =>
      rw [addContainer_eq closedness rfl]
      cases takes : parent.takesModules with
      | true =>
          rw [addModuleContainer_eq closedness takes]
          simp [Agree]
      | false =>
          rw [addModuleContainer_of_takes_none closedness takes]
          simp [Agree, refuse]

/-- The calls that are to give a root to a module where modules do not stand. -/
theorem rooted?_eq_iff_of_takes_none (takesNone : parent.takesModules = false) (call : Call) :
    call.rooted? = some (.module parent moduleName) ↔
      call = .createEmptyLocation (.module parent moduleName) ∨
        ∃ id, call = .addContainer (.module parent moduleName) id := by
  constructor
  · intro rooted
    cases call
    case addContainer target id =>
      simp only [Call.rooted?] at rooted
      split at rooted
      · cases rooted
      · cases rooted
        exact Or.inr ⟨id, rfl⟩
    case addModuleContainer target name id =>
      cases target with
      | module => cases rooted
      | standard other =>
          simp only [Call.rooted?] at rooted
          split at rooted
          · cases rooted
            simp_all
          · cases rooted
    case createEmptyLocation target =>
      simp only [Call.rooted?] at rooted
      split at rooted
      · cases rooted
      · cases rooted
        exact Or.inl rfl
    case writeFile target packageName relativeName content =>
      simp only [Call.rooted?] at rooted
      split at rooted
      · cases rooted
        simp_all [Location.isOutput, Location.Standard.takesModules]
      · cases rooted
    all_goals cases rooted
  · rintro (rfl | ⟨id, rfl⟩)
    · rfl
    · rfl

end Registrations

/-- **The two ways agree exactly where modules fit.** Registering a root of a module by the location
of the module and by its parent and its name agree if the manager is closed or the parent takes
modules, and in no other case: then the first succeeds and the second is refused. In a parent that
takes no modules, a module without roots gets some from a call exactly if the manager is open and
the call is to add a container to its location or to make its location known; and a store whose
calls never did either in such a parent has no modules there. -/
theorem registrations_agree_exactly_where_modules_fit
    (parent : Location.Standard) (moduleName : String) :
    (∀ (store : Store) (id : ContainerId),
      store.Agree (store.addContainer (.module parent moduleName) id)
          (store.addModuleContainer (.standard parent) moduleName id) ↔
        store.closed = true ∨ parent.takesModules = true) ∧
    (parent.takesModules = false →
      (∀ (store : Store) (id : ContainerId), store.closed = false →
        store.addContainer (.module parent moduleName) id =
            (.ok (), store.register (.module parent moduleName) id) ∧
          store.addModuleContainer (.standard parent) moduleName id =
            store.refuse (.notModuleOriented parent.name)) ∧
      (∀ (store : Store) (call : Call), store.roots? (.module parent moduleName) = none →
        ((store.perform call).2.roots? (.module parent moduleName) ≠ none ↔
          store.closed = false ∧
            (call = .createEmptyLocation (.module parent moduleName) ∨
              ∃ id, call = .addContainer (.module parent moduleName) id))) ∧
      ∀ store : Store, store.FitlyReachable →
        store.roots? (.module parent moduleName) = none) := by
  refine ⟨fun store id => store.agree_iff parent moduleName id, fun takesNone => ⟨?_, ?_, ?_⟩⟩
  · intro store id isOpen
    exact ⟨addContainer_eq isOpen rfl id,
      addModuleContainer_of_takes_none isOpen takesNone moduleName id⟩
  · intro store call without
    rw [gains_roots_iff without, rooted?_eq_iff_of_takes_none parent moduleName takesNone]
  · intro store reachable
    cases known : store.modules.find? parent with
    | none => simp [roots?, known]
    | some modules =>
        have takes := reachable.modulesFit parent modules known
        rw [takesNone] at takes
        cases takes

/-- A class path takes no modules, but a container can be added to one of its modules. -/
theorem registrations_differ_on_class_path :
    let store := (Store.new "17").place (.new "lib")
    store.Reachable ∧
      ¬ store.Agree (store.addContainer (.module .classPath "m") 0)
        (store.addModuleContainer (.standard .classPath) "m" 0) ∧
      store.roots? (.module .classPath "m") = none ∧
      (store.perform (.addContainer (.module .classPath "m") 0)).2.roots?
        (.module .classPath "m") = some [0] := by
  refine ⟨(Reachable.new "17").moves (.made _ "lib"), ?_, by decide, by decide⟩
  rw [agree_iff]
  decide

end Store

end CompilationChecks
