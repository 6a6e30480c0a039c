import CompilationChecks.Proofs.Store.Correspondence
import CompilationChecks.Proofs.Store.Modules

/-!
# Slots

A registration concerns one slot: the roots of a location, or the table of the modules of a
location. Slots are not keys of one table: the roots of all modules of a location stand in one
table, and the first module that gets a root brings the table with it. Registrations of two slots
can still be made in either order. If both of them make a container, the two containers change
places, and nothing else can be told apart.
-/

namespace CompilationChecks

/-- What a registration is about. -/
inductive Slot where
  /-- The roots of a location itself. -/
  | roots (location : Location)
  /-- The table of the modules of a standard location. -/
  | modules (parent : Location.Standard)
  deriving DecidableEq

namespace Slot

/-- Two slots, each of which may be missing, that are not the same one. -/
def Apart (first second : Option Slot) : Prop :=
  ∀ slot, first = some slot → second ≠ some slot

theorem Apart.symm {first second : Option Slot} (apart : Apart first second) :
    Apart second first :=
  fun slot isSecond isFirst => apart slot isFirst isSecond

theorem Apart.ne {slot other : Slot} (apart : Apart (some slot) (some other)) : slot ≠ other :=
  fun same => apart slot rfl (congrArg some same.symm)

end Slot

/-- The slot that there is when the location was created. -/
def Location.slot : Location → Slot
  | .standard root => if root.isModuleOriented then .modules root else .roots (.standard root)
  | .module parent moduleName => .roots (.module parent moduleName)

namespace Call

/-- Whether a call registers a container or creates a location. -/
def registers : Call → Bool
  | .addContainer .. | .addModuleContainer .. | .createEmptyLocation .. => true
  | _ => false

/-- The slot that a registration is about. A module has no modules. -/
def slot? : Call → Option Slot
  | .addContainer location _ => some (.roots location)
  | .addModuleContainer (.standard parent) moduleName _ =>
    some (.roots (.module parent moduleName))
  | .createEmptyLocation location => some location.slot
  | _ => none

theorem refusable_of_registers {call : Call} (registers : call.registers = true) :
    call.mayFail = true ∧ call ≠ .close := by
  cases call
  case addContainer => exact ⟨rfl, nofun⟩
  case addModuleContainer => exact ⟨rfl, nofun⟩
  case createEmptyLocation => exact ⟨rfl, nofun⟩
  all_goals cases registers

end Call

namespace Store

/-! ## Effects -/

/-- What a registration does to the store. -/
inductive Effect where
  | nothing
  | append (location : Location) (id : ContainerId)
  | fill (location : Location)
  | know (parent : Location.Standard)

namespace Effect

def slot? : Effect → Option Slot
  | .nothing => none
  | .append location _ => some (.roots location)
  | .fill location => some (.roots location)
  | .know parent => some (.modules parent)

def apply (store : Store) : Effect → Store
  | .nothing => store
  | .append location id => store.register location id
  | .fill location => store.ensureRoots location
  | .know parent => store.ensureModules parent

/-- What brings a slot into being. -/
def creation : Slot → Effect
  | .roots location => .fill location
  | .modules parent => .know parent

theorem slot?_creation (slot : Slot) : (creation slot).slot? = some slot := by
  cases slot <;> rfl

theorem closed_apply (store : Store) (effect : Effect) :
    (effect.apply store).closed = store.closed := by
  cases effect with
  | nothing => rfl
  | append location id => exact closed_register store location id
  | fill location => exact closed_ensureRoots store location
  | know parent => rfl

end Effect

theorem createEmptyLocation_eq_creation
    {store : Store} (isOpen : store.closed = false) (location : Location) :
    store.createEmptyLocation location =
      (.ok (), (Effect.creation location.slot).apply store) := by
  cases location with
  | module parent moduleName =>
      simp [createEmptyLocation, isOpen, Location.slot, Effect.creation, Effect.apply]
  | standard root =>
      simp only [createEmptyLocation, isOpen, Bool.false_eq_true, if_false, Location.slot]
      split <;> rfl

/-- A registration has one effect and one answer, whatever the tables hold; they depend on nothing
but whether the manager was closed. -/
theorem exists_effect {call : Call} (registers : call.registers = true) (closedness : Bool) :
    ∃ (effect : Effect) (answer : Except Failure call.Answer),
      (∀ slot, effect.slot? = some slot → call.slot? = some slot) ∧
        ∀ store : Store, store.closed = closedness →
          store.perform call = (answer, effect.apply store) := by
  cases closedness with
  | true =>
      obtain ⟨mayFail, notClose⟩ := Call.refusable_of_registers registers
      exact ⟨.nothing, .error (.of .closed), nofun, fun store isClosed =>
        Prod.ext (perform_of_closed isClosed mayFail notClose) (unchanged_of_closed isClosed call)⟩
  | false =>
      cases call
      case addContainer location id =>
        cases holdsModules : location.isModuleOriented with
        | true =>
            refine ⟨.nothing, .error (.of (.moduleOriented location.name)), nofun, ?_⟩
            intro store isOpen
            simp [perform, addContainer, isOpen, holdsModules, refuse, Effect.apply]
        | false =>
            exact ⟨.append location id, .ok (), fun _ isSlot => isSlot, fun store isOpen =>
              addContainer_eq isOpen holdsModules id⟩
      case addModuleContainer location moduleName id =>
        cases location with
        | module parent name =>
            refine ⟨.nothing, .error (.of (.notModuleOriented (Location.module parent name).name)),
              nofun, fun store isOpen => ?_⟩
            simp [perform, addModuleContainer, isOpen, refuse, Effect.apply]
        | standard parent =>
            cases takes : parent.takesModules with
            | true =>
                exact ⟨.append (.module parent moduleName) id, .ok (), fun _ isSlot => isSlot,
                  fun store isOpen => addModuleContainer_eq isOpen takes moduleName id⟩
            | false =>
                exact ⟨.nothing, .error (.of (.notModuleOriented parent.name)), nofun,
                  fun store isOpen => addModuleContainer_of_takes_none isOpen takes moduleName id⟩
      case createEmptyLocation location =>
        exact ⟨.creation location.slot, .ok (),
          fun slot isSlot => (Effect.slot?_creation location.slot).symm.trans isSlot,
          fun store isOpen => createEmptyLocation_eq_creation isOpen location⟩
      all_goals cases registers

/-! ## Changes of two slots -/

section Changes

variable (store : Store) {location other : Location} (id otherId : ContainerId)

theorem register_place (container : Container) :
    (store.place container).register location id =
      (store.register location id).place container := by
  cases location <;> rfl

theorem register_register (different : location ≠ other) :
    (store.register other otherId).register location id =
      (store.register location id).register other otherId := by
  cases location with
  | standard root =>
      cases other with
      | module parent moduleName => rfl
      | standard otherRoot =>
          simp only [register]
          rw [SortedTable.update_comm_of]
          exact fun same => absurd (congrArg Location.standard same) different
  | module parent moduleName =>
      cases other with
      | standard otherRoot => rfl
      | module otherParent otherName =>
          simp only [register, registerModule]
          rw [SortedTable.update_comm_of]
          -- In one table of modules, the names are different.
          rintro rfl modules
          apply SortedTable.update_comm_of
          rintro rfl
          exact absurd rfl different

theorem register_ensureModules (parent : Location.Standard) :
    (store.ensureModules parent).register location id =
      (store.register location id).ensureModules parent := by
  cases location with
  | standard root => rfl
  | module otherParent moduleName =>
      simp only [register, registerModule, ensureModules]
      rw [SortedTable.update_comm_of]
      rintro rfl modules
      cases modules <;> rfl

theorem ensureModules_ensureModules (parent otherParent : Location.Standard) :
    (store.ensureModules otherParent).ensureModules parent =
      (store.ensureModules parent).ensureModules otherParent := by
  simp only [ensureModules]
  rw [SortedTable.update_comm_of]
  rintro rfl modules
  rfl

theorem ensureRoots_register (different : location ≠ other) :
    (store.register other otherId).ensureRoots location =
      (store.ensureRoots location).register other otherId := by
  unfold ensureRoots
  rw [roots?_register_of_ne store otherId different, shelf_register, ← register_place]
  split
  · exact register_register _ _ _ different
  · rfl

theorem ensureRoots_ensureModules (parent : Location.Standard) :
    (store.ensureModules parent).ensureRoots location =
      (store.ensureRoots location).ensureModules parent := by
  unfold ensureRoots
  rw [roots?_ensureModules]
  split
  · exact register_ensureModules (store.place (.new location.name)) _ parent
  · rfl

end Changes

/-! ## Effects on two slots -/

section Effects

variable {store : Store}

section Roots

variable {location other : Location} (different : location ≠ other)

include different

/-- A location that has roots keeps them, and making sure of them adds nothing. -/
theorem ensureRoots_ensureRoots_of_known
    (sound : store.Sound) {roots : List ContainerId}
    (known : store.roots? location = some roots) :
    (store.ensureRoots other).ensureRoots location =
      (store.ensureRoots location).ensureRoots other := by
  have nonempty : roots ≠ [] := sound.nonempty location roots known
  have stillKnown : (store.ensureRoots other).roots? location = some roots := by
    rw [roots?_ensureRoots_of_ne _ _ different, known]
  rw [ensureRoots_of_nonempty stillKnown nonempty, ensureRoots_of_nonempty known nonempty]

theorem ensureRoots_ensureRoots_of_none
    (unknown : store.roots? location = none) (otherUnknown : store.roots? other = none) :
    (store.ensureRoots location).ensureRoots other =
      (((store.place (.new location.name)).place (.new other.name)).register location
        store.shelf.size).register other (store.shelf.size + 1) := by
  have stillUnknown : (store.ensureRoots location).roots? other = none := by
    rw [roots?_ensureRoots_of_ne _ _ different.symm, otherUnknown]
  rw [ensureRoots_of_none stillUnknown, ensureRoots_of_none unknown, shelf_register,
    ← register_place]
  simp only [place, Shelf.size_add]

/-- Of two locations without roots, the one that gets them first gets the lower place. -/
theorem corresponds_ensureRoots_of_none
    (sound : store.Sound) (unknown : store.roots? location = none)
    (otherUnknown : store.roots? other = none) :
    Corresponds (Equiv.swap store.shelf.size (store.shelf.size + 1))
      ((store.ensureRoots location).ensureRoots other)
      ((store.ensureRoots other).ensureRoots location) := by
  have placed := Corresponds.place_place sound (.new location.name) (.new other.name)
  have registered :=
    (placed.register location store.shelf.size).register other (store.shelf.size + 1)
  rw [Equiv.swap_apply_left, Equiv.swap_apply_right] at registered
  rw [ensureRoots_ensureRoots_of_none different unknown otherUnknown,
    ensureRoots_ensureRoots_of_none different.symm otherUnknown unknown,
    register_register _ _ _ different]
  exact registered

end Roots

/-- Stores that are equal but for the places of containers made since. -/
def AlikeSince (store left right : Store) : Prop :=
  ∃ rename : Renaming, (∀ id, id < store.shelf.size → rename id = id) ∧
    Corresponds rename left right

theorem AlikeSince.of_eq {left right : Store} (same : left = right) :
    store.AlikeSince left right :=
  ⟨Equiv.refl _, fun _ _ => rfl, same ▸ .refl left⟩

theorem alikeSince_ensureRoots
    (sound : store.Sound) {location other : Location} (different : location ≠ other) :
    store.AlikeSince ((store.ensureRoots location).ensureRoots other)
      ((store.ensureRoots other).ensureRoots location) := by
  cases known : store.roots? location with
  | some roots => exact .of_eq (ensureRoots_ensureRoots_of_known different sound known).symm
  | none =>
      cases otherKnown : store.roots? other with
      | some roots =>
          exact .of_eq (ensureRoots_ensureRoots_of_known different.symm sound otherKnown)
      | none =>
          refine ⟨_, fun id used => ?_,
            corresponds_ensureRoots_of_none different sound known otherKnown⟩
          exact Equiv.swap_apply_of_ne_of_ne (Nat.ne_of_lt used)
            (Nat.ne_of_lt (Nat.lt_succ_of_lt used))

theorem Effect.alikeSince_apply
    (sound : store.Sound) {first second : Effect} (apart : Slot.Apart first.slot? second.slot?) :
    store.AlikeSince (second.apply (first.apply store)) (first.apply (second.apply store)) := by
  have differ : ∀ {location other : Location},
      Slot.Apart (some (.roots location)) (some (.roots other)) → location ≠ other :=
    fun slotsApart same => slotsApart.ne (congrArg Slot.roots same)
  cases first with
  | nothing => exact .of_eq rfl
  | append location id =>
      cases second with
      | nothing => exact .of_eq rfl
      | append other otherId => exact .of_eq (register_register _ _ _ (differ apart)).symm
      | fill other => exact .of_eq (ensureRoots_register _ _ (differ apart.symm))
      | know parent => exact .of_eq (register_ensureModules _ _ _).symm
  | fill location =>
      cases second with
      | nothing => exact .of_eq rfl
      | append other otherId => exact .of_eq (ensureRoots_register _ _ (differ apart)).symm
      | fill other => exact alikeSince_ensureRoots sound (differ apart)
      | know parent => exact .of_eq (ensureRoots_ensureModules _ _).symm
  | know parent =>
      cases second with
      | nothing => exact .of_eq rfl
      | append other otherId => exact .of_eq (register_ensureModules _ _ _)
      | fill other => exact .of_eq (ensureRoots_ensureModules _ _)
      | know otherParent => exact .of_eq (ensureModules_ensureModules _ _ _)

end Effects

/-! ## Creating a location again -/

section Creating

variable {store : Store}

/-- Whether a slot is there. -/
def hasSlot (store : Store) : Slot → Bool
  | .roots location => (store.roots? location).isSome
  | .modules parent => (store.modules.find? parent).isSome

theorem ensureModules_of_known
    {parent : Location.Standard} (known : (store.modules.find? parent).isSome = true) :
    store.ensureModules parent = store := by
  obtain ⟨modules, found⟩ := Option.isSome_iff_exists.1 known
  have same : (store.modules.update parent fun modules => modules.getD .empty) = store.modules :=
    SortedTable.update_eq_self found rfl
  simp only [ensureModules, same]

theorem Effect.apply_creation_of_hasSlot
    (sound : store.Sound) {slot : Slot} (there : store.hasSlot slot = true) :
    (creation slot).apply store = store := by
  cases slot with
  | roots location =>
      obtain ⟨roots, known⟩ := Option.isSome_iff_exists.1 there
      exact ensureRoots_of_nonempty known (sound.nonempty location roots known)
  | modules parent => exact ensureModules_of_known there

theorem Effect.hasSlot_apply_creation (store : Store) (slot : Slot) :
    ((creation slot).apply store).hasSlot slot = true := by
  cases slot with
  | roots location =>
      obtain ⟨first, others, roots⟩ := exists_first_root store location
      exact Option.isSome_iff_exists.2 ⟨first :: others, roots⟩
  | modules parent => simp [creation, apply, hasSlot, Store.ensureModules]

theorem createEmptyLocation_of_hasSlot
    (sound : store.Sound) {location : Location} (there : store.hasSlot location.slot = true) :
    (store.createEmptyLocation location).2 = store := by
  cases closedness : store.closed with
  | true => exact unchanged_of_closed closedness (.createEmptyLocation location)
  | false =>
      rw [createEmptyLocation_eq_creation closedness]
      exact Effect.apply_creation_of_hasSlot sound there

theorem createEmptyLocation_twice (sound : store.Sound) (location : Location) :
    (store.createEmptyLocation location).2.createEmptyLocation location =
      store.createEmptyLocation location := by
  cases closedness : store.closed with
  | true => simp [createEmptyLocation, closedness, refuse]
  | false =>
      have created := createEmptyLocation_eq_creation closedness location
      have soundThen : (store.createEmptyLocation location).2.Sound :=
        sound.change (List.forall_mem_nil _) (change_perform store (.createEmptyLocation location))
      rw [created] at soundThen ⊢
      rw [createEmptyLocation_eq_creation ((Effect.closed_apply store _).trans closedness),
        Effect.apply_creation_of_hasSlot soundThen (Effect.hasSlot_apply_creation store _)]

theorem ensureRoots_standard_of_none
    {root : Location.Standard} (unknown : store.packages.find? root = none) :
    store.ensureRoots (.standard root) =
      { store with
        shelf := store.shelf.add (.new root.name)
        packages := store.packages.insert root [store.shelf.size] } := by
  have inserted :
      (store.packages.update root fun roots => roots.getD [] ++ [store.shelf.size]) =
        store.packages.insert root [store.shelf.size] :=
    SortedTable.update_congr (by rw [unknown]; rfl)
  have rootsUnknown : store.roots? (.standard root) = none := unknown
  rw [ensureRoots_of_none rootsUnknown]
  simp only [place, register, inserted]
  rfl

end Creating

/-- **Registrations of different slots commute, and creating a location is idempotent.** In every
reachable store two registrations of different slots give the answers that each of them gives
alone, and whichever of them is made first, all queries are answered alike afterwards. They also
stay alike: the two stores differ at most in the places of containers that were made meanwhile, and
up to these places every later run is answered alike, behind delegates or not. Creating a location
that there is changes nothing, so doing it twice is doing it once. An output location without roots
of its own gets one empty container as its only root, and nothing else changes. -/
theorem registrations_commute_and_creating_is_idempotent
    {store : Store} (reachable : store.Reachable) :
    (∀ first second : Call, first.registers = true → second.registers = true →
      Slot.Apart first.slot? second.slot? →
        let left := (store.perform first).2.perform second
        let right := (store.perform second).2.perform first
        left.1 = (store.perform second).1 ∧
          right.1 = (store.perform first).1 ∧
          left.2.QueriedAlike right.2 ∧
          ∃ rename : Renaming, (∀ id, id < store.shelf.size → rename id = id) ∧
            ∀ delegates subscriber deeds journal otherJournal,
              let run := Deed.performAll delegates subscriber deeds ⟨journal, left.2⟩
              let otherRun := Deed.performAll delegates subscriber
                (deeds.map (Deed.renamed rename)) ⟨otherJournal, right.2⟩
              otherRun.1 = run.1.map (Answered.renamed rename) ∧
                run.2.inner.QueriedAlike otherRun.2.inner) ∧
    (∀ location : Location,
      (store.hasSlot location.slot = true → (store.createEmptyLocation location).2 = store) ∧
        (store.createEmptyLocation location).2.createEmptyLocation location =
          store.createEmptyLocation location) ∧
    ∀ root : Location.Standard, store.closed = false → root.isOutput = true →
      store.roots? (.standard root) = none →
        store.createEmptyLocation (.standard root) =
          (.ok (),
            { store with
              shelf := store.shelf.add (.new root.name)
              packages := store.packages.insert root [store.shelf.size] }) := by
  refine ⟨?_, fun location => ⟨?_, ?_⟩, ?_⟩
  · intro first second firstRegisters secondRegisters apart left right
    obtain ⟨effect, answer, slots, performs⟩ := exists_effect firstRegisters store.closed
    obtain ⟨otherEffect, otherAnswer, otherSlots, otherPerforms⟩ :=
      exists_effect secondRegisters store.closed
    have leftEq : left = (otherAnswer, otherEffect.apply (effect.apply store)) := by
      simp only [left, performs store rfl]
      exact otherPerforms _ (effect.closed_apply store)
    have rightEq : right = (answer, effect.apply (otherEffect.apply store)) := by
      simp only [right, otherPerforms store rfl]
      exact performs _ (otherEffect.closed_apply store)
    have effectsApart : Slot.Apart effect.slot? otherEffect.slot? :=
      fun slot isFirst isSecond => apart slot (slots slot isFirst) (otherSlots slot isSecond)
    obtain ⟨rename, fixed, corresponds⟩ :=
      Effect.alikeSince_apply reachable.sound effectsApart
    rw [leftEq, rightEq, performs store rfl, otherPerforms store rfl]
    refine ⟨rfl, rfl, corresponds.queriedAlike, rename, fixed, ?_⟩
    intro delegates subscriber deeds journal otherJournal run otherRun
    obtain ⟨sameAnswers, stillCorrespond⟩ :=
      Corresponds.performAll delegates subscriber deeds ⟨journal, _⟩ ⟨otherJournal, _⟩ corresponds
    exact ⟨sameAnswers, stillCorrespond.queriedAlike⟩
  · exact createEmptyLocation_of_hasSlot reachable.sound
  · exact createEmptyLocation_twice reachable.sound location
  · intro root isOpen output unknown
    have holdsFiles : (Location.standard root).isModuleOriented = false :=
      Location.isModuleOriented_of_isOutput output
    rw [createEmptyLocation_eq isOpen holdsFiles, ensureRoots_standard_of_none unknown]

/-- Two outputs are created in both orders: each gets the place that the other one gets in the other
order. The module of the class output stays what it was. -/
theorem registrations_commute_and_creating_is_idempotent_mixedRoots :
    let first := Call.createEmptyLocation (.standard .classOutput)
    let second := Call.createEmptyLocation (.standard .sourceOutput)
    let left := ((mixedRoots.perform first).2.perform second).2
    let right := ((mixedRoots.perform second).2.perform first).2
    mixedRoots.Reachable ∧
      left.roots? (.standard .classOutput) = some [2] ∧
      right.roots? (.standard .classOutput) = some [3] ∧
      left.QueriedAlike right ∧
      (mixedRoots.perform first).2.modules = mixedRoots.modules ∧
      (mixedRoots.createEmptyLocation (.standard .moduleSourcePath)).2 = mixedRoots := by
  intro first second left right
  obtain ⟨commute, create, output⟩ :=
    registrations_commute_and_creating_is_idempotent mixedRoots_reachable
  obtain ⟨_, _, alike, _⟩ := commute first second rfl rfl (by rintro _ ⟨⟩ ⟨⟩)
  have created := output .classOutput rfl rfl rfl
  refine ⟨mixedRoots_reachable, rfl, rfl, alike, ?_, (create _).1 rfl⟩
  exact congrArg (fun done : Step Unit => done.2.modules) created

end Store

end CompilationChecks
