import CompilationChecks.Call
import CompilationChecks.Proofs.Store.Roots
import Mathlib.Logic.Relation

/-!
# Reachable stores

A store comes about by making containers, writing straight into them, and calling the manager with
containers that were made before. `change_perform` says once what a call can do to a store, with
everything the manager has checked by then; what holds of all stores is proved from it, for one
move and then for any number of moves.
-/

namespace CompilationChecks

/-- The containers that a call hands over. -/
def Call.containers : Call → List ContainerId
  | .addContainer _ id => [id]
  | .addModuleContainer _ _ id => [id]
  | _ => []

namespace Store

/-! ## What can happen to a store -/

/-- What a call can do to a store, given the containers that it hands over. -/
inductive Change (store : Store) (handed : List ContainerId) : Store → Prop where
  | nothing : Change store handed store
  | registered (location : Location) (id : ContainerId) (isOpen : store.closed = false)
      (holdsFiles : location.isModuleOriented = false) (isHanded : id ∈ handed) :
      Change store handed (store.register location id)
  | ensured (location : Location) (isOpen : store.closed = false)
      (holdsFiles : location.isModuleOriented = false) :
      Change store handed (store.ensureRoots location)
  | knownToHoldModules (parent : Location.Standard) (isOpen : store.closed = false)
      (holdsModules : parent.isModuleOriented = true) :
      Change store handed (store.ensureModules parent)
  | written (location : Location) (first : ContainerId) (others : List ContainerId)
      (path : String) (content : Bytes) (isOpen : store.closed = false)
      (output : location.isOutput = true)
      (roots : (store.ensureRoots location).roots? location = some (first :: others)) :
      Change store handed ((store.ensureRoots location).writeInto first path content)
  | closed : Change store handed { store with closed := true }

/-- One move in the life of a store. Calls and direct writes name containers that exist. -/
inductive Moves : Store → Store → Prop where
  | made (store : Store) (name : String) : Moves store (store.place (.new name))
  | written (store : Store) (id : ContainerId) (path : String) (content : Bytes)
      (onShelf : id < store.shelf.size) : Moves store (store.writeInto id path content)
  | called (store : Store) (call : Call) (onShelf : ∀ id ∈ call.containers, id < store.shelf.size) :
      Moves store (store.perform call).2

/-- A store that comes about by moves from one that was just made. -/
def Reachable (store : Store) : Prop :=
  ∃ release, Relation.ReflTransGen Moves (.new release) store

namespace Reachable

theorem new (release : String) : (Store.new release).Reachable :=
  ⟨release, .refl⟩

theorem moves {store next : Store} (reachable : store.Reachable) (moves : store.Moves next) :
    next.Reachable := by
  obtain ⟨release, before⟩ := reachable
  exact ⟨release, before.tail moves⟩

/-- What holds of every new store and survives every move holds of every reachable store. -/
theorem invariant
    {holds : Store → Prop} (ofNew : ∀ release, holds (.new release))
    (ofMoves : ∀ {store next : Store}, holds store → store.Moves next → holds next)
    {store : Store} (reachable : store.Reachable) :
    holds store := by
  obtain ⟨release, moves⟩ := reachable
  induction moves with
  | refl => exact ofNew release
  | tail _ move inductionHypothesis => exact ofMoves inductionHypothesis move

end Reachable

/-! ## The invariant -/

/-- What holds of every store: locations with roots hold files, they have at least one root, and
their roots stand on the shelf. -/
structure Sound (store : Store) : Prop where
  holdsFiles : ∀ location roots, store.roots? location = some roots →
    location.isModuleOriented = false
  nonempty : ∀ location roots, store.roots? location = some roots → roots ≠ []
  onShelf : ∀ location roots, store.roots? location = some roots →
    ∀ id ∈ roots, id < store.shelf.size

namespace Sound

variable {store : Store}

theorem new (release : String) : (Store.new release).Sound := by
  have unknown : ∀ location, (Store.new release).roots? location = none := by
    intro location
    cases location <;> rfl
  constructor
  all_goals
    intro location roots known
    rw [unknown] at known
    cases known

/-- More places on the shelf leave a store sound as long as all roots stay. -/
theorem of_roots_eq
    {next : Store} (sound : store.Sound)
    (roots : ∀ location, next.roots? location = store.roots? location)
    (grown : store.shelf.size ≤ next.shelf.size) :
    next.Sound := by
  refine ⟨?_, ?_, ?_⟩
  · intro location found known
    exact sound.holdsFiles location found ((roots location).symm.trans known)
  · intro location found known
    exact sound.nonempty location found ((roots location).symm.trans known)
  · intro location found known id member
    have before := sound.onShelf location found ((roots location).symm.trans known) id member
    exact Nat.lt_of_lt_of_le before grown

theorem place (sound : store.Sound) (container : Container) : (store.place container).Sound :=
  sound.of_roots_eq (fun _ => rfl) (by simp [Store.place])

theorem writeInto
    (sound : store.Sound) (id : ContainerId) (path : String) (content : Bytes) :
    (store.writeInto id path content).Sound :=
  sound.of_roots_eq (fun _ => rfl) (by simp [Store.writeInto])

theorem ensureModules (sound : store.Sound) (parent : Location.Standard) :
    (store.ensureModules parent).Sound :=
  sound.of_roots_eq (roots?_ensureModules store parent) (Nat.le_refl _)

theorem register
    (sound : store.Sound) {location : Location} {id : ContainerId}
    (holdsFiles : location.isModuleOriented = false) (onShelf : id < store.shelf.size) :
    (store.register location id).Sound := by
  refine ⟨?_, ?_, ?_⟩
  · intro other roots known
    by_cases same : other = location
    · rw [same]
      exact holdsFiles
    · rw [roots?_register_of_ne store id same] at known
      exact sound.holdsFiles other roots known
  · intro other roots known
    by_cases same : other = location
    · subst same
      rw [roots?_register_self] at known
      cases known
      simp
    · rw [roots?_register_of_ne store id same] at known
      exact sound.nonempty other roots known
  · intro other roots known root member
    rw [shelf_register]
    by_cases same : other = location
    · subst same
      rw [roots?_register_self] at known
      cases known
      rcases List.mem_append.1 member with inOld | isNew
      · cases old : store.roots? other with
        | none => simp [old] at inOld
        | some oldRoots =>
            rw [old] at inOld
            exact sound.onShelf other oldRoots old root inOld
      · rw [List.mem_singleton.1 isNew]
        exact onShelf
    · rw [roots?_register_of_ne store id same] at known
      exact sound.onShelf other roots known root member

theorem ensureRoots
    (sound : store.Sound) {location : Location}
    (holdsFiles : location.isModuleOriented = false) :
    (store.ensureRoots location).Sound := by
  cases known : store.roots? location with
  | none =>
      rw [ensureRoots_of_none known]
      exact (sound.place _).register holdsFiles (by simp [Store.place])
  | some roots =>
      rw [ensureRoots_of_nonempty known (sound.nonempty location roots known)]
      exact sound

theorem change
    {handed : List ContainerId} {next : Store} (sound : store.Sound)
    (onShelf : ∀ id ∈ handed, id < store.shelf.size) (change : store.Change handed next) :
    next.Sound := by
  cases change with
  | nothing => exact sound
  | registered location id _ holdsFiles isHanded =>
      exact sound.register holdsFiles (onShelf id isHanded)
  | ensured location _ holdsFiles => exact sound.ensureRoots holdsFiles
  | knownToHoldModules parent => exact sound.ensureModules parent
  | written location first others path content _ output =>
      exact (sound.ensureRoots (Location.isModuleOriented_of_isOutput output)).writeInto
        first path content
  | closed => exact sound.of_roots_eq (fun location => by cases location <;> rfl) (Nat.le_refl _)

end Sound

/-! ## Moves -/

/-- A location whose roots were made sure of has a first root. -/
theorem exists_first_root (store : Store) (location : Location) :
    ∃ first others, (store.ensureRoots location).roots? location = some (first :: others) := by
  unfold ensureRoots
  split
  · rw [roots?_register_self]
    obtain ⟨first, others, shape⟩ := List.exists_cons_of_ne_nil
      (List.append_ne_nil_of_right_ne_nil
        (((store.place (.new location.name)).roots? location).getD [])
        (List.cons_ne_nil store.shelf.size []))
    exact ⟨first, others, congrArg some shape⟩
  · rename_i nonempty
    cases known : store.roots? location with
    | none => simp [known] at nonempty
    | some roots =>
        cases roots with
        | nil => simp [known] at nonempty
        | cons first others => exact ⟨first, others, rfl⟩

/-- A write on an open manager goes into the first root of an output location. -/
theorem writeFile_eq
    {store : Store} {location : Location} (isOpen : store.closed = false)
    (output : location.isOutput = true) (packageName relativeName : String) (content : Bytes) :
    ∃ first others,
      (store.ensureRoots location).roots? location = some (first :: others) ∧
        store.writeFile location packageName relativeName content =
          (.ok (.locate location ((store.ensureRoots location).shelf.get first).name
              (Path.resolve packageName relativeName)),
            (store.ensureRoots location).writeInto first
              (Path.resolve packageName relativeName) content) := by
  obtain ⟨first, others, roots⟩ := exists_first_root store location
  refine ⟨first, others, roots, ?_⟩
  simp [writeFile, isOpen, output, roots]

/-- Every call does one of the things that `Change` lists. -/
theorem change_perform (store : Store) (call : Call) :
    store.Change call.containers (store.perform call).2 := by
  cases isClosed : store.closed with
  | true =>
      cases call <;>
        simp only [perform, addContainer, addModuleContainer, createEmptyLocation, contains,
          getPackageGroup, getModuleGroup, getOutputGroup, getPackageGroups, list,
          getFileForInput, writeFile, read, inferBinaryName, flush, close, refuse, answer,
          isClosed, if_true]
      case close => exact .closed
      all_goals exact .nothing
  | false =>
      cases call
      case addContainer location id =>
        simp only [perform, addContainer, isClosed, Bool.false_eq_true, if_false]
        split
        · exact .nothing
        · rename_i holdsFiles
          exact .registered location id isClosed (by simpa using holdsFiles)
            (List.mem_singleton.2 rfl)
      case addModuleContainer location moduleName id =>
        simp only [perform, addModuleContainer, isClosed, Bool.false_eq_true, if_false]
        split
        · split
          · rename_i parent _
            exact .registered (.module parent moduleName) id isClosed rfl
              (List.mem_singleton.2 rfl)
          · exact .nothing
        · exact .nothing
      case createEmptyLocation location =>
        simp only [perform, createEmptyLocation, isClosed, Bool.false_eq_true, if_false]
        split
        · split
          · rename_i root holdsModules
            exact .knownToHoldModules root isClosed holdsModules
          · rename_i root holdsFiles
            exact .ensured (.standard root) isClosed
              (by simpa [Location.isModuleOriented] using holdsFiles)
        · exact .ensured _ isClosed rfl
      case writeFile location packageName relativeName content =>
        by_cases output : location.isOutput = true
        · obtain ⟨first, others, roots, written⟩ :=
            writeFile_eq isClosed output packageName relativeName content
          simp only [perform, written]
          exact .written location first others _ content isClosed output roots
        · simp only [perform, writeFile, isClosed, output, Bool.false_eq_true, if_false]
          exact .nothing
      case close => exact .closed
      -- All other calls only ask.
      all_goals
        simp only [perform, contains, getPackageGroup, getModuleGroup, getOutputGroup,
          getPackageGroups, list, getFileForInput, read, inferBinaryName, flush, refuse, answer]
        repeat' split
      all_goals exact .nothing

theorem Sound.moves {store next : Store} (sound : store.Sound) (moves : store.Moves next) :
    next.Sound := by
  cases moves with
  | made name => exact sound.place _
  | written id path content onShelf => exact sound.writeInto id path content
  | called call onShelf => exact sound.change onShelf (change_perform store call)

/-- Every reachable store is sound. -/
theorem Reachable.sound {store : Store} (reachable : store.Reachable) : store.Sound :=
  reachable.invariant Sound.new Sound.moves

/-! ## Stored paths -/

theorem tidy_change
    {store next : Store} {handed : List ContainerId} (tidy : store.shelf.Tidy)
    (change : store.Change handed next) :
    next.shelf.Tidy := by
  cases change with
  | nothing => exact tidy
  | registered location id =>
      rw [shelf_register]
      exact tidy
  | ensured location => exact tidy_ensureRoots store location tidy
  | knownToHoldModules parent => exact tidy
  | written location first others path content =>
      exact (tidy_ensureRoots store location tidy).write first path content
  | closed => exact tidy

theorem tidy_moves {store next : Store} (tidy : store.shelf.Tidy) (moves : store.Moves next) :
    next.shelf.Tidy := by
  cases moves with
  | made name => exact tidy.add (Container.tidy_new name)
  | written id path content => exact tidy.write id path content
  | called call => exact tidy_change tidy (change_perform store call)

/-- In a reachable store every path of every container is a normal form. -/
theorem Reachable.tidy {store : Store} (reachable : store.Reachable) : store.shelf.Tidy :=
  reachable.invariant (fun _ => Shelf.tidy_empty) tidy_moves

end Store

end CompilationChecks
