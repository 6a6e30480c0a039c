import CompilationChecks.Proofs.ByteOrder
import CompilationChecks.Proofs.Store.Reachable
import CompilationChecks.Verification

/-!
# The file manager of a fixture

The files that a compiler wrote are recorded under names of locations, and several names may stand
for one location. Each name is read on its own: it stands for no location, or for one that takes
no files, or its files become one more root of its location. The first name with a trouble ends
the filling; without one, the roots of every location are the records of all names that stand for
it, in the order of the names.
-/

namespace CompilationChecks

/-! ## Troubles with names -/

/-- The trouble with a name that should stand for a location, if there is any. -/
def Location.nameTrouble? (name : String) : Option Trouble :=
  match Location.parse? name with
  | some _ => none
  | none => some (.unknownLocation name)

/-- Why an open manager does not let a location have files: it holds modules only, or it is a
module of a location that holds none. -/
def Location.fault? : Location → Option Fault
  | .standard root => if root.isModuleOriented then some (.moduleOriented root.name) else none
  | .module parent _ =>
    if parent.isModuleOriented || parent.isOutput then none
    else some (.notModuleOriented parent.name)

/-- The trouble with the name of a location that files were written to, if there is any. -/
def Location.outputTrouble? (name : String) : Option Trouble :=
  match Location.parse? name with
  | some location => location.fault?.map fun fault => .manager (.of fault)
  | none => some (.unknownLocation name)

/-- A trouble is that of the first key in a table, in the order of their bytes, that has one. -/
def FirstTrouble {ν : Type} (trouble? : String → Option Trouble) (table : SortedTable String ν)
    (trouble : Trouble) : Prop :=
  ∃ key ∈ table.keys, trouble? key = some trouble ∧
    ∀ other ∈ table.keys, Utf8.encode other < Utf8.encode key → trouble? other = none

/-- The first trouble is what a search through the keys finds. -/
theorem firstTrouble_iff
    {ν : Type} {trouble? : String → Option Trouble} {table : SortedTable String ν}
    {trouble : Trouble} :
    FirstTrouble trouble? table trouble ↔ table.keys.findSome? trouble? = some trouble := by
  have ascending := table.keys_in_byte_order
  unfold FirstTrouble
  rw [List.findSome?_eq_some_iff]
  constructor
  · rintro ⟨key, member, found, first⟩
    obtain ⟨before, after, split⟩ := List.append_of_mem member
    refine ⟨before, key, after, split, found, ?_⟩
    intro other inBefore
    rw [split] at ascending
    apply first other
    · rw [split]
      exact List.mem_append_left _ inBefore
    · exact (List.pairwise_append.1 ascending).2.2 other inBefore key List.mem_cons_self
  · rintro ⟨before, key, after, split, found, first⟩
    rw [split] at ascending ⊢
    refine ⟨key, List.mem_append_right _ List.mem_cons_self, found, ?_⟩
    intro other member less
    rcases List.mem_append.1 member with inBefore | notBefore
    · exact first other inBefore
    · rcases List.mem_cons.1 notBefore with rfl | inAfter
      · exact absurd less (List.lt_irrefl _)
      · have greater := (List.pairwise_cons.1 (List.pairwise_append.1 ascending).2.1).1
          other inAfter
        exact absurd less (List.lt_asymm greater)

theorem Location.isModuleOriented_of_fault?
    {location : Location} (faultless : location.fault? = none) :
    location.isModuleOriented = false := by
  cases location with
  | module parent moduleName => rfl
  | standard root =>
      cases holdsModules : root.isModuleOriented with
      | false => exact holdsModules
      | true => simp [fault?, holdsModules] at faultless

namespace Fixture

/-! ## Filling -/

/-- The records under the names that stand for a location, in the order of the names. -/
def recordsOf (outputs : List (String × SortedTable String String)) (location : Location) :
    List (SortedTable String String) :=
  (outputs.filter fun output => Location.parse? output.1 = some location).map Prod.snd

/-- An open store in which the roots of every location are its records, and nothing else. -/
structure Filled (store : Store) (outputs : List (String × SortedTable String String)) :
    Prop where
  isOpen : store.closed = false
  sound : store.Sound
  roots : ∀ location, ((store.roots? location).getD []).map store.shelf.get =
    (recordsOf outputs location).map (containerOf location)

/-- One step of the filling: the files under one name. -/
def record (store : Store) (output : String × SortedTable String String) :
    Except Trouble Store := do
  populate store (← Location.ofName output.1) output.2

theorem recordsOf_append
    (outputs : List (String × SortedTable String String))
    (output : String × SortedTable String String) (location : Location) :
    recordsOf (outputs ++ [output]) location =
      recordsOf outputs location ++
        (if Location.parse? output.1 = some location then [output.2] else []) := by
  unfold recordsOf
  rw [List.filter_append, List.map_append]
  split
  · rename_i stands
    simp [stands]
  · rename_i standsNot
    simp [standsNot]

theorem populate_eq
    {store : Store} (isOpen : store.closed = false) (location : Location)
    (files : SortedTable String String) :
    populate store location files =
      match location.fault? with
      | some fault => .error (.manager (.of fault))
      | none =>
        .ok ((store.place (containerOf location files)).register location store.shelf.size) := by
  have placedOpen : (store.place (containerOf location files)).closed = false := isOpen
  cases location with
  | standard root =>
      cases holdsModules : root.isModuleOriented <;>
        simp [populate, registration, Store.addContainer, placedOpen, Location.fault?,
          Location.isModuleOriented, Location.name, Store.refuse, holdsModules]
  | module parent moduleName =>
      cases takesModules : parent.isModuleOriented || parent.isOutput <;>
        simp [populate, registration, Store.addModuleContainer, placedOpen, Location.fault?,
          Location.name, Store.refuse, Store.register, takesModules]

namespace Filled

variable {store : Store} {outputs : List (String × SortedTable String String)}

theorem new (release : String) : Filled (.new release) [] := by
  refine ⟨rfl, .new release, ?_⟩
  intro location
  cases location <;> rfl

/-- One more record becomes the last root of its location. -/
theorem register
    (filled : Filled store outputs) {output : String × SortedTable String String}
    {location : Location} (stands : Location.parse? output.1 = some location)
    (faultless : location.fault? = none) :
    Filled ((store.place (containerOf location output.2)).register location store.shelf.size)
      (outputs ++ [output]) := by
  have holdsFiles := Location.isModuleOriented_of_fault? faultless
  refine ⟨?_, ?_, ?_⟩
  · rw [Store.closed_register]
    exact filled.isOpen
  · exact (filled.sound.place _).register holdsFiles (by simp [Store.place])
  · intro other
    -- The roots that were there before keep their containers.
    have oldContainers :
        ((store.roots? other).getD []).map (store.shelf.add (containerOf location output.2)).get =
          (recordsOf outputs other).map (containerOf other) := by
      rw [← filled.roots other]
      apply List.map_congr_left
      intro id member
      cases known : store.roots? other with
      | none => simp [known] at member
      | some roots =>
          rw [known] at member
          exact Shelf.get_add_of_lt _ _ (filled.sound.onShelf other roots known id member)
    rw [recordsOf_append, Store.shelf_register]
    by_cases same : other = location
    · subst same
      have placedRoots :
          (store.place (containerOf other output.2)).roots? other = store.roots? other := rfl
      rw [Store.roots?_register_self, placedRoots, if_pos stands, Option.getD_some,
        List.map_append, List.map_append]
      refine congrArg₂ (· ++ ·) oldContainers ?_
      exact congrArg (fun container => [container]) (Shelf.get_add_size _ _)
    · have standsNot : Location.parse? output.1 ≠ some other := by
        rw [stands]
        intro equal
        exact same (Option.some.inj equal).symm
      rw [Store.roots?_register_of_ne _ _ same, if_neg standsNot, List.append_nil]
      exact oldContainers

/-- A record is refused for the trouble with its name, and otherwise joins the others. -/
theorem record
    (filled : Filled store outputs) (output : String × SortedTable String String) :
    match Location.outputTrouble? output.1 with
    | some trouble => record store output = .error trouble
    | none => ∃ next, record store output = .ok next ∧ Filled next (outputs ++ [output]) := by
  cases stands : Location.parse? output.1 with
  | none =>
      simp [Location.outputTrouble?, Fixture.record, Location.ofName, stands, bind, Except.bind]
  | some location =>
      have recorded : Fixture.record store output = populate store location output.2 := by
        simp [Fixture.record, Location.ofName, stands, bind, Except.bind]
      rw [recorded, populate_eq filled.isOpen]
      cases faultless : location.fault? with
      | some fault => simp [Location.outputTrouble?, stands, faultless]
      | none =>
          simp only [Location.outputTrouble?, stands, faultless, Option.map_none]
          exact ⟨_, rfl, filled.register stands faultless⟩

/-- Records are refused for the first trouble with their names. -/
theorem records
    (filled : Filled store outputs) (more : List (String × SortedTable String String)) :
    match (more.map Prod.fst).findSome? Location.outputTrouble? with
    | some trouble => more.foldlM Fixture.record store = .error trouble
    | none => ∃ full, more.foldlM Fixture.record store = .ok full ∧
        Filled full (outputs ++ more) := by
  induction more generalizing store outputs with
  | nil => exact ⟨store, rfl, by rw [List.append_nil]; exact filled⟩
  | cons output others inductionHypothesis =>
      have first := filled.record output
      rw [List.map_cons, List.findSome?_cons, List.foldlM_cons]
      cases trouble : Location.outputTrouble? output.1 with
      | some found =>
          rw [trouble] at first
          simp only [first]
          rfl
      | none =>
          rw [trouble] at first
          obtain ⟨next, recorded, nextFilled⟩ := first
          have rest := inductionHypothesis nextFilled
          rw [List.append_assoc, List.singleton_append] at rest
          rw [recorded]
          exact rest

end Filled

/-- The file manager of a fixture is filled, or the first name with a trouble is to blame. -/
theorem filled_store (fixture : Fixture) :
    match fixture.outputs.keys.findSome? Location.outputTrouble? with
    | some trouble => fixture.store = .error trouble
    | none => ∃ full, fixture.store = .ok full ∧ Filled full fixture.outputs.entries :=
  (Filled.new fixture.release).records fixture.outputs.entries

theorem filled_of_store_eq_ok
    {fixture : Fixture} {store : Store} (built : fixture.store = .ok store) :
    Filled store fixture.outputs.entries := by
  have filling := fixture.filled_store
  rw [built] at filling
  cases trouble : fixture.outputs.keys.findSome? Location.outputTrouble? with
  | some found =>
      rw [trouble] at filling
      cases filling
  | none =>
      rw [trouble] at filling
      obtain ⟨_, same, filled⟩ := filling
      cases same
      exact filled

/-- The expected files have locations, or the first name with a trouble is to blame. -/
theorem expectedPaths_eq (fixture : Fixture) :
    match fixture.expectedFiles.keys.findSome? Location.nameTrouble? with
    | some trouble => fixture.expectedPaths = .error trouble
    | none => ∃ expected, fixture.expectedPaths = .ok expected ∧
        expected.map (fun entry => (some entry.1, entry.2)) =
          fixture.expectedFiles.entries.map fun entry => (Location.parse? entry.1, entry.2) := by
  unfold expectedPaths SortedTable.keys
  induction fixture.expectedFiles.entries with
  | nil => exact ⟨[], rfl, rfl⟩
  | cons first others inductionHypothesis =>
      rw [List.map_cons, List.findSome?_cons, List.mapM_cons]
      cases stands : Location.parse? first.1 with
      | none =>
          simp [Location.nameTrouble?, Location.ofName, stands, bind, Except.bind]
      | some location =>
          have nameless : Location.nameTrouble? first.1 = none := by
            simp [Location.nameTrouble?, stands]
          have located : Location.ofName first.1 = .ok location := by
            simp [Location.ofName, stands]
          rw [nameless, located]
          cases trouble : (others.map Prod.fst).findSome? Location.nameTrouble? with
          | some found =>
              simp only [trouble] at inductionHypothesis ⊢
              rw [inductionHypothesis]
              rfl
          | none =>
              simp only [trouble] at inductionHypothesis ⊢
              obtain ⟨expected, placed, sameEntries⟩ := inductionHypothesis
              refine ⟨(location, first.2) :: expected, ?_, ?_⟩
              · rw [placed]
                rfl
              · rw [List.map_cons, List.map_cons, sameEntries, stands]

end Fixture

end CompilationChecks
