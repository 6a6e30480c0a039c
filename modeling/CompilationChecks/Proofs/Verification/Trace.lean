import CompilationChecks.Proofs.Verification.Closing
import Mathlib.Data.List.Basic

/-!
# The trace of a verified fixture

What is logged while a fixture is verified can be told from what is recorded in it. Building logs
nothing. If the outcome is not the expected one, nothing is looked for. Otherwise the entries of the
expected files are gone through in order, and the manager is asked for their locations, up to an
entry that is not met: one whose location holds modules is not asked for, any other one still is.
In the end the manager is closed.
-/

namespace CompilationChecks

namespace Fixture

/-- `fixture.Asks entries locations`: going through the entries, the locations are asked for. -/
inductive Asks (fixture : Fixture) : List (String × List String) → List Location → Prop where
  | done : Asks fixture [] []
  /-- A location that holds modules is not asked for, and nothing after it is. -/
  | refused {name : String} {paths : List String} {others : List (String × List String)}
      {location : Location} (stands : Location.parse? name = some location)
      (holdsModules : location.isModuleOriented = true) :
      Asks fixture ((name, paths) :: others) []
  /-- A location that has no records, or none of some path, is the last one that is asked for. -/
  | missed {name : String} {paths : List String} {others : List (String × List String)}
      {location : Location} (stands : Location.parse? name = some location)
      (holdsFiles : location.isModuleOriented = false)
      (missing : ¬ fixture.Recorded location paths) :
      Asks fixture ((name, paths) :: others) [location]
  | found {name : String} {paths : List String} {others : List (String × List String)}
      {location : Location} {locations : List Location}
      (stands : Location.parse? name = some location) (recorded : fixture.Recorded location paths)
      (further : Asks fixture others locations) :
      Asks fixture ((name, paths) :: others) (location :: locations)

variable {fixture : Fixture}

theorem Asks.holdsFiles
    {entries : List (String × List String)} {locations : List Location}
    (asks : fixture.Asks entries locations) :
    ∀ location ∈ locations, location.isModuleOriented = false := by
  induction asks with
  | done => exact List.forall_mem_nil _
  | refused stands holdsModules => exact List.forall_mem_nil _
  | missed stands holdsFiles missing => exact List.forall_mem_singleton.2 holdsFiles
  | found stands recorded further inductionHypothesis =>
      exact List.forall_mem_cons.2 ⟨recorded.holdsFiles, inductionHypothesis⟩

/-- A manager that behaves like the one in memory is asked for what the records tell. -/
theorem asks_asked
    {manager : Manager Store} (agrees : manager.Agrees Store.manager)
    {entries : List (String × List String)} {expected : List (Location × List String)}
    (sameEntries : expected.map (fun entry => (some entry.1, entry.2)) =
      entries.map fun entry => (Location.parse? entry.1, entry.2))
    {world : World Store} (filled : Filled world.inner fixture.outputs.entries) :
    fixture.Asks entries (Check.asked manager expected world) := by
  induction expected generalizing entries world with
  | nil =>
      obtain rfl := List.map_eq_nil_iff.1 sameEntries.symm
      exact .done
  | cons first others inductionHypothesis =>
      obtain ⟨location, paths⟩ := first
      cases entries with
      | nil => cases sameEntries
      | cons entry rest =>
          obtain ⟨name, entryPaths⟩ := entry
          obtain ⟨sameFirst, sameRest⟩ := List.cons.inj sameEntries
          obtain ⟨stands, rfl⟩ := Prod.mk.inj sameFirst
          cases holdsModules : location.isModuleOriented with
          | true =>
              simp only [Check.asked, holdsModules, if_true]
              exact .refused stands.symm holdsModules
          | false =>
              have foundIff := pathsExist_ok_iff agrees filled location paths
              have unchanged :
                  (Check.pathsExist manager location paths world).2.inner = world.inner := by
                obtain ⟨after, sameState, searched⟩ :=
                  pathsExist_eq agrees filled.isOpen location paths
                rw [searched]
                exact sameState
              simp only [Check.asked, holdsModules, Bool.false_eq_true, if_false]
              generalize Check.pathsExist manager location paths world = done
                at foundIff unchanged ⊢
              obtain ⟨complaint | passed, after⟩ := done
              · have missing : ¬ fixture.Recorded location paths := by
                  intro recorded
                  cases foundIff.2 recorded
                exact .missed stands.symm holdsModules missing
              · have sameState : after.inner = world.inner := unchanged
                have filledAfter : Filled after.inner fixture.outputs.entries := by
                  rw [sameState]
                  exact filled
                exact .found stands.symm (foundIff.1 rfl)
                  (inductionHypothesis sameRest filledAfter)

end Fixture

/-! ## Events -/

namespace Delegate

variable (delegate : Delegate) (surroundings : Log.Surroundings) (lane : Log.Lane) (depth : Nat)

/-- The entry and the exit of a call that asks a store for the files of a location. -/
def lookupEvents (store : Store) (location : Location) : List Log.Event :=
  let operation := (Call.getPackageGroup location).operation
  let found := (store.packageGroup? location).map fun group => group.inspect store.shelf
  [delegate.entryEvent surroundings operation lane depth [location.name],
    { event operation lane depth .returned with result := some (Inspection.option found) }]

/-- An open store answers for a location that holds files. -/
theorem conversation_getPackageGroup
    {store : Store} (isOpen : store.closed = false) {location : Location}
    (holdsFiles : location.isModuleOriented = false) :
    delegate.conversation surroundings lane depth [.getPackageGroup location] store =
      delegate.lookupEvents surroundings lane depth store location := by
  have answered :
      store.perform (.getPackageGroup location) =
        (.ok (store.packageGroup? location), store) := by
    simp [Store.perform, Store.getPackageGroup, isOpen, holdsFiles, Store.answer]
  simp only [conversation, answered]
  rfl

end Delegate

namespace Verifier

variable (verifier : Verifier) {number : Nat} {fixture : Fixture} {journal : Log.Journal}

/-- A fixture with an outcome has a filled manager, and locations for all expected files. -/
theorem exists_store_of_verifyOne_ok
    {outcome : FixtureOutcome}
    (answered : (verifier.verifyOne number fixture journal).1 = .ok outcome) :
    ∃ store expected,
      fixture.store = .ok store ∧
        Fixture.Filled store fixture.outputs.entries ∧
        fixture.expectedPaths = .ok expected ∧
        expected.map (fun entry => (some entry.1, entry.2)) =
          fixture.expectedFiles.entries.map fun entry => (Location.parse? entry.1, entry.2) := by
  have filling := fixture.filled_store
  have placing := fixture.expectedPaths_eq
  cases outputTrouble : fixture.outputs.keys.findSome? Location.outputTrouble? with
  | some trouble =>
      rw [outputTrouble] at filling
      simp [verifyOne, filling] at answered
  | none =>
      rw [outputTrouble] at filling
      obtain ⟨store, built, filled⟩ := filling
      cases nameTrouble : fixture.expectedFiles.keys.findSome? Location.nameTrouble? with
      | some trouble =>
          rw [nameTrouble] at placing
          rw [verifier.verifyOne_of_error built placing] at answered
          cases answered
      | none =>
          rw [nameTrouble] at placing
          obtain ⟨expected, known, sameEntries⟩ := placing
          exact ⟨store, expected, built, filled, known, sameEntries⟩

/-- A mode that logs nothing leaves the log as it is, whatever the sink would keep. -/
theorem records_verifyOne_of_disabled
    {store : Store} (built : fixture.store = .ok store) {expected : List (Location × List String)}
    (known : fixture.expectedPaths = .ok expected) (disabled : verifier.mode.isEnabled = false) :
    (verifier.verifyOne number fixture journal).2.records = journal.records := by
  let begun := verifier.announced number fixture store journal
  have unlogged :
      (fixture.visit expected (verifier.manager number) ⟨begun, store⟩).2.journal = begun := by
    rw [Fixture.visit_snd, verifier.manager_of_disabled number disabled]
    exact Store.journal_runAll _ _
  rw [verifier.verifyOne_of_ok built known, records_judge, unlogged]
  exact verifier.records_announced number fixture store journal

/-- **The trace of a verified fixture.** Let a fixture be verified and have an outcome, through a
delegate that is new, so that none of its calls is open. Building its file manager logs nothing. The
locations that the manager is then asked for are none if the recorded outcome is not the expected
one; otherwise they are those of the entries of the expected files, in the order of the bytes of
their names, up to the first entry that is not met, and this one is asked for only if its location
holds files. If the calls are logged, a sink that keeps everything gets, for each of these locations
in turn, an entry with the name of the location and an exit with what the store holds there, and
then the entry and the exit of the call that closes the manager, all at depth one. If the mode is
not to log, nothing is logged, whatever the sink is. Through no delegate are more calls open
afterwards than before, so that each fixture of a verification finds a new delegate. -/
theorem trace_of_verified_fixture
    {outcome : FixtureOutcome} (fresh : journal.depth number = 0)
    (answered : (verifier.verifyOne number fixture journal).1 = .ok outcome) :
    let after := (verifier.verifyOne number fixture journal).2
    let delegate := verifier.delegate number
    let lane := journal.lane number
    ∃ (store : Store) (locations : List Location),
      fixture.store = .ok store ∧
        (fixture.OutcomeExpected → fixture.Asks fixture.expectedFiles.entries locations) ∧
        (¬ fixture.OutcomeExpected → locations = []) ∧
        (fixture.expectedFiles.keys.Pairwise
          fun left right => Utf8.encode left < Utf8.encode right) ∧
        (verifier.mode.isEnabled = true → (∀ level, verifier.sink.keeps level = true) →
          after.records =
            journal.records ++
              (locations.flatMap (delegate.lookupEvents verifier.surroundings lane 1 store) ++
                delegate.closeEvents verifier.surroundings lane 1).map (Log.Record.mk number)) ∧
        (verifier.mode.isEnabled = false → after.records = journal.records) ∧
        ∀ other, after.depth other = journal.depth other := by
  intro after delegate lane
  obtain ⟨store, expected, built, filled, known, sameEntries⟩ :=
    verifier.exists_store_of_verifyOne_ok answered
  let begun := verifier.announced number fixture store journal
  let locations := Check.lookups (verifier.manager number) fixture.expectation
    fixture.compilation expected ⟨begun, store⟩
  have asked : fixture.OutcomeExpected → fixture.Asks fixture.expectedFiles.entries locations := by
    intro outcomeExpected
    have checked := Fixture.check_ok_iff.2 outcomeExpected
    simp only [locations, Check.lookups, checked]
    exact Fixture.asks_asked (verifier.manager_agrees number) sameEntries filled
  have unasked : ¬ fixture.OutcomeExpected → locations = [] := by
    intro outcomeUnexpected
    unfold locations Check.lookups
    cases checked : fixture.expectation.check fixture.compilation with
    | error complaint => rfl
    | ok passed => exact absurd (Fixture.check_ok_iff.1 checked) outcomeUnexpected
  have holdFiles : ∀ location ∈ locations, location.isModuleOriented = false := by
    by_cases outcomeExpected : fixture.OutcomeExpected
    · exact (asked outcomeExpected).holdsFiles
    · rw [unasked outcomeExpected]
      exact List.forall_mem_nil _
  refine ⟨store, locations, built, asked, unasked, fixture.expectedFiles.keys_in_byte_order, ?_,
    verifier.records_verifyOne_of_disabled built known,
    verifier.depth_verifyOne number fixture journal⟩
  intro enabled keepsAll
  have sameEvents :
      locations.flatMap (delegate.lookupEvents verifier.surroundings lane 1 store) =
        locations.flatMap fun location =>
          delegate.conversation verifier.surroundings lane 1 [.getPackageGroup location] store :=
    List.flatMap_congr fun location mem =>
      (delegate.conversation_getPackageGroup verifier.surroundings lane 1 filled.isOpen
        (holdFiles location mem)).symm
  refine (verifier.records_verifyOne built known enabled keepsAll).trans ?_
  rw [fresh, Nat.zero_add, sameEvents]

/-- Files are expected in three locations. The second one has none, so the third is not asked for. -/
def unheaded : Fixture where
  name := "unheaded"
  release := "17"
  successful := true
  failOnWarnings := false
  diagnostics := []
  outputLines := []
  outputs := .ofList
    [("CLASS_OUTPUT", .ofList [("A.class", "")]), ("SOURCE_OUTPUT", .ofList [("B.java", "")])]
  expectation := .success
  expectedFiles := .ofList
    [("SOURCE_OUTPUT", ["B.java"]), ("NATIVE_HEADER_OUTPUT", []), ("class_output", ["A.class"]),
      ("CLASS_OUTPUT", ["A.class"])]

theorem trace_of_verified_fixture_unheaded :
    let verifier : Verifier := ⟨.enabled, .memory .trace, ⟨none, []⟩⟩
    let run := verifier.verifyOne 0 unheaded .start
    Log.Journal.start.depth 0 = 0 ∧
      (∃ outcome, run.1 = .ok outcome) ∧
      (∃ (store : Store) (locations : List Location),
        unheaded.store = .ok store ∧
          (unheaded.OutcomeExpected → unheaded.Asks unheaded.expectedFiles.entries locations) ∧
          run.2.records =
            (locations.flatMap
                ((verifier.delegate 0).lookupEvents verifier.surroundings ⟨1, 0⟩ 1 store) ++
              (verifier.delegate 0).closeEvents verifier.surroundings ⟨1, 0⟩ 1).map
                (Log.Record.mk 0)) ∧
      run.2.records.map (fun record =>
          (record.event.moment, record.event.depth, record.event.arguments)) =
        [(.entry, 1, some "CLASS_OUTPUT"), (.returned, 1, none),
          (.entry, 1, some "NATIVE_HEADER_OUTPUT"), (.returned, 1, none),
          (.entry, 1, some ""), (.completed, 1, none)] := by
  intro verifier run
  have fresh : Log.Journal.start.depth 0 = 0 := rfl
  have answered :
      run.1 =
        .ok ⟨"unheaded", false,
          some "Expected location NATIVE_HEADER_OUTPUT to be configured, but it was not."⟩ := rfl
  obtain ⟨store, locations, built, asked, _, _, logged, _⟩ :=
    verifier.trace_of_verified_fixture fresh answered
  exact ⟨fresh, ⟨_, answered⟩,
    ⟨store, locations, built, asked, logged rfl Log.Sink.keeps_memory_trace⟩, rfl⟩

end Verifier

end CompilationChecks
