import CompilationChecks.Proofs.Delegate.Conversation
import CompilationChecks.Proofs.Verification.Verdict

/-!
# Which file managers are closed

Once the file manager of a fixture is filled, the names of the expected files are read, and only
then is the manager visited: it is asked for some locations, and closed. The calls of a visit are
known for every manager, so they are known for every mode, and where they are logged the log ends
with the closing. A name that stands for no location prevents the visit, and with it the closing.
-/

namespace CompilationChecks

theorem Log.Journal.lane_notice
    (journal : Journal) (surroundings : Surroundings) (notice : Notice) (number : Nat) :
    (journal.notice surroundings notice).lane number = journal.lane number := by
  unfold Journal.notice
  split <;> rfl

theorem Log.Journal.depth_notice
    (journal : Journal) (surroundings : Surroundings) (notice : Notice) (number : Nat) :
    (journal.notice surroundings notice).depth number = journal.depth number := by
  unfold Journal.notice
  split <;> rfl

theorem Manager.runAll_append
    {σ : Type} (manager : Manager σ) (calls others : List Call) (world : World σ) :
    (manager.runAll (calls ++ others) world).2 =
      (manager.runAll others (manager.runAll calls world).2).2 := by
  induction calls generalizing world with
  | nil => rfl
  | cons call rest inductionHypothesis => exact inductionHypothesis (manager call world).2

/-! ## The calls of a check -/

namespace Check

/-- The locations that a manager is asked for while paths are looked for. A location that holds
modules is not asked for, and ends the search; so does the first complaint. -/
def asked (manager : Manager Store) : List (Location × List String) → World Store → List Location
  | [], _ => []
  | expected :: others, world =>
    if expected.1.isModuleOriented then []
    else
      match pathsExist manager expected.1 expected.2 world with
      | (.error _, _) => [expected.1]
      | (.ok (), after) => expected.1 :: asked manager others after

/-- The locations that a manager is asked for while an outcome is checked. -/
def lookups (manager : Manager Store) (expectation : Expectation) (compilation : Compilation)
    (expected : List (Location × List String)) (world : World Store) : List Location :=
  match expectation.check compilation with
  | .error _ => []
  | .ok () => asked manager expected world

variable (manager : Manager Store)

theorem pathsExist_of_moduleOriented
    {location : Location} (holdsModules : location.isModuleOriented = true) (paths : List String)
    (world : World Store) :
    pathsExist manager location paths world = (.error (.moduleOriented location), world) := by
  simp [pathsExist, Inquiry.packageGroup, Inquiry.ofVerdict, holdsModules]

/-- A location that holds files is asked for once, whatever the answer is. -/
theorem pathsExist_snd
    {location : Location} (holdsFiles : location.isModuleOriented = false) (paths : List String)
    (world : World Store) :
    (pathsExist manager location paths world).2 = (manager (.getPackageGroup location) world).2 := by
  simp only [pathsExist, Inquiry.packageGroup, Inquiry.lookUp, holdsFiles, Bool.false_eq_true,
    if_false]
  rcases manager (.getPackageGroup location) world with ⟨ending, after⟩
  cases ending <;> rfl

theorem allPathsExist_snd (expected : List (Location × List String)) (world : World Store) :
    (allPathsExist manager expected world).2 =
      (manager.runAll ((asked manager expected world).map .getPackageGroup) world).2 := by
  induction expected generalizing world with
  | nil => rfl
  | cons first others inductionHypothesis =>
      cases holdsModules : first.1.isModuleOriented with
      | true =>
          simp [allPathsExist, asked, holdsModules, Manager.runAll,
            pathsExist_of_moduleOriented manager holdsModules]
      | false =>
          -- The search has changed the world by one call, whether it goes on or not.
          have once := pathsExist_snd manager holdsModules first.2 world
          rcases searched : pathsExist manager first.1 first.2 world with ⟨complaint | passed, after⟩
          · rw [searched] at once
            simpa [allPathsExist, asked, holdsModules, searched, Manager.runAll] using once
          · rw [searched] at once
            simp only [allPathsExist, asked, holdsModules, searched, Bool.false_eq_true, if_false,
              List.map_cons, Manager.runAll, ← once]
            exact inductionHypothesis after

theorem outcome_snd
    (expectation : Expectation) (compilation : Compilation)
    (expected : List (Location × List String)) (world : World Store) :
    (outcome manager expectation compilation expected world).2 =
      (manager.runAll
        ((lookups manager expectation compilation expected world).map .getPackageGroup) world).2 := by
  unfold outcome lookups
  cases expectation.check compilation with
  | error complaint => rfl
  | ok passed => exact allPathsExist_snd manager expected world

end Check

/-! ## Visits -/

/-- What is done with the file manager of a fixture once it is filled: the outcome is checked over
it, and it is closed. -/
def Fixture.visit (fixture : Fixture) (expected : List (Location × List String))
    (manager : Manager Store) (world : World Store) :
    (Verdict Unit × Ending Unit) × World Store :=
  let checked := Check.outcome manager fixture.expectation fixture.compilation expected world
  let closed := manager .close checked.2
  ((checked.1, closed.1), closed.2)

/-- The calls of a visit: it asks for some locations, and closes the manager as the last call. -/
def Fixture.visitCalls (fixture : Fixture) (expected : List (Location × List String))
    (manager : Manager Store) (world : World Store) : List Call :=
  (Check.lookups manager fixture.expectation fixture.compilation expected world).map
      .getPackageGroup ++
    [.close]

theorem Fixture.visit_snd
    (fixture : Fixture) (expected : List (Location × List String)) (manager : Manager Store)
    (world : World Store) :
    (fixture.visit expected manager world).2 =
      (manager.runAll (fixture.visitCalls expected manager world) world).2 := by
  unfold visit visitCalls
  rw [Manager.runAll_append, ← Check.outcome_snd]
  rfl

/-! ## The log of a visit -/

theorem Store.perform_getPackageGroup_snd (store : Store) (location : Location) :
    (store.perform (.getPackageGroup location)).2 = store := by
  simp only [perform, getPackageGroup, refuse, answer]
  split
  · rfl
  · split
    · rfl
    · rfl

namespace Delegate

variable (delegate : Delegate) (surroundings : Log.Surroundings) (lane : Log.Lane) (depth : Nat)

/-- The entry and the exit of a call that closes a manager. -/
def closeEvents : List Log.Event :=
  [delegate.entryEvent surroundings Call.close.operation lane depth [],
    event Call.close.operation lane depth .completed]

/-- The conversation of a visit ends with the closing. -/
theorem conversation_visit (locations : List Location) (store : Store) :
    delegate.conversation surroundings lane depth
        (locations.map .getPackageGroup ++ [.close]) store =
      locations.flatMap
          (fun location =>
            delegate.conversation surroundings lane depth [.getPackageGroup location] store) ++
        delegate.closeEvents surroundings lane depth := by
  have unchanged : ∀ call ∈ locations.map Call.getPackageGroup, (store.perform call).2 = store := by
    intro call mem
    obtain ⟨location, _, rfl⟩ := List.mem_map.1 mem
    exact store.perform_getPackageGroup_snd location
  rw [conversation_append delegate surroundings unchanged, List.flatMap_map]
  rfl

end Delegate

namespace Verifier

variable (verifier : Verifier) (number : Nat)

/-- The delegate that an enabled mode puts around the file manager of the fixture with a number. -/
def delegate : Delegate :=
  ⟨number, verifier.mode.showsFrames, verifier.sink⟩

theorem manager_of_enabled (enabled : verifier.mode.isEnabled = true) :
    verifier.manager number =
      (verifier.delegate number).around verifier.surroundings Store.shelf Store.manager := by
  simp [manager, delegates, LoggingMode.delegates, enabled, Delegate.aroundAll, delegate]

theorem manager_of_disabled (disabled : verifier.mode.isEnabled = false) :
    verifier.manager number = Store.manager := by
  simp [manager, delegates, LoggingMode.delegates, disabled, Delegate.aroundAll]

/-- A visit adds its conversation to a log that keeps everything. -/
theorem records_visit
    (enabled : verifier.mode.isEnabled = true)
    (keepsAll : ∀ level, verifier.sink.keeps level = true) (fixture : Fixture)
    (expected : List (Location × List String)) (world : World Store) :
    (fixture.visit expected (verifier.manager number) world).2.journal.records =
      world.journal.records ++
        ((verifier.delegate number).conversation verifier.surroundings (world.journal.lane number)
          (world.journal.depth number + 1)
          (fixture.visitCalls expected (verifier.manager number) world) world.inner).map
            (Log.Record.mk number) := by
  rw [Fixture.visit_snd, verifier.manager_of_enabled number enabled]
  exact (verifier.delegate number).records_runAll_around_manager verifier.surroundings _ world
    keepsAll

/-- After a visit as many calls are open as before. -/
theorem depth_visit
    (fixture : Fixture) (expected : List (Location × List String)) (world : World Store)
    (other : Nat) :
    (fixture.visit expected (verifier.manager number) world).2.journal.depth other =
      world.journal.depth other := by
  rw [Fixture.visit_snd]
  cases enabled : verifier.mode.isEnabled with
  | true =>
      obtain ⟨thread, counts⟩ := (verifier.delegate number).runAll_around_manager
        verifier.surroundings (fixture.visitCalls expected (verifier.manager number) world) world
      rw [verifier.manager_of_enabled number enabled] at counts thread ⊢
      simp only [Log.Journal.depth, Log.Journal.lane, thread, counts]
  | false =>
      rw [verifier.manager_of_disabled number enabled]
      exact congrArg (fun journal => journal.depth other) (Store.journal_runAll _ world)

/-- The journal in which the file manager of a fixture is visited: its building was announced. -/
def announced (fixture : Fixture) (store : Store) (journal : Log.Journal) : Log.Journal :=
  journal.notice verifier.surroundings
    (.compilationBuilt fixture.name
      (Delegate.displayAll (verifier.delegates number) store.display))

theorem records_announced (fixture : Fixture) (store : Store) (journal : Log.Journal) :
    (verifier.announced number fixture store journal).records = journal.records :=
  journal.records_notice _ _

/-- What is made of a visit once it is over, without another call of the manager. -/
def judge (fixture : Fixture) (visited : (Verdict Unit × Ending Unit) × World Store) :
    Except Trouble FixtureOutcome × Log.Journal :=
  let failure :=
    match visited.1.1 with
    | .ok () => none
    | .error complaint => some complaint.message
  let journal := visited.2.journal.notice verifier.surroundings (notice fixture failure)
  match visited.1.2 with
  | .failed trouble => (.error (.manager trouble), journal)
  | _ => (.ok ⟨fixture.name, failure.isNone, failure⟩, journal)

theorem conclude_eq_judge
    (fixture : Fixture) (expected : List (Location × List String)) (world : World Store) :
    verifier.conclude number fixture expected world =
      verifier.judge fixture (fixture.visit expected (verifier.manager number) world) := rfl

/-- The judgement shows a notice, and changes nothing else in the journal. -/
theorem exists_notice_judge
    (fixture : Fixture) (visited : (Verdict Unit × Ending Unit) × World Store) :
    ∃ shown : Log.Notice,
      (verifier.judge fixture visited).2 =
        visited.2.journal.notice verifier.surroundings shown := by
  obtain ⟨⟨verdict, ending⟩, world⟩ := visited
  cases ending with
  | returned value => exact ⟨_, rfl⟩
  | failed failure => exact ⟨_, rfl⟩
  | panicked text => exact ⟨_, rfl⟩

theorem records_judge
    (fixture : Fixture) (visited : (Verdict Unit × Ending Unit) × World Store) :
    (verifier.judge fixture visited).2.records = visited.2.journal.records := by
  obtain ⟨shown, noticed⟩ := verifier.exists_notice_judge fixture visited
  rw [noticed, Log.Journal.records_notice]

theorem depth_judge
    (fixture : Fixture) (visited : (Verdict Unit × Ending Unit) × World Store) (other : Nat) :
    (verifier.judge fixture visited).2.depth other = visited.2.journal.depth other := by
  obtain ⟨shown, noticed⟩ := verifier.exists_notice_judge fixture visited
  rw [noticed, Log.Journal.depth_notice]

/-- Closing goes well, so a visit leaves the manager closed and has an outcome. -/
theorem closed_visit
    (fixture : Fixture) (expected : List (Location × List String)) (world : World Store) :
    let visited := fixture.visit expected (verifier.manager number) world
    visited.2.inner.closed = true ∧
      ∃ outcome : FixtureOutcome, (verifier.judge fixture visited).1 = .ok outcome := by
  intro visited
  let checked :=
    Check.outcome (verifier.manager number) fixture.expectation fixture.compilation expected world
  obtain ⟨ending, state⟩ := verifier.manager_agrees number .close checked.2 checked.2 rfl
  have returned : visited.1.2 = .returned () := ending
  constructor
  · exact congrArg Store.closed state
  · unfold judge
    rw [returned]
    exact ⟨_, rfl⟩

variable {number} {fixture : Fixture} {journal : Log.Journal} {store : Store}

theorem verifyOne_of_error
    (built : fixture.store = .ok store) {trouble : Trouble}
    (refused : fixture.expectedPaths = .error trouble) :
    verifier.verifyOne number fixture journal =
      (.error trouble, verifier.announced number fixture store journal) := by
  simp only [verifyOne, built, refused, announced]

theorem verifyOne_of_ok
    (built : fixture.store = .ok store) {expected : List (Location × List String)}
    (known : fixture.expectedPaths = .ok expected) :
    verifier.verifyOne number fixture journal =
      verifier.judge fixture
        (fixture.visit expected (verifier.manager number)
          ⟨verifier.announced number fixture store journal, store⟩) := by
  simp only [verifyOne, built, known, announced, conclude_eq_judge]

/-- A log that keeps everything grows by the conversation of the visit. -/
theorem records_verifyOne
    (built : fixture.store = .ok store) {expected : List (Location × List String)}
    (known : fixture.expectedPaths = .ok expected) (enabled : verifier.mode.isEnabled = true)
    (keepsAll : ∀ level, verifier.sink.keeps level = true) :
    let begun := verifier.announced number fixture store journal
    let locations := Check.lookups (verifier.manager number) fixture.expectation
      fixture.compilation expected ⟨begun, store⟩
    let delegate := verifier.delegate number
    let lane := journal.lane number
    let depth := journal.depth number + 1
    (verifier.verifyOne number fixture journal).2.records =
      journal.records ++
        (locations.flatMap
            (fun location =>
              delegate.conversation verifier.surroundings lane depth [.getPackageGroup location]
                store) ++
          delegate.closeEvents verifier.surroundings lane depth).map (Log.Record.mk number) := by
  intro begun locations delegate lane depth
  have visited := verifier.records_visit number enabled keepsAll fixture expected ⟨begun, store⟩
  rw [verifier.verifyOne_of_ok built known, records_judge, visited, Fixture.visitCalls,
    Delegate.conversation_visit]
  simp only [begun, announced, Log.Journal.records_notice, Log.Journal.lane_notice,
    Log.Journal.depth_notice]
  rfl

/-- After the verification of a fixture as many calls are open as before, so that the delegate of
the next fixture is new as well. -/
theorem depth_verifyOne
    (number : Nat) (fixture : Fixture) (journal : Log.Journal) (other : Nat) :
    (verifier.verifyOne number fixture journal).2.depth other = journal.depth other := by
  cases built : fixture.store with
  | error trouble => simp only [verifyOne, built]
  | ok store =>
      cases known : fixture.expectedPaths with
      | error trouble =>
          rw [verifier.verifyOne_of_error built known]
          exact journal.depth_notice _ _ other
      | ok expected =>
          rw [verifier.verifyOne_of_ok built known, depth_judge, depth_visit]
          exact journal.depth_notice _ _ other

/-- **A built file manager is closed if the expected names are known.** Let the file manager of a
fixture be built. If each name of expected files stands for a location, the manager is visited in
every mode, and the verification answers with an outcome, passed or not, that it makes of the visit
alone. Whatever manager it is, a visit asks it for some locations and then closes it, once and as
the last call. So the manager is left closed, and a log that keeps everything has, of this fixture,
some events that are not about closing, and then the entry and the exit of one call to close. But if
some name stands for no location, the verification ends with the trouble of the first such name as
soon as the manager is built; the manager is not called, and nothing is logged. -/
theorem built_manager_is_closed_if_names_are_known
    (number : Nat) (journal : Log.Journal) (built : fixture.store = .ok store) :
    let run := verifier.verifyOne number fixture journal
    let begun := verifier.announced number fixture store journal
    ((∀ name ∈ fixture.expectedFiles.keys, Location.nameTrouble? name = none) →
      ∃ expected outcome,
        let visited := fixture.visit expected (verifier.manager number) ⟨begun, store⟩
        fixture.expectedPaths = .ok expected ∧
          run = verifier.judge fixture visited ∧
          run.1 = .ok outcome ∧
          visited.2.inner.closed = true ∧
          (∀ (manager : Manager Store) (world : World Store), ∃ locations : List Location,
            (fixture.visit expected manager world).2 =
              (manager.runAll (locations.map .getPackageGroup ++ [.close]) world).2) ∧
          (verifier.mode.isEnabled = true → (∀ level, verifier.sink.keeps level = true) →
            ∃ events : List Log.Event,
              (∀ event ∈ events, event.operation ≠ Call.close.operation.name) ∧
                run.2.records =
                  journal.records ++
                    (events ++
                      (verifier.delegate number).closeEvents verifier.surroundings
                        (journal.lane number) (journal.depth number + 1)).map
                          (Log.Record.mk number))) ∧
    ∀ trouble, FirstTrouble Location.nameTrouble? fixture.expectedFiles trouble →
      run = (.error trouble, begun) ∧ begun.records = journal.records := by
  intro run begun
  have placing := fixture.expectedPaths_eq
  constructor
  · intro namesKnown
    rw [List.findSome?_eq_none_iff.2 namesKnown] at placing
    obtain ⟨expected, known, _⟩ := placing
    obtain ⟨closed, outcome, answered⟩ :=
      verifier.closed_visit number fixture expected ⟨begun, store⟩
    have judged :
        run =
          verifier.judge fixture
            (fixture.visit expected (verifier.manager number) ⟨begun, store⟩) :=
      verifier.verifyOne_of_ok built known
    refine ⟨expected, outcome, known, judged, ?_, closed, ?_, ?_⟩
    · rw [judged]
      exact answered
    · intro manager world
      exact ⟨_, fixture.visit_snd expected manager world⟩
    · intro enabled keepsAll
      refine ⟨_, ?_, verifier.records_verifyOne built known enabled keepsAll⟩
      intro event mem
      obtain ⟨location, _, logged⟩ := List.mem_flatMap.1 mem
      obtain ⟨call, inCalls, same⟩ := Delegate.operation_conversation _ _ logged
      rw [same, List.mem_singleton.1 inCalls]
      exact (by decide : "get_package_container_group" ≠ "close")
  · intro trouble first
    rw [firstTrouble_iff.1 first] at placing
    exact ⟨verifier.verifyOne_of_error built placing,
      verifier.records_announced number fixture store journal⟩

/-- The manager of a fixture that expects files in one location is asked for it, and closed. -/
theorem built_manager_is_closed_if_names_are_known_aliased :
    let verifier : Verifier := ⟨.enabled, .memory .trace, ⟨none, []⟩⟩
    let run := verifier.verifyOne 0 aliased .start
    (∃ store : Store, aliased.store = .ok store ∧
      ∃ expected outcome,
        run.1 = .ok outcome ∧
          (aliased.visit expected (verifier.manager 0)
            ⟨verifier.announced 0 aliased store .start, store⟩).2.inner.closed = true) ∧
      run.2.records.map (fun record => (record.event.moment, record.event.operation)) =
        [(.entry, "get_package_container_group"), (.returned, "get_package_container_group"),
          (.entry, "close"), (.completed, "close")] := by
  intro verifier run
  have namesKnown : ∀ name ∈ aliased.expectedFiles.keys, Location.nameTrouble? name = none := by
    have oneName : aliased.expectedFiles.keys = ["Class_Output"] := rfl
    intro name mem
    rw [oneName, List.mem_singleton] at mem
    rw [mem]
    rfl
  have possible : aliased.store.isOk = true := rfl
  refine ⟨?_, rfl⟩
  cases built : aliased.store with
  | error trouble =>
      rw [built] at possible
      cases possible
  | ok store =>
      obtain ⟨expected, outcome, _, _, answered, closed, _⟩ :=
        (verifier.built_manager_is_closed_if_names_are_known 0 .start built).1 namesKnown
      exact ⟨store, rfl, expected, outcome, answered, closed⟩

/-- A fixture whose expected files are under a name that stands for no location. -/
def misnamed : Fixture where
  name := "misnamed"
  release := "17"
  successful := true
  failOnWarnings := false
  diagnostics := []
  outputLines := []
  outputs := .empty
  expectation := .success
  expectedFiles := .ofList [("NOPE", [])]

/-- The manager of such a fixture is built, and neither called nor closed. -/
theorem misnamed_manager_is_left_open :
    let verifier : Verifier := ⟨.enabled, .memory .trace, ⟨none, []⟩⟩
    let run := verifier.verifyOne 0 misnamed .start
    misnamed.store = .ok (.new "17") ∧
      run.1 = .error (.unknownLocation "NOPE") ∧
      run.2.records = [] ∧
      ¬ ∃ record ∈ run.2.records, record.event.operation = Call.close.operation.name := by
  intro verifier run
  have unlogged : run.2.records = [] := rfl
  refine ⟨rfl, rfl, unlogged, ?_⟩
  rintro ⟨record, logged, _⟩
  rw [unlogged] at logged
  cases logged

end Verifier

end CompilationChecks
