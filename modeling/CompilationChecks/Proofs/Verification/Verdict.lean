import CompilationChecks.Proofs.Checks
import CompilationChecks.Proofs.Delegate.Transparency
import CompilationChecks.Proofs.Verification.Filled

/-!
# The verdict on a fixture

What a fixture records decides what becomes of it, whatever delegates stand around its file
manager. A name with a trouble ends its verification, the names of written files before those of
expected files. Without a trouble the fixture passes exactly if its outcome is the expected one
and all files that must exist were recorded.
-/

namespace CompilationChecks

namespace Fixture

variable (fixture : Fixture)

/-! ## What a fixture records -/

/-- The recorded outcome is the expected one. -/
def OutcomeExpected : Prop :=
  match fixture.expectation with
  | .success => fixture.successful = true
  | .successWithoutWarnings =>
    fixture.successful = true ∧
      ∀ report ∈ fixture.diagnostics,
        report.kind ≠ .error ∧ report.kind ≠ .warning ∧ report.kind ≠ .mandatoryWarning
  | .failure => fixture.successful = false

/-- Files of a location were recorded, and among them some with each of the given paths, however
the paths are spelled. -/
structure Recorded (location : Location) (paths : List String) : Prop where
  holdsFiles : location.isModuleOriented = false
  named : ∃ output ∈ fixture.outputs.entries, Location.parse? output.1 = some location
  written : ∀ path ∈ paths, ∃ output ∈ fixture.outputs.entries,
    Location.parse? output.1 = some location ∧
      ∃ file ∈ output.2.entries, Path.normalize file.1 = Path.normalize path

/-- Everything that is expected of the fixture is the case. -/
structure Met : Prop where
  outcome : fixture.OutcomeExpected
  files : ∀ expected ∈ fixture.expectedFiles.entries, ∃ location,
    Location.parse? expected.1 = some location ∧ fixture.Recorded location expected.2

/-- The trouble that keeps the fixture from being checked: that of the first name of an output
that has one, and if none has, that of the first name of expected files. -/
def HasTrouble (trouble : Trouble) : Prop :=
  FirstTrouble Location.outputTrouble? fixture.outputs trouble ∨
    (∀ key ∈ fixture.outputs.keys, Location.outputTrouble? key = none) ∧
      FirstTrouble Location.nameTrouble? fixture.expectedFiles trouble

/-- The trouble of a fixture is what a search through its names finds. -/
theorem hasTrouble_iff {trouble : Trouble} :
    fixture.HasTrouble trouble ↔
      (fixture.outputs.keys.findSome? Location.outputTrouble?).or
        (fixture.expectedFiles.keys.findSome? Location.nameTrouble?) = some trouble := by
  unfold HasTrouble
  rw [firstTrouble_iff, firstTrouble_iff, Option.or_eq_some_iff, List.findSome?_eq_none_iff]

/-! ## The outcome -/

variable {fixture}

theorem check_ok_iff :
    fixture.expectation.check fixture.compilation = .ok () ↔ fixture.OutcomeExpected := by
  unfold Expectation.check OutcomeExpected
  cases fixture.expectation with
  | success => exact Compilation.isSuccessful_ok_iff
  | failure => exact Compilation.hasFailed_ok_iff
  | successWithoutWarnings =>
      refine Compilation.isSuccessfulWithoutWarnings_ok_iff.trans (and_congr_right fun _ => ?_)
      refine forall₂_congr fun report _ => ?_
      cases report.kind <;> simp [DiagnosticKind.warningsAndErrors]

/-! ## The files -/

theorem mem_recordsOf_iff
    {outputs : List (String × SortedTable String String)} {location : Location}
    {files : SortedTable String String} :
    files ∈ recordsOf outputs location ↔
      ∃ output ∈ outputs, Location.parse? output.1 = some location ∧ output.2 = files := by
  simp [recordsOf, and_assoc]

theorem contains_containerOf_iff
    {location : Location} {files : SortedTable String String} {path : String} :
    (containerOf location files).contains path = true ↔
      ∃ file ∈ files.entries, Path.normalize file.1 = Path.normalize path := by
  unfold containerOf
  rw [Container.contains_writeAll_iff, Container.contains_new]
  simp only [List.mem_map, Bool.false_eq_true, or_false]
  constructor
  · rintro ⟨_, ⟨file, member, rfl⟩, same⟩
    exact ⟨file, member, same⟩
  · rintro ⟨file, member, same⟩
    exact ⟨_, ⟨file, member, rfl⟩, same⟩

namespace Filled

variable {store : Store} {outputs : List (String × SortedTable String String)}

theorem containers_eq
    (filled : Filled store outputs) {location : Location} {group : PackageGroup}
    (known : store.packageGroup? location = some group) :
    group.containers store.shelf = (recordsOf outputs location).map (containerOf location) := by
  rw [← filled.roots location]
  unfold Store.packageGroup? at known
  cases roots : store.roots? location with
  | none => simp [roots] at known
  | some found =>
      rw [roots] at known
      cases known
      rfl

/-- A location is known exactly if a name of an output stands for it. -/
theorem exists_group_iff
    (filled : Filled store outputs) {location : Location} :
    (∃ group, store.packageGroup? location = some group) ↔
      ∃ output ∈ outputs, Location.parse? output.1 = some location := by
  constructor
  · rintro ⟨group, known⟩
    have containers := filled.containers_eq known
    unfold Store.packageGroup? at known
    cases roots : store.roots? location with
    | none => simp [roots] at known
    | some found =>
        rw [roots] at known
        cases known
        obtain ⟨files, member⟩ : ∃ files, files ∈ recordsOf outputs location := by
          apply List.exists_mem_of_ne_nil
          intro none
          rw [none, List.map_nil] at containers
          exact filled.sound.nonempty location found roots (List.map_eq_nil_iff.1 containers)
        obtain ⟨output, inOutputs, stands, _⟩ := mem_recordsOf_iff.1 member
        exact ⟨output, inOutputs, stands⟩
  · rintro ⟨output, inOutputs, stands⟩
    have member : output.2 ∈ recordsOf outputs location :=
      mem_recordsOf_iff.2 ⟨output, inOutputs, stands, rfl⟩
    have roots := filled.roots location
    unfold Store.packageGroup?
    cases known : store.roots? location with
    | some found => exact ⟨_, rfl⟩
    | none =>
        rw [known, Option.getD_none, List.map_nil] at roots
        rw [List.map_eq_nil_iff.1 roots.symm] at member
        cases member

theorem group_contains_iff
    (filled : Filled store outputs) {location : Location} {group : PackageGroup}
    (known : store.packageGroup? location = some group) {path : String} :
    group.contains store.shelf path = true ↔
      ∃ output ∈ outputs, Location.parse? output.1 = some location ∧
        ∃ file ∈ output.2.entries, Path.normalize file.1 = Path.normalize path := by
  unfold PackageGroup.contains
  rw [filled.containers_eq known, List.any_map, List.any_eq_true]
  constructor
  · rintro ⟨files, member, held⟩
    obtain ⟨output, inOutputs, stands, rfl⟩ := mem_recordsOf_iff.1 member
    exact ⟨output, inOutputs, stands, contains_containerOf_iff.1 held⟩
  · rintro ⟨output, inOutputs, stands, written⟩
    exact ⟨output.2, mem_recordsOf_iff.2 ⟨output, inOutputs, stands, rfl⟩,
      contains_containerOf_iff.2 written⟩

end Filled

/-! ## Checking the files -/

section Checking

variable {manager : Manager Store} {world : World Store}

/-- What an open store is asked for a location that holds files, it answers with its roots. -/
theorem getPackageGroup_eq
    (agrees : manager.Agrees Store.manager) (isOpen : world.inner.closed = false)
    {location : Location} (holdsFiles : location.isModuleOriented = false) :
    ∃ after, after.inner = world.inner ∧
      manager (.getPackageGroup location) world =
        (.returned (world.inner.packageGroup? location), after) := by
  obtain ⟨ending, state⟩ := agrees (.getPackageGroup location) world world rfl
  have answered :
      world.inner.perform (.getPackageGroup location) =
        (.ok (world.inner.packageGroup? location), world.inner) := by
    simp [Store.perform, Store.getPackageGroup, isOpen, holdsFiles, Store.answer]
  simp only [Store.manager, answered] at ending state
  exact ⟨_, state, Prod.ext ending rfl⟩

/-- Looking for paths leaves the store alone; whether they are found depends on it only. -/
theorem pathsExist_eq
    (agrees : manager.Agrees Store.manager) (isOpen : world.inner.closed = false)
    (location : Location) (paths : List String) :
    ∃ after, after.inner = world.inner ∧
      Check.pathsExist manager location paths world =
        (if location.isModuleOriented then .error (.moduleOriented location)
        else
          Check.Lookup.allFilesExist ⟨location, world.inner.packageGroup? location⟩
            world.inner.shelf paths, after) := by
  unfold Check.pathsExist Check.Inquiry.packageGroup
  cases holdsFiles : location.isModuleOriented with
  | true => exact ⟨world, rfl, rfl⟩
  | false =>
      obtain ⟨after, unchanged, asked⟩ := getPackageGroup_eq agrees isOpen holdsFiles
      refine ⟨after, unchanged, ?_⟩
      simp [Check.Inquiry.lookUp, asked, unchanged]

theorem pathsExist_ok_iff
    (agrees : manager.Agrees Store.manager)
    (filled : Filled world.inner fixture.outputs.entries) (location : Location)
    (paths : List String) :
    (Check.pathsExist manager location paths world).1 = .ok () ↔
      fixture.Recorded location paths := by
  obtain ⟨after, _, found⟩ := pathsExist_eq agrees filled.isOpen location paths
  rw [found]
  cases holdsFiles : location.isModuleOriented with
  | true =>
      simp only [if_true, reduceCtorEq, false_iff]
      intro recorded
      rw [recorded.holdsFiles] at holdsFiles
      cases holdsFiles
  | false =>
      simp only [Bool.false_eq_true, if_false]
      rw [Check.Lookup.allFilesExist_ok_iff]
      constructor
      · rintro ⟨group, known, allHeld⟩
        refine ⟨holdsFiles, filled.exists_group_iff.1 ⟨group, known⟩, ?_⟩
        intro path member
        exact (filled.group_contains_iff known).1 (allHeld path member)
      · intro recorded
        obtain ⟨group, known⟩ := filled.exists_group_iff.2 recorded.named
        refine ⟨group, known, ?_⟩
        intro path member
        exact (filled.group_contains_iff known).2 (recorded.written path member)

/-- Every path is looked for until one is not found; each finds the store as it was. -/
theorem allPathsExist_ok_iff
    (agrees : manager.Agrees Store.manager)
    (filled : Filled world.inner fixture.outputs.entries)
    (expected : List (Location × List String)) :
    (Check.allPathsExist manager expected world).1 = .ok () ↔
      ∀ entry ∈ expected, fixture.Recorded entry.1 entry.2 := by
  induction expected generalizing world with
  | nil => simp [Check.allPathsExist]
  | cons first others inductionHypothesis =>
      have firstIff := pathsExist_ok_iff agrees filled first.1 first.2
      obtain ⟨after, unchanged, found⟩ := pathsExist_eq agrees filled.isOpen first.1 first.2
      have afterFilled : Filled after.inner fixture.outputs.entries := by
        rw [unchanged]
        exact filled
      rw [found] at firstIff
      simp only [Check.allPathsExist, found, List.forall_mem_cons]
      generalize (if first.1.isModuleOriented then _ else _ : Verdict Unit) = verdict
        at firstIff ⊢
      cases verdict with
      | error complaint => simp [← firstIff]
      | ok passed =>
          rw [inductionHypothesis afterFilled, ← firstIff]
          simp

theorem outcome_ok_iff
    (agrees : manager.Agrees Store.manager)
    (filled : Filled world.inner fixture.outputs.entries)
    (expected : List (Location × List String)) :
    (Check.outcome manager fixture.expectation fixture.compilation expected world).1 = .ok () ↔
      fixture.OutcomeExpected ∧ ∀ entry ∈ expected, fixture.Recorded entry.1 entry.2 := by
  rw [← check_ok_iff, ← allPathsExist_ok_iff agrees filled expected]
  unfold Check.outcome
  cases fixture.expectation.check fixture.compilation with
  | error complaint => simp
  | ok passed => simp

end Checking

theorem forall_expected_iff
    {expected : List (Location × List String)}
    (sameEntries : expected.map (fun entry => (some entry.1, entry.2)) =
      fixture.expectedFiles.entries.map fun entry => (Location.parse? entry.1, entry.2)) :
    (∀ entry ∈ expected, fixture.Recorded entry.1 entry.2) ↔
      ∀ entry ∈ fixture.expectedFiles.entries, ∃ location,
        Location.parse? entry.1 = some location ∧ fixture.Recorded location entry.2 := by
  constructor
  · intro allRecorded entry member
    have inBoth : (Location.parse? entry.1, entry.2) ∈
        expected.map fun entry => (some entry.1, entry.2) := by
      rw [sameEntries]
      exact List.mem_map.2 ⟨entry, member, rfl⟩
    obtain ⟨located, inExpected, same⟩ := List.mem_map.1 inBoth
    obtain ⟨stands, samePaths⟩ := Prod.ext_iff.1 same
    refine ⟨located.1, stands.symm, ?_⟩
    rw [← samePaths]
    exact allRecorded located inExpected
  · intro allRecorded located inExpected
    have inBoth : (some located.1, located.2) ∈
        fixture.expectedFiles.entries.map fun entry => (Location.parse? entry.1, entry.2) := by
      rw [← sameEntries]
      exact List.mem_map.2 ⟨located, inExpected, rfl⟩
    obtain ⟨entry, member, same⟩ := List.mem_map.1 inBoth
    obtain ⟨stands, samePaths⟩ := Prod.ext_iff.1 same
    obtain ⟨location, standsFor, recorded⟩ := allRecorded entry member
    rw [← samePaths, ← Option.some.inj (standsFor.symm.trans stands)]
    exact recorded

/-! ## The verdict -/

variable (fixture)

/-- The outcome of the verification says of the fixture what is recorded in it. -/
structure Judged (outcome : FixtureOutcome) : Prop where
  name : outcome.name = fixture.name
  passed : outcome.passed = true ↔ fixture.Met
  failure : outcome.failure = none ↔ fixture.Met

end Fixture

namespace Verifier

variable (verifier : Verifier) (number : Nat) {fixture : Fixture}

theorem manager_agrees : (verifier.manager number).Agrees Store.manager :=
  Store.aroundAll_agrees _ _

/-- A fixture with a filled file manager is judged, and closing the manager goes well. -/
theorem conclude_judged
    {world : World Store} (filled : Fixture.Filled world.inner fixture.outputs.entries)
    {expected : List (Location × List String)}
    (sameEntries : expected.map (fun entry => (some entry.1, entry.2)) =
      fixture.expectedFiles.entries.map fun entry => (Location.parse? entry.1, entry.2)) :
    ∃ outcome, (verifier.conclude number fixture expected world).1 = .ok outcome ∧
      fixture.Judged outcome := by
  have agrees := verifier.manager_agrees number
  have checkedIff := Fixture.outcome_ok_iff agrees filled expected
  rw [Fixture.forall_expected_iff sameEntries] at checkedIff
  have metIff : fixture.OutcomeExpected ∧ _ ↔ fixture.Met :=
    ⟨fun facts => ⟨facts.1, facts.2⟩, fun met => ⟨met.outcome, met.files⟩⟩
  rw [metIff] at checkedIff
  unfold conclude
  dsimp only
  generalize Check.outcome _ _ _ _ world = checked at checkedIff ⊢
  have closed : (verifier.manager number .close checked.2).1 = .returned () :=
    (agrees .close checked.2 checked.2 rfl).1
  rw [closed]
  -- The complaint decides both fields of the outcome, so both are read off the one check.
  cases result : checked.1 with
  | error complaint =>
      rw [result] at checkedIff
      have notMet : ¬ fixture.Met := fun met => nomatch checkedIff.2 met
      exact ⟨_, rfl, rfl, by simp [notMet], by simp [notMet]⟩
  | ok passed =>
      rw [result] at checkedIff
      have met : fixture.Met := checkedIff.1 rfl
      exact ⟨_, rfl, rfl, by simp [met], by simp [met]⟩

/-- A fixture is judged unless a name in it has a trouble; then the first one is the answer. -/
theorem verifyOne_answer (fixture : Fixture) (journal : Log.Journal) :
    match (fixture.outputs.keys.findSome? Location.outputTrouble?).or
        (fixture.expectedFiles.keys.findSome? Location.nameTrouble?) with
    | some trouble => (verifier.verifyOne number fixture journal).1 = .error trouble
    | none => ∃ outcome, (verifier.verifyOne number fixture journal).1 = .ok outcome ∧
        fixture.Judged outcome := by
  have filling := fixture.filled_store
  have placing := fixture.expectedPaths_eq
  cases outputTrouble : fixture.outputs.keys.findSome? Location.outputTrouble? with
  | some trouble =>
      rw [outputTrouble] at filling
      simp [verifyOne, filling]
  | none =>
      rw [outputTrouble] at filling
      obtain ⟨full, stored, filled⟩ := filling
      cases nameTrouble : fixture.expectedFiles.keys.findSome? Location.nameTrouble? with
      | some trouble =>
          rw [nameTrouble] at placing
          simp [verifyOne, stored, placing]
      | none =>
          rw [nameTrouble] at placing
          obtain ⟨expected, placed, sameEntries⟩ := placing
          simp only [Option.or_none, verifyOne, stored, placed]
          exact verifier.conclude_judged number filled sameEntries

/-- **Verdicts are the recorded facts.** The verification of a fixture ends with a trouble exactly
if that is the trouble of the first name in it that has one; otherwise the fixture passes, and has
no complaint, exactly if everything that is expected of it is the case. -/
theorem verdict_states_recorded_facts (fixture : Fixture) (journal : Log.Journal) :
    (∀ trouble, (verifier.verifyOne number fixture journal).1 = .error trouble ↔
      fixture.HasTrouble trouble) ∧
    ∀ outcome, (verifier.verifyOne number fixture journal).1 = .ok outcome →
      fixture.Judged outcome := by
  have answer := verifier.verifyOne_answer number fixture journal
  cases found : (fixture.outputs.keys.findSome? Location.outputTrouble?).or
      (fixture.expectedFiles.keys.findSome? Location.nameTrouble?) with
  | some first =>
      rw [found] at answer
      constructor
      · intro trouble
        rw [Fixture.hasTrouble_iff, found, answer, Except.error.injEq, Option.some.injEq]
      · intro outcome judged
        rw [answer] at judged
        cases judged
  | none =>
      rw [found] at answer
      obtain ⟨outcome, judgedSo, judged⟩ := answer
      constructor
      · intro trouble
        rw [Fixture.hasTrouble_iff, found, judgedSo]
        simp
      · intro other same
        rw [judgedSo] at same
        cases same
        exact judged

/-- Two names stand for one location, which is expected under a third one, and a path is spelled
in two ways. -/
def aliased : Fixture where
  name := "aliased"
  release := "17"
  successful := true
  failOnWarnings := false
  diagnostics := []
  outputLines := []
  outputs := .ofList
    [("class_output", .ofList [("p/A.class", "")]), (" CLASS_OUTPUT", .ofList [("B.class", "")])]
  expectation := .successWithoutWarnings
  expectedFiles := .ofList [("Class_Output", ["p\\.\\A.class", "B.class"])]

theorem verdict_states_recorded_facts_aliased :
    let verifier : Verifier := ⟨.enabled, .memory .trace, ⟨none, []⟩⟩
    (verifier.verifyOne 0 aliased .start).1 = .ok ⟨"aliased", true, none⟩ ∧ aliased.Met := by
  have passes :
      ((⟨.enabled, .memory .trace, ⟨none, []⟩⟩ : Verifier).verifyOne 0 aliased .start).1 =
        .ok ⟨"aliased", true, none⟩ := rfl
  have judged := (verdict_states_recorded_facts _ 0 aliased .start).2 _ passes
  exact ⟨passes, judged.passed.1 rfl⟩

end Verifier

end CompilationChecks
