import CompilationChecks.Check.Outcome
import CompilationChecks.Codec.Fixture
import CompilationChecks.LoggingMode
import CompilationChecks.Report

/-!
The verification of fixtures. For each fixture a file manager in memory is filled with the files
that the compiler wrote, the outcome is checked over that manager, and the manager is closed. A
fixture whose expectations are not met fails with the first complaint; a fixture that cannot be
checked at all ends the verification.
-/

namespace CompilationChecks

/-- Why there is no text at a path. -/
inductive FileTrouble where
  | missing
  | notText
  deriving DecidableEq, Repr

/-- The text that explains why there is no text. -/
def FileTrouble.message : FileTrouble → String
  | .missing => "No such file or directory (os error 2)"
  | .notText => "stream did not contain valid UTF-8"

/-- Why fixtures cannot be verified. -/
inductive Trouble where
  /-- The fixtures cannot be read. -/
  | unreadable (trouble : FileTrouble)
  /-- The text holds no fixtures. -/
  | refused (refusal : Json.Refusal)
  /-- A name that should stand for a location does not. -/
  | unknownLocation (name : String)
  /-- The file manager failed outside a check. -/
  | manager (failure : Failure)
  deriving Repr

namespace Trouble

/-- The text of a trouble. -/
def message : Trouble → String
  | .unreadable trouble => "io: " ++ trouble.message
  | .refused (.mismatch mismatch) => "json: " ++ mismatch.message
  | .refused .malformed => "json: malformed text"
  | .refused .ended => "json: the text ends too early"
  | .unknownLocation name => "unknown location " ++ Text.quoted name
  | .manager failure => "file manager: " ++ failure.message

end Trouble

/-- The location that a name stands for. -/
def Location.ofName (name : String) : Except Trouble Location :=
  match Location.parse? name with
  | some location => .ok location
  | none => .error (.unknownLocation name)

namespace FixtureSet

/-- The set in the text of a file. -/
def ofContent (content : Except FileTrouble String) : Except Trouble FixtureSet :=
  match content with
  | .error trouble => .error (.unreadable trouble)
  | .ok text => (FixtureSet.ofText text).mapError .refused

/-- The text of a file, given the bytes in it if the file exists. -/
def contentText (content : Option Bytes) : Except FileTrouble String :=
  match content with
  | none => .error .missing
  | some bytes =>
    match Utf8.decode? bytes with
    | some text => .ok text
    | none => .error .notText

end FixtureSet

namespace Fixture

/-! ## Building -/

/-- Files with their texts as a container that carries the name of their location. -/
def containerOf (location : Location) (files : SortedTable String String) : Container :=
  (Container.new location.name).writeAll
    (files.entries.map fun file => (file.1, Utf8.encode file.2))

/-- Adds a container to a location. A module is added through its parent. -/
def registration (location : Location) (id : ContainerId) (store : Store) : Store.Step Unit :=
  match location with
  | .standard _ => store.addContainer location id
  | .module parent moduleName => store.addModuleContainer (.standard parent) moduleName id

/-- The store with the files of one location more. -/
def populate (store : Store) (location : Location) (files : SortedTable String String) :
    Except Trouble Store :=
  match registration location store.shelf.size (store.place (containerOf location files)) with
  | (.ok (), filled) => .ok filled
  | (.error failure, _) => .error (.manager failure)

/-- The file manager of a fixture, with all files that the compiler wrote. -/
def store (fixture : Fixture) : Except Trouble Store :=
  fixture.outputs.entries.foldlM
    (fun filled output => do populate filled (← Location.ofName output.1) output.2)
    (Store.new fixture.release)

/-- The outcome that a fixture records. -/
def compilation (fixture : Fixture) : Compilation :=
  ⟨fixture.successful, fixture.failOnWarnings, fixture.diagnostics, fixture.outputLines⟩

/-- The paths that must exist, by location. -/
def expectedPaths (fixture : Fixture) : Except Trouble (List (Location × List String)) :=
  fixture.expectedFiles.entries.mapM fun expected => do
    return (← Location.ofName expected.1, expected.2)

end Fixture

/-! ## Checking -/

namespace Expectation

/-- The check that an expectation stands for. -/
def check (expectation : Expectation) (compilation : Compilation) : Verdict Unit :=
  match expectation with
  | .success => compilation.isSuccessful
  | .successWithoutWarnings => compilation.isSuccessfulWithoutWarnings
  | .failure => compilation.hasFailed

end Expectation

namespace Check

/-- Each of several paths exists in a location. -/
def pathsExist (manager : Manager Store) (location : Location) (paths : List String) :
    Inquiry Store Unit := fun world =>
  match Inquiry.packageGroup manager location world with
  | (.error complaint, after) => (.error complaint, after)
  | (.ok lookup, after) => (lookup.allFilesExist after.inner.shelf paths, after)

/-- Each of several paths exists in its location. The first complaint ends the check. -/
def allPathsExist (manager : Manager Store) :
    List (Location × List String) → Inquiry Store Unit
  | [], world => (.ok (), world)
  | expected :: others, world =>
    match pathsExist manager expected.1 expected.2 world with
    | (.error complaint, after) => (.error complaint, after)
    | (.ok (), after) => allPathsExist manager others after

/-- An outcome is as expected, and then each of several paths exists in its location. -/
def outcome (manager : Manager Store) (expectation : Expectation) (compilation : Compilation)
    (expected : List (Location × List String)) : Inquiry Store Unit := fun world =>
  match expectation.check compilation with
  | .error complaint => (.error complaint, world)
  | .ok () => allPathsExist manager expected world

end Check

/-! ## Running -/

/-- How fixtures are verified. -/
structure Verifier where
  /-- How the calls to the file managers are logged. -/
  mode : LoggingMode
  /-- Where the log goes. -/
  sink : Log.Sink
  /-- What the process finds around it. -/
  surroundings : Log.Surroundings
  deriving DecidableEq, Repr

namespace Verifier

/-- The delegates around the file manager of the fixture with a number. -/
def delegates (verifier : Verifier) (number : Nat) : List Delegate :=
  verifier.mode.delegates number verifier.sink

/-- The file manager of the fixture with a number. -/
def manager (verifier : Verifier) (number : Nat) : Manager Store :=
  Delegate.aroundAll (verifier.delegates number) verifier.surroundings Store.shelf Store.manager

/-- The notice about the complaint of a fixture, or about its absence. -/
def notice (fixture : Fixture) (failure : Option String) : Log.Notice :=
  match failure with
  | none => .fixturePassed fixture.name
  | some message => .fixtureFailed fixture.name message

/-- Checks a fixture over its file manager and closes the manager. -/
def conclude (verifier : Verifier) (number : Nat) (fixture : Fixture)
    (expected : List (Location × List String)) (world : World Store) :
    Except Trouble FixtureOutcome × Log.Journal :=
  let manager := verifier.manager number
  let checked :=
    Check.outcome manager fixture.expectation fixture.compilation expected world
  let closed := manager .close checked.2
  let failure :=
    match checked.1 with
    | .ok () => none
    | .error complaint => some complaint.message
  let journal := closed.2.journal.notice verifier.surroundings (notice fixture failure)
  match closed.1 with
  | .failed trouble => (.error (.manager trouble), journal)
  | _ => (.ok ⟨fixture.name, failure.isNone, failure⟩, journal)

/-- Verifies one fixture, which has a number of its own. -/
def verifyOne (verifier : Verifier) (number : Nat) (fixture : Fixture) (journal : Log.Journal) :
    Except Trouble FixtureOutcome × Log.Journal :=
  match fixture.store with
  | .error trouble => (.error trouble, journal)
  | .ok store =>
    let identity := Delegate.displayAll (verifier.delegates number) store.display
    let built :=
      journal.notice verifier.surroundings (.compilationBuilt fixture.name identity)
    match fixture.expectedPaths with
    | .error trouble => (.error trouble, built)
    | .ok expected => verifier.conclude number fixture expected ⟨built, store⟩

/-- Verifies fixtures in order; the first has the given number. A trouble ends it. -/
def verifyFrom (verifier : Verifier) :
    Nat → List Fixture → Log.Journal → Except Trouble (List FixtureOutcome) × Log.Journal
  | _, [], journal => (.ok [], journal)
  | number, fixture :: others, journal =>
    match verifier.verifyOne number fixture journal with
    | (.error trouble, after) => (.error trouble, after)
    | (.ok outcome, after) =>
      match verifier.verifyFrom (number + 1) others after with
      | (.error trouble, last) => (.error trouble, last)
      | (.ok outcomes, last) => (.ok (outcome :: outcomes), last)

/-- Verifies all fixtures of a set in a process that has just begun. -/
def verify (verifier : Verifier) (set : FixtureSet) :
    Except Trouble (List FixtureOutcome) × Log.Journal :=
  verifier.verifyFrom 0 set.fixtures .start

/-- The report on outcomes. -/
def report (verifier : Verifier) (outcomes : List FixtureOutcome) : Report :=
  .ofOutcomes verifier.mode.name outcomes

end Verifier

end CompilationChecks
