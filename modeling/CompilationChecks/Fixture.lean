import CompilationChecks.Diagnostic
import CompilationChecks.SortedTable

/-!
Fixtures: recorded outcomes of a compiler, each with the files that the compiler wrote and with
what is expected of the outcome.
-/

namespace CompilationChecks

/-- What is expected of the outcome of a compiler. -/
inductive Expectation where
  | success
  | successWithoutWarnings
  | failure
  deriving DecidableEq, Repr

namespace Expectation

/-- Every expectation. -/
def all : List Expectation :=
  [.success, .successWithoutWarnings, .failure]

/-- The name of an expectation. -/
def name : Expectation → String
  | .success => "success"
  | .successWithoutWarnings => "success_without_warnings"
  | .failure => "failure"

/-- The expectation as log entries show it inside values. -/
def inspect : Expectation → String
  | .success => "Success"
  | .successWithoutWarnings => "SuccessWithoutWarnings"
  | .failure => "Failure"

end Expectation

/-- A recorded outcome and what is expected of it. -/
structure Fixture where
  /-- The name of the fixture. -/
  name : String
  /-- The release that the file manager reports. -/
  release : String
  /-- Whether the compiler succeeded. -/
  successful : Bool
  /-- Whether warnings counted as errors. -/
  failOnWarnings : Bool
  /-- What the compiler reported, in order. -/
  diagnostics : List Diagnostic
  /-- The lines that the compiler printed. -/
  outputLines : List String
  /-- The text of every file that the compiler wrote, by the name of its location and its path. -/
  outputs : SortedTable String (SortedTable String String)
  /-- What is expected of the outcome. -/
  expectation : Expectation
  /-- The paths that must exist afterwards, by the name of their location. -/
  expectedFiles : SortedTable String (List String)
  deriving DecidableEq, Repr

/-- Several fixtures. -/
structure FixtureSet where
  /-- The version of the notation that the fixtures are written in. -/
  version : String
  /-- The fixtures in the order in which they are verified. -/
  fixtures : List Fixture
  deriving DecidableEq, Repr

namespace Fixture

/-- The release of a fixture that names none. -/
def defaultRelease : String :=
  "17"

/-- The fixture as log entries show it inside values. -/
def inspect (fixture : Fixture) : String :=
  Inspection.record "CompilationFixture"
    [("name", Text.quoted fixture.name), ("release", Text.quoted fixture.release),
      ("successful", Inspection.flag fixture.successful),
      ("fail_on_warnings", Inspection.flag fixture.failOnWarnings),
      ("diagnostics", Inspection.list (fixture.diagnostics.map Diagnostic.inspect)),
      ("output_lines", Inspection.list (fixture.outputLines.map Text.quoted)),
      ("outputs", Inspection.table (fixture.outputs.entries.map fun output =>
        (Text.quoted output.1, Inspection.table (output.2.entries.map fun file =>
          (Text.quoted file.1, Text.quoted file.2))))),
      ("expect", fixture.expectation.inspect),
      ("expected_files", Inspection.table (fixture.expectedFiles.entries.map fun expected =>
        (Text.quoted expected.1, Inspection.list (expected.2.map Text.quoted))))]

end Fixture

/-- The set as log entries show it inside values. -/
def FixtureSet.inspect (set : FixtureSet) : String :=
  Inspection.record "FixtureSet"
    [("version", Text.quoted set.version),
      ("fixtures", Inspection.list (set.fixtures.map Fixture.inspect))]

end CompilationChecks
