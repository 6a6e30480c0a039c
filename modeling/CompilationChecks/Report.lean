import CompilationChecks.Text.Inspection
import CompilationChecks.Text.Quoted

/-!
The report on a verification: what became of each fixture, and how many passed and failed.
-/

namespace CompilationChecks

/-- What became of one fixture. -/
structure FixtureOutcome where
  /-- The name of the fixture. -/
  name : String
  /-- Whether its expectations were met. -/
  passed : Bool
  /-- The complaint, if they were not. -/
  failure : Option String
  deriving DecidableEq, Repr

/-- The outcome as log entries show it inside values. -/
def FixtureOutcome.inspect (outcome : FixtureOutcome) : String :=
  Inspection.record "FixtureOutcome"
    [("name", Text.quoted outcome.name), ("passed", Inspection.flag outcome.passed),
      ("failure", Inspection.option (outcome.failure.map Text.quoted))]

/-- The report on several fixtures. -/
structure Report where
  /-- The mode in which the calls to the file managers were logged. -/
  logging : String
  /-- The number of fixtures. -/
  total : Nat
  /-- The number of those that passed. -/
  passed : Nat
  /-- The number of those that failed. -/
  failed : Nat
  /-- What became of each fixture, in order. -/
  outcomes : List FixtureOutcome
  deriving DecidableEq, Repr

namespace Report

/-- The report on some outcomes. -/
def ofOutcomes (logging : String) (outcomes : List FixtureOutcome) : Report where
  logging := logging
  total := outcomes.length
  passed := (outcomes.filter FixtureOutcome.passed).length
  failed := outcomes.length - (outcomes.filter FixtureOutcome.passed).length
  outcomes := outcomes

/-- Whether no fixture failed. -/
def allPassed (report : Report) : Bool :=
  report.failed == 0

/-- The report as log entries show it inside values. -/
def inspect (report : Report) : String :=
  Inspection.record "FixtureReport"
    [("logging", Text.quoted report.logging), ("total", toString report.total),
      ("passed", toString report.passed), ("failed", toString report.failed),
      ("outcomes", Inspection.list (report.outcomes.map FixtureOutcome.inspect))]

end Report

end CompilationChecks
