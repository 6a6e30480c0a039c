import CompilationChecks.Json.Decode
import CompilationChecks.Json.Value
import CompilationChecks.Report

/-!
Reports on verifications as JSON.
-/

namespace CompilationChecks

namespace FixtureOutcome

/-- The members of an outcome. An outcome without a complaint has no such member. -/
def members (outcome : FixtureOutcome) : List (String × Json.Value) :=
  [("name", .text outcome.name), ("passed", .flag outcome.passed)] ++
    Json.Value.optionalMember "failure" .text outcome.failure

/-- An outcome as JSON. -/
def encode (outcome : FixtureOutcome) : Json.Value :=
  .object outcome.members

/-- A complaint that may be absent. -/
def decodeFailure : Json.Outline → Json.Decoded (Option String) :=
  Json.decodeOptional Json.decodeText

/-- The fields of an outcome. -/
def fields : List Json.Field :=
  [.needed "name" Json.decodeText, .needed "passed" Json.decodeFlag, .spare "failure" decodeFailure]

/-- An outcome from JSON. -/
def decode (value : Json.Outline) : Json.Decoded FixtureOutcome := do
  let picked ← Json.pickFields "FixtureOutcome" fields value
  return {
    name := ← picked.needed "name" Json.decodeText
    passed := ← picked.needed "passed" Json.decodeFlag
    failure := ← picked.spare "failure" decodeFailure none }

end FixtureOutcome

namespace Report

/-- The members of a report. -/
def members (report : Report) : List (String × Json.Value) :=
  [("logging", .text report.logging), ("total", .natural report.total),
    ("passed", .natural report.passed), ("failed", .natural report.failed),
    ("outcomes", .list (report.outcomes.map FixtureOutcome.encode))]

/-- A report as JSON. -/
def encode (report : Report) : Json.Value :=
  .object report.members

/-- Several outcomes. -/
def decodeOutcomes : Json.Outline → Json.Decoded (List FixtureOutcome) :=
  Json.decodeList FixtureOutcome.decode

/-- The fields of a report. -/
def fields : List Json.Field :=
  [.needed "logging" Json.decodeText, .needed "total" Json.decodeSize,
    .needed "passed" Json.decodeSize, .needed "failed" Json.decodeSize,
    .needed "outcomes" decodeOutcomes]

/-- A report from JSON. -/
def decode (value : Json.Outline) : Json.Decoded Report := do
  let picked ← Json.pickFields "FixtureReport" fields value
  return {
    logging := ← picked.needed "logging" Json.decodeText
    total := ← picked.needed "total" Json.decodeSize
    passed := ← picked.needed "passed" Json.decodeSize
    failed := ← picked.needed "failed" Json.decodeSize
    outcomes := ← picked.needed "outcomes" decodeOutcomes }

/-- The text that holds a report. -/
def text (report : Report) : String :=
  report.encode.pretty

end Report

end CompilationChecks
