import CompilationChecks.Codec.Diagnostic
import CompilationChecks.Fixture

/-!
Fixtures as JSON. Every member but the expected files is always written; most of them may be left
out when read, and then have a plain value.
-/

namespace CompilationChecks

namespace Expectation

/-- An expectation as JSON: its name. -/
def encode (expectation : Expectation) : Json.Value :=
  .text expectation.name

/-- An expectation from JSON. -/
def decode : Json.Outline → Json.Decoded Expectation :=
  Json.decodeNamed (all.map fun expectation => (expectation.name, expectation))
    (all.map Expectation.name)

end Expectation

namespace Fixture

/-- Expected files as JSON, if there are any. -/
def encodeExpectedFiles (expectedFiles : SortedTable String (List String)) :
    List (String × Json.Value) :=
  if expectedFiles.isEmpty then []
  else
    [("expected_files",
      Json.Value.ofEntries (fun paths => .list (paths.map .text)) expectedFiles.entries)]

/-- The members of a fixture. -/
def members (fixture : Fixture) : List (String × Json.Value) :=
  [("name", .text fixture.name), ("release", .text fixture.release),
    ("successful", .flag fixture.successful),
    ("fail_on_warnings", .flag fixture.failOnWarnings),
    ("diagnostics", .list (fixture.diagnostics.map Diagnostic.encode)),
    ("output_lines", .list (fixture.outputLines.map .text)),
    ("outputs", Json.Value.ofEntries
      (fun files => Json.Value.ofEntries .text files.entries) fixture.outputs.entries),
    ("expect", fixture.expectation.encode)] ++
    encodeExpectedFiles fixture.expectedFiles

/-- A fixture as JSON. -/
def encode (fixture : Fixture) : Json.Value :=
  .object fixture.members

/-- Several texts. -/
def decodeTexts : Json.Outline → Json.Decoded (List String) :=
  Json.decodeList Json.decodeText

/-- Several reports. -/
def decodeDiagnostics : Json.Outline → Json.Decoded (List Diagnostic) :=
  Json.decodeList Diagnostic.decode

/-- Files with their texts, by location and path. -/
def decodeOutputs : Json.Outline → Json.Decoded (SortedTable String (SortedTable String String)) :=
  Json.decodeTable (Json.decodeTable Json.decodeText)

/-- Expected paths by location. -/
def decodeExpectedFiles : Json.Outline → Json.Decoded (SortedTable String (List String)) :=
  Json.decodeTable decodeTexts

/-- The fields of a fixture. -/
def fields : List Json.Field :=
  [.needed "name" Json.decodeText, .spare "release" Json.decodeText,
    .needed "successful" Json.decodeFlag, .spare "fail_on_warnings" Json.decodeFlag,
    .spare "diagnostics" decodeDiagnostics, .spare "output_lines" decodeTexts,
    .spare "outputs" decodeOutputs, .needed "expect" Expectation.decode,
    .spare "expected_files" decodeExpectedFiles]

/-- A fixture from JSON. -/
def decode (value : Json.Outline) : Json.Decoded Fixture := do
  let picked ← Json.pickFields "CompilationFixture" fields value
  return {
    name := ← picked.needed "name" Json.decodeText
    release := ← picked.spare "release" Json.decodeText defaultRelease
    successful := ← picked.needed "successful" Json.decodeFlag
    failOnWarnings := ← picked.spare "fail_on_warnings" Json.decodeFlag false
    diagnostics := ← picked.spare "diagnostics" decodeDiagnostics []
    outputLines := ← picked.spare "output_lines" decodeTexts []
    outputs := ← picked.spare "outputs" decodeOutputs .empty
    expectation := ← picked.needed "expect" Expectation.decode
    expectedFiles := ← picked.spare "expected_files" decodeExpectedFiles .empty }

end Fixture

namespace FixtureSet

/-- The members of a set whose fixtures are given as JSON. -/
def members (version : String) (fixtures : List Json.Value) : List (String × Json.Value) :=
  [("version", .text version), ("fixtures", .list fixtures)]

/-- A set as JSON. -/
def encode (set : FixtureSet) : Json.Value :=
  .object (members set.version (set.fixtures.map Fixture.encode))

/-- Several fixtures. -/
def decodeFixtures : Json.Outline → Json.Decoded (List Fixture) :=
  Json.decodeList Fixture.decode

/-- The fields of a set. -/
def fields : List Json.Field :=
  [.needed "version" Json.decodeText, .needed "fixtures" decodeFixtures]

/-- A set from JSON. -/
def decode (value : Json.Outline) : Json.Decoded FixtureSet := do
  let picked ← Json.pickFields "FixtureSet" fields value
  let version ← picked.needed "version" Json.decodeText
  let fixtures ← picked.needed "fixtures" decodeFixtures
  return ⟨version, fixtures⟩

/-- The set that a text holds. -/
def ofText (text : String) : Json.Decoded FixtureSet :=
  Json.decode decode text

/-- The text that holds a set. -/
def text (set : FixtureSet) : String :=
  set.encode.pretty

end FixtureSet

end CompilationChecks
