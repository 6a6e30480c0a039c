import CompilationChecks.Codec.Fixture
import CompilationChecks.Codec.Location
import CompilationChecks.Codec.Report
import CompilationChecks.Proofs.Json.Records

/-!
# Recovering data from its text

Fixtures, reports, diagnostics, locations and file references are written so that nothing is lost:
whoever reads the text gets the data back, in either layout. A fixture is also recovered if some of
its members are left out, as long as each of them says what a reader presumes without it.
-/

namespace CompilationChecks

open Json

/-! ## Diagnostics -/

namespace DiagnosticKind

theorem mem_all (kind : DiagnosticKind) : kind ∈ all := by
  cases kind <;> decide

theorem decode_outline (kind : DiagnosticKind) : decode kind.encode.outline = .ok kind :=
  decodeNamed_outline _ (by decide) kind.mem_all

end DiagnosticKind

namespace Diagnostic

theorem names_members (diagnostic : Diagnostic) :
    (diagnostic.members.map Prod.fst).Sublist (fields.map Field.name) := by
  simp only [members, List.map_append]
  exact (((((List.Sublist.refl ["kind"]).append
    (names_optionalMember "code" .text diagnostic.code)).append
    (List.Sublist.refl ["message"])).append
    (names_optionalMember "source" .text diagnostic.source)).append
    (names_optionalMember "line" encodeNumber diagnostic.line)).append
    (names_optionalMember "column" encodeNumber diagnostic.column)

theorem decode_outline (diagnostic : Diagnostic) :
    decode diagnostic.encode.outline = .ok diagnostic := by
  have kind : (outlines diagnostic.members).needed "kind" DiagnosticKind.decode =
      .ok diagnostic.kind :=
    needed_of_lookup rfl diagnostic.kind.decode_outline
  have code : (outlines diagnostic.members).spare "code" decodeText none =
      .ok diagnostic.code :=
    spare_of_optional (by simp [members, List.lookup_append, List.lookup_cons]) decodeText_outline
  have message : (outlines diagnostic.members).needed "message" Json.decodeText =
      .ok diagnostic.message :=
    needed_of_lookup (by simp [members, List.lookup_append, List.lookup_cons])
      (decodeText_outline diagnostic.message)
  have source : (outlines diagnostic.members).spare "source" decodeText none =
      .ok diagnostic.source :=
    spare_of_optional (by simp [members, List.lookup_append, List.lookup_cons]) decodeText_outline
  have number : ∀ value, decodeWide (encodeNumber value).outline = .ok value := decodeWide_outline
  have line : (outlines diagnostic.members).spare "line" decodeNumber none =
      .ok diagnostic.line :=
    spare_of_optional (by simp [members, List.lookup_append, List.lookup_cons]) number
  have column : (outlines diagnostic.members).spare "column" decodeNumber none =
      .ok diagnostic.column :=
    spare_of_optional (by simp [members, List.lookup_append, List.lookup_cons]) number
  have admitted : ∀ field ∈ fields, field.Admits (outlines diagnostic.members) := by
    simp only [fields, List.forall_mem_cons]
    exact ⟨.of_needed kind, .of_spare code, .of_needed message,
      .of_spare source, .of_spare line, .of_spare column,
      List.forall_mem_nil _⟩
  obtain ⟨picked, picks, same⟩ :=
    pickFields_object "Diagnostic" fields _ (by decide) diagnostic.names_members admitted
  simp only [decode, encode, picks, ok_bind, same.needed, same.spare, kind, code, message, source,
    line, column]
  rfl

end Diagnostic

/-! ## Locations and file references -/

namespace Location

theorem Standard.decode_outline (root : Standard) :
    Standard.decode root.encode.outline = .ok root :=
  decodeNamed_outline _ (by decide) root.mem_all

theorem decodeModule_outline (parent : Standard) (moduleName : String) :
    decodeModule (encodeModule parent moduleName).outline = .ok (.module parent moduleName) := by
  have parentRead : (outlines (moduleMembers parent moduleName)).needed "parent" Standard.decode =
      .ok parent :=
    needed_of_lookup rfl parent.decode_outline
  have nameRead : (outlines (moduleMembers parent moduleName)).needed "module_name" decodeText =
      .ok moduleName :=
    needed_of_lookup rfl (decodeText_outline moduleName)
  have admitted : ∀ field ∈ moduleFields,
      field.Admits (outlines (moduleMembers parent moduleName)) := by
    simp only [moduleFields, List.forall_mem_cons]
    exact ⟨.of_needed parentRead, .of_needed nameRead, List.forall_mem_nil _⟩
  obtain ⟨picked, picks, same⟩ :=
    pickFields_object "ModuleLocation" moduleFields _ (by decide) (List.Sublist.refl _) admitted
  simp only [decodeModule, encodeModule, picks, ok_bind, same.needed, parentRead, nameRead]
  rfl

theorem decode_outline (location : Location) : decode location.encode.outline = .ok location := by
  cases location with
  | standard root =>
      have content : (Standard.decode root.encode.outline).map Location.standard =
          .ok (.standard root) := by
        rw [root.decode_outline]
        rfl
      have formed : decode (encode (.standard root)).outline =
          (Standard.decode root.encode.outline).map Location.standard >>= .ok := rfl
      rw [formed, content]
      rfl
  | module parent moduleName =>
      have formed : decode (encode (.module parent moduleName)).outline =
          decodeModule (encodeModule parent moduleName).outline >>= .ok := rfl
      rw [formed, decodeModule_outline]
      rfl

end Location

namespace FileKind

theorem mem_all (kind : FileKind) : kind ∈ all := by
  cases kind <;> decide

theorem decode_outline (kind : FileKind) : decode kind.encode.outline = .ok kind :=
  decodeNamed_outline _ (by decide) kind.mem_all

end FileKind

theorem FileRef.decode_outline (file : FileRef) : decode file.encode.outline = .ok file := by
  have location : (outlines file.members).needed "location" Location.decode = .ok file.location :=
    needed_of_lookup rfl file.location.decode_outline
  have container : (outlines file.members).needed "container" decodeText = .ok file.container :=
    needed_of_lookup rfl (decodeText_outline file.container)
  have path : (outlines file.members).needed "path" decodeText = .ok file.path :=
    needed_of_lookup rfl (decodeText_outline file.path)
  have kind : (outlines file.members).needed "kind" FileKind.decode = .ok file.kind :=
    needed_of_lookup rfl file.kind.decode_outline
  have admitted : ∀ field ∈ fields, field.Admits (outlines file.members) := by
    simp only [fields, List.forall_mem_cons]
    exact ⟨.of_needed location, .of_needed container, .of_needed path, .of_needed kind,
      List.forall_mem_nil _⟩
  obtain ⟨picked, picks, same⟩ :=
    pickFields_object "FileObject" fields _ (by decide) (List.Sublist.refl _) admitted
  simp only [decode, encode, picks, ok_bind, same.needed, location, container, path, kind]
  rfl

/-! ## Reports -/

theorem FixtureOutcome.decode_outline (outcome : FixtureOutcome) :
    decode outcome.encode.outline = .ok outcome := by
  have name : (outlines outcome.members).needed "name" decodeText = .ok outcome.name :=
    needed_of_lookup rfl (decodeText_outline outcome.name)
  have passed : (outlines outcome.members).needed "passed" decodeFlag = .ok outcome.passed :=
    needed_of_lookup rfl (decodeFlag_outline outcome.passed)
  have failure : (outlines outcome.members).spare "failure" decodeFailure none =
      .ok outcome.failure :=
    spare_of_optional (by simp [members, List.lookup_cons]) decodeText_outline
  have names : (outcome.members.map Prod.fst).Sublist (fields.map Field.name) :=
    (List.Sublist.refl ["name", "passed"]).append
      (names_optionalMember "failure" .text outcome.failure)
  have admitted : ∀ field ∈ fields, field.Admits (outlines outcome.members) := by
    simp only [fields, List.forall_mem_cons]
    exact ⟨.of_needed name, .of_needed passed, .of_spare failure, List.forall_mem_nil _⟩
  obtain ⟨picked, picks, same⟩ :=
    pickFields_object "FixtureOutcome" fields _ (by decide) names admitted
  simp only [decode, encode, picks, ok_bind, same.needed, same.spare, name, passed, failure]
  rfl

namespace Report

/-- The numbers of a report are numbers of things that a machine can count. -/
structure Countable (report : Report) : Prop where
  total : report.total < UInt64.size
  passed : report.passed < UInt64.size
  failed : report.failed < UInt64.size

theorem decode_outline {report : Report} (countable : report.Countable) :
    decode report.encode.outline = .ok report := by
  have logging : (outlines report.members).needed "logging" decodeText = .ok report.logging :=
    needed_of_lookup rfl (decodeText_outline report.logging)
  have total : (outlines report.members).needed "total" decodeSize = .ok report.total :=
    needed_of_lookup rfl (decodeSize_outline countable.total)
  have passed : (outlines report.members).needed "passed" decodeSize = .ok report.passed :=
    needed_of_lookup rfl (decodeSize_outline countable.passed)
  have failed : (outlines report.members).needed "failed" decodeSize = .ok report.failed :=
    needed_of_lookup rfl (decodeSize_outline countable.failed)
  have outcomes : (outlines report.members).needed "outcomes" decodeOutcomes =
      .ok report.outcomes :=
    needed_of_lookup rfl (decodeList_map FixtureOutcome.decode_outline report.outcomes)
  have admitted : ∀ field ∈ fields, field.Admits (outlines report.members) := by
    simp only [fields, List.forall_mem_cons]
    exact ⟨.of_needed logging, .of_needed total, .of_needed passed, .of_needed failed,
      .of_needed outcomes, List.forall_mem_nil _⟩
  obtain ⟨picked, picks, same⟩ :=
    pickFields_object "FixtureReport" fields _ (by decide) (List.Sublist.refl _) admitted
  simp only [decode, encode, picks, ok_bind, same.needed, logging, total, passed, failed, outcomes]
  rfl

end Report

/-! ## Fixtures -/

namespace Expectation

theorem mem_all (expectation : Expectation) : expectation ∈ all := by
  cases expectation <;> decide

theorem decode_outline (expectation : Expectation) :
    decode expectation.encode.outline = .ok expectation :=
  decodeNamed_outline _ (by decide) expectation.mem_all

end Expectation

namespace Fixture

/-- The members that a reader presumes where they are missing. -/
def presumed : List (String × Value) :=
  [("release", .text defaultRelease), ("fail_on_warnings", .flag false), ("diagnostics", .list []),
    ("output_lines", .list []), ("outputs", .object []), ("expected_files", .object [])]

/-- The fixture as JSON without some of its members. -/
def encodeWithout (removed : List String) (fixture : Fixture) : Value :=
  .object (without removed fixture.members)

/-- A fixture can do without some members if each of them is as a reader presumes. -/
def CanLack (fixture : Fixture) (removed : List String) : Prop :=
  Removable presumed fixture.members removed

theorem canLack_iff {fixture : Fixture} {removed : List String} :
    fixture.CanLack removed ↔
      "name" ∉ removed ∧ ("release" ∈ removed → fixture.release = defaultRelease) ∧
        "successful" ∉ removed ∧ ("fail_on_warnings" ∈ removed → fixture.failOnWarnings = false) ∧
        ("diagnostics" ∈ removed → fixture.diagnostics = []) ∧
        ("output_lines" ∈ removed → fixture.outputLines = []) ∧
        ("outputs" ∈ removed → fixture.outputs = .empty) ∧ "expect" ∉ removed ∧
        ("expected_files" ∈ removed → fixture.expectedFiles = .empty) := by
  simp only [CanLack, Removable, members, List.forall_mem_append, List.forall_mem_cons]
  -- Whether there is a member for the expected files depends on whether there are any.
  by_cases nothing : fixture.expectedFiles = .empty
  all_goals
    simp [presumed, encodeExpectedFiles, Value.ofEntries, SortedTable.isEmpty,
      SortedTable.entries_eq_nil_iff, nothing, and_assoc]

theorem names_members (fixture : Fixture) :
    (fixture.members.map Prod.fst).Sublist (fields.map Field.name) := by
  have expectedFiles :
      ((encodeExpectedFiles fixture.expectedFiles).map Prod.fst).Sublist ["expected_files"] := by
    unfold encodeExpectedFiles
    split
    · exact List.nil_sublist _
    · exact List.Sublist.refl _
  simp only [members, List.map_append]
  exact (List.Sublist.refl _).append expectedFiles

/-- Every field of a fixture is read from what was picked. -/
structure ReadsFrom (fixture : Fixture) (picked : Picked) : Prop where
  name : picked.needed "name" decodeText = .ok fixture.name
  release : picked.spare "release" decodeText defaultRelease = .ok fixture.release
  successful : picked.needed "successful" decodeFlag = .ok fixture.successful
  failOnWarnings : picked.spare "fail_on_warnings" decodeFlag false = .ok fixture.failOnWarnings
  diagnostics : picked.spare "diagnostics" decodeDiagnostics [] = .ok fixture.diagnostics
  outputLines : picked.spare "output_lines" decodeTexts [] = .ok fixture.outputLines
  outputs : picked.spare "outputs" decodeOutputs .empty = .ok fixture.outputs
  expectation : picked.needed "expect" Expectation.decode = .ok fixture.expectation
  expectedFiles : picked.spare "expected_files" decodeExpectedFiles .empty =
    .ok fixture.expectedFiles

theorem spare_expectedFiles (fixture : Fixture) :
    (outlines fixture.members).spare "expected_files" decodeExpectedFiles .empty =
      .ok fixture.expectedFiles := by
  have found : fixture.members.lookup "expected_files" =
      (encodeExpectedFiles fixture.expectedFiles).lookup "expected_files" := by
    simp [members, List.lookup_cons]
  by_cases none : fixture.expectedFiles.isEmpty = true
  · have nothing : fixture.expectedFiles = .empty :=
      SortedTable.entries_eq_nil_iff.1 (List.isEmpty_iff.1 none)
    simp only [Picked.spare, lookup_outlines, found, encodeExpectedFiles, none, if_true]
    exact congrArg Except.ok nothing.symm
  · simp only [encodeExpectedFiles, none] at found
    exact spare_of_lookup _ found
      (decodeTable_outline (fun paths => decodeList_map decodeText_outline paths) _)

theorem readsFrom_members (fixture : Fixture) : fixture.ReadsFrom (outlines fixture.members) where
  name := needed_of_lookup rfl (decodeText_outline _)
  release := spare_of_lookup _ rfl (decodeText_outline _)
  successful := needed_of_lookup rfl (decodeFlag_outline _)
  failOnWarnings := spare_of_lookup _ rfl (decodeFlag_outline _)
  diagnostics := spare_of_lookup _ rfl (decodeList_map Diagnostic.decode_outline _)
  outputLines := spare_of_lookup _ rfl (decodeList_map decodeText_outline _)
  outputs := spare_of_lookup _ rfl
    (decodeTable_outline (fun files => decodeTable_outline decodeText_outline files) _)
  expectation := needed_of_lookup rfl fixture.expectation.decode_outline
  expectedFiles := fixture.spare_expectedFiles

/-- The members that may be missing are those for which a reader presumes what they say. -/
theorem ReadsFrom.without
    {fixture : Fixture} {removed : List String} (lacks : fixture.CanLack removed)
    (reads : fixture.ReadsFrom (outlines fixture.members)) :
    fixture.ReadsFrom (outlines (Json.without removed fixture.members)) where
  name := needed_without lacks (by decide) reads.name
  release := spare_without lacks (by simp [presumed]) reads.release
  successful := needed_without lacks (by decide) reads.successful
  failOnWarnings := spare_without lacks (by simp [presumed]) reads.failOnWarnings
  diagnostics := spare_without lacks (by simp [presumed]; rfl) reads.diagnostics
  outputLines := spare_without lacks (by simp [presumed]; rfl) reads.outputLines
  outputs := spare_without lacks (by simp [presumed]; rfl) reads.outputs
  expectation := needed_without lacks (by decide) reads.expectation
  expectedFiles := spare_without lacks (by simp [presumed]; rfl) reads.expectedFiles

theorem decode_of_readsFrom
    {fixture : Fixture} {left : List (String × Value)}
    (names : (left.map Prod.fst).Sublist (fields.map Field.name))
    (reads : fixture.ReadsFrom (outlines left)) :
    decode (Value.object left).outline = .ok fixture := by
  obtain ⟨name, release, successful, failOnWarnings, diagnostics, outputLines, outputs,
    expectation, expectedFiles⟩ := reads
  have admitted : ∀ field ∈ fields, field.Admits (outlines left) := by
    simp only [fields, List.forall_mem_cons]
    exact ⟨.of_needed name, .of_spare release, .of_needed successful, .of_spare failOnWarnings,
      .of_spare diagnostics, .of_spare outputLines, .of_spare outputs, .of_needed expectation,
      .of_spare expectedFiles, List.forall_mem_nil _⟩
  obtain ⟨picked, picks, same⟩ :=
    pickFields_object "CompilationFixture" fields left (by decide) names admitted
  simp only [decode, picks, ok_bind, same.needed, same.spare, name, release, successful,
    failOnWarnings, diagnostics, outputLines, outputs, expectation, expectedFiles]
  rfl

theorem decode_outline (fixture : Fixture) : decode fixture.encode.outline = .ok fixture :=
  decode_of_readsFrom fixture.names_members fixture.readsFrom_members

theorem decode_without
    {fixture : Fixture} {removed : List String} (lacks : fixture.CanLack removed) :
    decode (fixture.encodeWithout removed).outline = .ok fixture := by
  have kept : ((Json.without removed fixture.members).map Prod.fst).Sublist
      (fields.map Field.name) :=
    (List.filter_sublist.map Prod.fst).trans fixture.names_members
  exact decode_of_readsFrom kept (fixture.readsFrom_members.without lacks)

end Fixture

namespace FixtureSet

/-- A set as JSON, where each fixture lacks the members that are removed at its place. -/
def encodeWithout (removed : Nat → List String) (set : FixtureSet) : Value :=
  .object (members set.version
    (set.fixtures.mapIdx fun place fixture => fixture.encodeWithout (removed place)))

/-- A set is read from its version and from anything that its fixtures are read from. -/
theorem decode_of_fixtures
    {set : FixtureSet} {values : List Value}
    (reads : List.Forall₂ (fun value fixture => Fixture.decode value.outline = .ok fixture)
      values set.fixtures) :
    decode (Value.object (members set.version values)).outline = .ok set := by
  have version : (outlines (members set.version values)).needed "version" decodeText =
      .ok set.version :=
    needed_of_lookup rfl (decodeText_outline set.version)
  have fixtures : (outlines (members set.version values)).needed "fixtures" decodeFixtures =
      .ok set.fixtures :=
    needed_of_lookup rfl (decodeList_outline reads)
  have admitted : ∀ field ∈ fields, field.Admits (outlines (members set.version values)) := by
    simp only [fields, List.forall_mem_cons]
    exact ⟨.of_needed version, .of_needed fixtures, List.forall_mem_nil _⟩
  obtain ⟨picked, picks, same⟩ :=
    pickFields_object "FixtureSet" fields _ (by decide) (List.Sublist.refl _) admitted
  simp only [decode, picks, ok_bind, same.needed, version, fixtures]
  rfl

theorem decode_outline (set : FixtureSet) : decode set.encode.outline = .ok set :=
  decode_of_fixtures <| List.forall₂_map_left_iff.2 <|
    List.forall₂_same.2 fun fixture _ => fixture.decode_outline

theorem decode_without
    {set : FixtureSet} {removed : Nat → List String}
    (lacks : ∀ (place : Nat) (fixture : Fixture), set.fixtures[place]? = some fixture →
      fixture.CanLack (removed place)) :
    decode (set.encodeWithout removed).outline = .ok set := by
  apply decode_of_fixtures
  rw [List.forall₂_iff_get]
  refine ⟨List.length_mapIdx, fun place _ within => ?_⟩
  simp only [List.get_eq_getElem, List.getElem_mapIdx]
  exact Fixture.decode_without (lacks place _ (List.getElem?_eq_getElem within))

end FixtureSet

/-! ## All texts -/

/-- **Texts are recovered.** The text of a set of fixtures is read back as that set, also where any
fixture lacks members that say no more than is presumed without them. The text of a report whose
numbers a machine can count is read back as that report. And diagnostics, locations and files are
read back from whatever is written of them. -/
theorem texts_are_recovered
    {set : FixtureSet} {removed : Nat → List String} {report : Report}
    (lacks : ∀ (place : Nat) (fixture : Fixture), set.fixtures[place]? = some fixture →
      fixture.CanLack (removed place))
    (countable : report.Countable) :
    FixtureSet.ofText set.text = .ok set ∧
      Recovers FixtureSet.decode (set.encodeWithout removed) set ∧
      Json.decode Report.decode report.text = .ok report ∧
      (∀ diagnostic : Diagnostic, Recovers Diagnostic.decode diagnostic.encode diagnostic) ∧
      (∀ location : Location, Recovers Location.decode location.encode location) ∧
      ∀ file : FileRef, Recovers FileRef.decode file.encode file := by
  refine ⟨?_, ?_, ?_, ?_, ?_, ?_⟩
  · exact (recovers_of_outline set.decode_outline).1
  · exact recovers_of_outline (FixtureSet.decode_without lacks)
  · exact (recovers_of_outline (Report.decode_outline countable)).1
  · exact fun diagnostic => recovers_of_outline diagnostic.decode_outline
  · exact fun location => recovers_of_outline location.decode_outline
  · exact fun file => recovers_of_outline file.decode_outline

/-- A fixture that says no more than it must. -/
def sparseSet.bare : Fixture :=
  ⟨"bare", "17", true, false, [], [], .empty, .success, .empty⟩

/-- A fixture that says more. -/
def sparseSet.full : Fixture where
  name := "full"
  release := "21"
  successful := false
  failOnWarnings := true
  diagnostics := [⟨.warning, none, "\t\"m\"", some "A", some 3, none⟩]
  outputLines := []
  outputs := .empty
  expectation := .failure
  expectedFiles := .ofList [("CLASS_OUTPUT", ["A.class"])]

/-- Both of them. -/
def sparseSet : FixtureSet :=
  ⟨"v1", [sparseSet.bare, sparseSet.full]⟩

/-- What the two fixtures can do without. -/
def sparseSet.spared : Nat → List String
  | 0 => Fixture.presumed.map Prod.fst
  | _ => ["output_lines", "outputs"]

theorem texts_are_recovered_sparseSet :
    (∀ (place : Nat) (fixture : Fixture), sparseSet.fixtures[place]? = some fixture →
      fixture.CanLack (sparseSet.spared place)) ∧
      (Report.ofOutcomes "disabled" [⟨"bare", true, none⟩]).Countable ∧
      (Fixture.encodeWithout (sparseSet.spared 0) sparseSet.bare).compact =
        "\x7b\"name\":\"bare\",\"successful\":true,\"expect\":\"success\"\x7d" ∧
      Recovers FixtureSet.decode (sparseSet.encodeWithout sparseSet.spared) sparseSet := by
  have lacks : ∀ (place : Nat) (fixture : Fixture), sparseSet.fixtures[place]? = some fixture →
      fixture.CanLack (sparseSet.spared place) := by
    intro place fixture found
    rw [Fixture.canLack_iff]
    match place, found with
    | 0, rfl => decide
    | 1, rfl => decide
  have countable : (Report.ofOutcomes "disabled" [⟨"bare", true, none⟩]).Countable :=
    ⟨by decide, by decide, by decide⟩
  exact ⟨lacks, countable, rfl, (texts_are_recovered lacks countable).2.1⟩

end CompilationChecks
