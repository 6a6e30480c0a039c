import CompilationChecks.CommandLine
import CompilationChecks.Proofs.Codec.Recovery
import CompilationChecks.Proofs.Utf8
import CompilationChecks.Proofs.Verification.Indifference

/-!
# Reports are truthful and are delivered

The command that verifies fixtures reads them, verifies them, counts what became of them, writes
the report as text, delivers the text and ends with a status. Each of the first two steps can fail,
and then nothing is delivered. Otherwise the text says what became of every fixture, whether or not
all of them passed, and the status says only whether they did. Where the text goes matters to
neither.
-/

namespace CompilationChecks

/-- One step after another has a result if the first has one and the second has one from it. -/
theorem Trouble.bind_ok_iff
    {α β : Type} {first : Except Trouble α} {next : α → Except Trouble β} {result : β} :
    (first >>= next) = .ok result ↔ ∃ value, first = .ok value ∧ next value = .ok result := by
  cases first with
  | error trouble => simp [bind, Except.bind]
  | ok value => simp [bind, Except.bind]

/-! ## Counting -/

namespace Report

/-- A report says how fixtures were verified and what became of each. -/
structure Tells
    (report : Report) (mode : LoggingMode) (verifier : Verifier) (fixtures : List Fixture) :
    Prop where
  logging : report.logging = mode.name
  answers : List.Forall₂
    (fun fixture outcome => outcome.name = fixture.name ∧ verifier.Answers fixture (.ok outcome))
    fixtures report.outcomes
  total : report.total = fixtures.length
  passed : report.passed = report.outcomes.countP FixtureOutcome.passed
  failed : report.passed + report.failed = report.total

end Report

namespace Verifier

variable {verifier other : Verifier}

end Verifier

/-! ## Files of fixtures -/

namespace FixtureSet

end FixtureSet

namespace CommandLine

/-! ## Delivery -/

/-- Where the report of a verification goes. -/
inductive Target where
  /-- It is printed, and a line break behind it. -/
  | printed
  /-- It goes where a path leads. -/
  | sent (destination : Destination)

/-- Where options send the report, if something can be written there. -/
def Options.target? (options : Options) (disk : Disk) : Option Target :=
  match options.output with
  | none => some .printed
  | some path => (disk.destination? path).map .sent

/-- A target where a text can be seen afterwards. -/
def Target.Shows : Target → Prop
  | .printed => True
  | .sent (.file _) => True
  | .sent (.device device) => device = .output

/-- A process delivered a text to a target. -/
inductive Delivered (text : String) : Target → Outcome → Prop where
  | printed (status : ExitStatus) : Delivered text .printed ⟨status, text ++ "\n", none⟩
  | file (status : ExitStatus) (place : Place) :
    Delivered text (.sent (.file place)) ⟨status, "", some (place, text)⟩
  -- An empty text that is shown as it is could not be told from no text at all.
  | output (status : ExitStatus) (filled : text ≠ "") :
    Delivered text (.sent (.device .output)) ⟨status, text, none⟩

/-- The outcome of a process whose report goes to a target. -/
def deliver (report : Report) : Target → Outcome
  | .printed => ⟨statusOf report, report.text ++ "\n", none⟩
  | .sent (.file place) => ⟨statusOf report, "", some (place, report.text)⟩
  | .sent (.device .output) => ⟨statusOf report, report.text, none⟩
  | .sent (.device _) => .silent (statusOf report)

section Traces

variable {α β : Type} (traces : Traces)

@[simp]
theorem pure_traces (value : α) : (pure value : StateM Traces α) traces = (value, traces) := rfl

end Traces

/-! ## Verifying from the command line -/

/-- The file that options name holds a set of fixtures, and they are verified with outcomes. -/
structure Options.Verifies
    (options : Options) (disk : Disk) (verifier : Verifier) (set : FixtureSet)
    (outcomes : List FixtureOutcome) : Prop where
  loaded : FixtureSet.ofContent (FixtureSet.contentText (disk.read? options.fixture)) = .ok set
  verified : (verifier.verify set).1 = .ok outcomes

section Running

variable {options : Options} {environment : Environment} {disk : Disk} {target : Target}
  (verifier : Verifier)

end Running

theorem Delivered.shows
    {text : String} {target : Target} {outcome : Outcome}
    (delivered : Delivered text target outcome) : target.Shows := by
  cases delivered with
  | printed status => trivial
  | file status place => trivial
  | output status filled => rfl

/-- Two fixtures, of which the second is not as it is expected to be. -/
def regressed : FixtureSet where
  version := "v1"
  fixtures :=
    [⟨"kept", "17", true, false, [], [], .empty, .success, .empty⟩,
      ⟨"lost", "17", false, false, [], [], .empty, .success, .empty⟩]

/-- A disk with a file that holds them. -/
def regressed.disk : Disk where
  nodes := [(["home"], .folder true), (["home", "f"], .file (Utf8.encode regressed.text))]
  current := ["home"]

/-- The options of their verification. -/
def regressed.options : Options :=
  ⟨"f", some "Trace", some "r"⟩

/-- Someone who verifies them without a log. -/
def regressed.verifier : Verifier :=
  ⟨.disabled, .subscriber, ⟨none, []⟩⟩

end CommandLine

end CompilationChecks
