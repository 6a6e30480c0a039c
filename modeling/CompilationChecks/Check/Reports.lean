import CompilationChecks.Check.Complaint
import CompilationChecks.Text.Split

/-!
Checks on the reports of a compiler: on lists of them, and on single ones.
-/

namespace CompilationChecks.Check

/-- Whether a text has a part. -/
def hasPart (text part : String) : Bool :=
  Text.occursIn part.toList text.toList

/-! ## Lists of reports -/

namespace Reports

/-- There is no report of the given kinds, which together make up a class with a name. -/
def hasNone (kinds : List DiagnosticKind) (className : String) (reports : List Diagnostic) :
    Verdict Unit :=
  .require (Diagnostic.ofKinds kinds reports).isEmpty
    (.unwantedReports className (Diagnostic.ofKinds kinds reports))

/-- There is neither an error nor a warning. -/
def hasNoErrorsOrWarnings (reports : List Diagnostic) : Verdict Unit :=
  hasNone DiagnosticKind.warningsAndErrors "errors or warnings" reports

/-- There is no error. -/
def hasNoErrors (reports : List Diagnostic) : Verdict Unit :=
  hasNone DiagnosticKind.errors "errors" reports

/-- There is no warning. -/
def hasNoWarnings (reports : List Diagnostic) : Verdict Unit :=
  hasNone DiagnosticKind.warnings "warnings" reports

/-- The number of reports is the given one. -/
def hasCount (expected : Nat) (reports : List Diagnostic) : Verdict Unit :=
  .require (reports.length == expected) (.wrongCount expected reports)

/-- There is no report. -/
def isEmpty (reports : List Diagnostic) : Verdict Unit :=
  .require reports.isEmpty (.someReports reports)

/-- There is a report. -/
def isNotEmpty (reports : List Diagnostic) : Verdict Unit :=
  .require (!reports.isEmpty) .noReports

/-- The message of some report has a part. -/
def anyMessageContains (part : String) (reports : List Diagnostic) : Verdict Unit :=
  .require (reports.any fun report => hasPart report.message part)
    (.noMessageContains part reports)

/-- The report at a position, counted from zero. -/
def get (index : Nat) (reports : List Diagnostic) : Verdict Diagnostic :=
  match reports[index]? with
  | some report => .ok report
  | none => .error (.noReportAt index reports)

end Reports

/-! ## Single reports -/

namespace Report

/-- The report is of a kind. -/
def isKind (expected : DiagnosticKind) (report : Diagnostic) : Verdict Unit :=
  .require (report.kind == expected) (.wrongKind expected report)

/-- The message of the report has a part. -/
def messageContains (part : String) (report : Diagnostic) : Verdict Unit :=
  .require (hasPart report.message part) (.messageLacks part report)

/-- The report has a code. -/
def hasCode (expected : String) (report : Diagnostic) : Verdict Unit :=
  .require (report.code == some expected) (.wrongCode expected report)

/-- The report is about a line. -/
def isOnLine (expected : UInt64) (report : Diagnostic) : Verdict Unit :=
  .require (report.line == some expected) (.wrongLine expected report)

end Report

end CompilationChecks.Check
