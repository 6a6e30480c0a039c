import CompilationChecks.Diagnostic
import CompilationChecks.Failure
import CompilationChecks.Location
import CompilationChecks.Text.Utf8

/-!
Why a check is not met. A complaint keeps what it is about, and its text explains it: complaints
about reports quote the reports, and complaints about missing files list the files that are there.
-/

namespace CompilationChecks

/-- Why a check is not met. -/
inductive Complaint where
  /-- The compilation failed. Some reports explain it. -/
  | compilationFailed (reports : List Diagnostic)
  /-- The compilation succeeded. Some reports may have been expected to prevent it. -/
  | compilationSucceeded (reports : List Diagnostic)
  /-- There are reports of a class that should be empty. -/
  | unwantedReports (className : String) (reports : List Diagnostic)
  /-- The number of reports is wrong. -/
  | wrongCount (expected : Nat) (reports : List Diagnostic)
  /-- There are reports although there should be none. -/
  | someReports (reports : List Diagnostic)
  /-- There is no report although there should be some. -/
  | noReports
  /-- No report has a message with a given part. -/
  | noMessageContains (part : String) (reports : List Diagnostic)
  /-- There is no report at a position. -/
  | noReportAt (index : Nat) (reports : List Diagnostic)
  /-- A report is of another kind. -/
  | wrongKind (expected : DiagnosticKind) (report : Diagnostic)
  /-- The message of a report lacks a part. -/
  | messageLacks (part : String) (report : Diagnostic)
  /-- A report has another code or none. -/
  | wrongCode (expected : String) (report : Diagnostic)
  /-- A report is about another line or none. -/
  | wrongLine (expected : UInt64) (report : Diagnostic)
  /-- The location holds modules. -/
  | moduleOriented (location : Location)
  /-- The location holds no modules. -/
  | notModuleOriented (location : Location)
  /-- The location is not written to. -/
  | notOutput (location : Location)
  /-- The file manager failed to look the location up. -/
  | lookupFailed (location : Location) (failure : Failure)
  /-- The check was abandoned with a text of its own. -/
  | abandoned (text : String)
  /-- The location is not known to the file manager. -/
  | notConfigured (location : Location)
  /-- The location is known to the file manager. -/
  | configured (location : Location)
  /-- A location has no module of a given name. -/
  | moduleMissing (location : Location) (moduleName : String) (present : List String)
  /-- A location does not hold a file. -/
  | fileMissing (location : Location) (path : String) (present : List String)
  /-- A location holds a file. -/
  | filePresent (location : Location) (path : String)
  /-- A location does not hold some of the files. -/
  | filesMissing (location : Location) (paths : List String) (present : List String)
  /-- The content of a file is another one. -/
  | wrongContent (location : Location) (path : String) (expected actual : Bytes)
  /-- The content of a file is not text. -/
  | notText (location : Location) (path : String)
  /-- The text of a file lacks a part. -/
  | textLacks (location : Location) (path : String) (part : String)
  /-- The content of a file is empty. -/
  | emptyFile (location : Location) (path : String)
  /-- A check that means nothing for what it is applied to. -/
  | misplaced
  deriving Repr

namespace Complaint

/-- Paragraphs with an empty line between any two. -/
def paragraphs (texts : List String) : String :=
  String.intercalate "\n\n" texts

/-- A sentence and the reports that explain it; only the sentence if there are none. -/
def withReports (sentence : String) (reports : List Diagnostic) : String :=
  if reports.isEmpty then sentence
  else paragraphs [sentence, "Diagnostics:", Diagnostic.blocks reports]

/-- A sentence about all reports, which also says so if there are none. -/
def aboutReports (sentence : String) (reports : List Diagnostic) : String :=
  if reports.isEmpty then paragraphs [sentence, "No diagnostics were reported."]
  else withReports sentence reports

/-- A sentence about one report. -/
def aboutReport (sentence : String) (report : Diagnostic) : String :=
  paragraphs [sentence, "Diagnostic:", report.block]

/-- The files that are there, one on each line. -/
def presentText (present : List String) : String :=
  if present.isEmpty then "No files were present."
  else "Files present:\n" ++ String.intercalate "\n" (present.map fun path => " - " ++ path)

/-- A file by its location and path. -/
def fileText (location : Location) (path : String) : String :=
  location.name ++ ":" ++ path

/-- A content as messages quote it. -/
def contentText (content : Bytes) : String :=
  Text.quoted (Utf8.decodeLossy content)

/-- The text of a complaint. -/
def message : Complaint → String
  | .compilationFailed reports =>
    withReports "Expected a successful compilation, but it failed." reports
  | .compilationSucceeded reports =>
    withReports "Expected compilation to fail, but it succeeded." reports
  | .unwantedReports className reports =>
    withReports
      ("Expected no " ++ className ++ ", but found " ++ toString reports.length ++ ".") reports
  | .wrongCount expected reports =>
    aboutReports
      ("Expected " ++ toString expected ++ " diagnostics, but found " ++
        toString reports.length ++ ".")
      reports
  | .someReports reports => withReports "Expected no diagnostics." reports
  | .noReports => "Expected at least one diagnostic, but found none."
  | .noMessageContains part reports =>
    aboutReports
      ("Expected a diagnostic whose message contains " ++ Text.quoted part ++ ".") reports
  | .noReportAt index reports =>
    aboutReports
      ("Expected a diagnostic at index " ++ toString index ++ ", but there are only " ++
        toString reports.length ++ ".")
      reports
  | .wrongKind expected report =>
    aboutReport
      ("Expected diagnostic kind " ++ expected.name ++ ", but was " ++ report.kind.name ++ ".")
      report
  | .messageLacks part report =>
    aboutReport ("Expected the message to contain " ++ Text.quoted part ++ ".") report
  | .wrongCode expected report =>
    aboutReport ("Expected diagnostic code " ++ Text.quoted expected ++ ".") report
  | .wrongLine expected report =>
    aboutReport ("Expected the diagnostic on line " ++ toString expected ++ ".") report
  | .moduleOriented location =>
    "Expected location " ++ location.name ++ " to not be module-oriented"
  | .notModuleOriented location =>
    "Expected location " ++ location.name ++ " to be module-oriented"
  | .notOutput location =>
    "Expected location " ++ location.name ++ " to be an output location"
  | .lookupFailed location failure =>
    "Failed to look up " ++ location.name ++ ": " ++ failure.message
  | .abandoned text => text
  | .notConfigured location =>
    "Expected location " ++ location.name ++ " to be configured, but it was not."
  | .configured location =>
    "Expected location " ++ location.name ++ " to not be configured, but it was."
  | .moduleMissing location moduleName present =>
    "Expected module " ++ moduleName ++ " to exist in " ++ location.name ++
      ", but it did not. Modules present: " ++ Inspection.list present
  | .fileMissing location path present =>
    paragraphs
      ["Expected file " ++ path ++ " to exist in " ++ location.name ++ ", but it did not.",
        presentText present]
  | .filePresent location path =>
    "Expected file " ++ path ++ " to not exist in " ++ location.name ++ ", but it did."
  | .filesMissing location paths present =>
    paragraphs
      ["Expected all files to exist in " ++ location.name ++ ", but these did not: " ++
          Inspection.commas paths ++ ".",
        presentText present]
  | .wrongContent location path expected actual =>
    "Expected " ++ fileText location path ++ " to have content " ++ contentText expected ++
      ", but it was " ++ contentText actual ++ "."
  | .notText location path =>
    "Expected " ++ fileText location path ++ " to be UTF-8 text, but it was binary."
  | .textLacks location path part =>
    "Expected " ++ fileText location path ++ " to contain " ++ Text.quoted part ++ "."
  | .emptyFile location path => "Expected " ++ fileText location path ++ " to not be empty."
  | .misplaced => "The check does not apply here."

end Complaint

/-- The end of a check: what it found to go on with, or a complaint. -/
abbrev Verdict (α : Type) := Except Complaint α

/-- The verdict of a condition. -/
def Verdict.require (condition : Bool) (complaint : Complaint) : Verdict Unit :=
  if condition then .ok () else .error complaint

end CompilationChecks
