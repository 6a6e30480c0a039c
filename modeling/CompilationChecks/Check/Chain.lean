import CompilationChecks.Check.Outcome
import CompilationChecks.Snapshot

/-!
Chains of assertions. A chain begins at a compilation; each assertion is made about what the one
before it ended at, which is its subject, and ends at the same subject or leads to another one. A
chain stops at its first complaint.
-/

namespace CompilationChecks

/-- What an assertion is made about. -/
inductive Subject where
  /-- The compilation itself. -/
  | compilation
  /-- Some of its reports. -/
  | reports (reports : List Diagnostic)
  /-- One of its reports. -/
  | report (report : Diagnostic)
  /-- A location that holds files. -/
  | package (lookup : Check.Lookup PackageGroup)
  /-- A location that holds modules. -/
  | modules (lookup : Check.Lookup ModuleGroup)
  /-- An output location. -/
  | output (lookup : Check.Lookup OutputGroup)
  /-- A file. -/
  | file (file : Check.FoundFile)
  deriving Repr

/-- An assertion. Which of them make sense depends on the subject. -/
inductive Assertion where
  | isSuccessful
  | isSuccessfulWithoutWarnings
  | isFailure
  | diagnostics
  | packageGroup (location : Location)
  | moduleGroup (location : Location)
  | outputGroup (location : Location)
  | hasNoErrorsOrWarnings
  | hasNoErrors
  | hasNoWarnings
  | filtering (kinds : List DiagnosticKind)
  | hasCount (expected : Nat)
  | isEmpty
  | isNotEmpty
  | anyMessageContains (part : String)
  | get (index : Nat)
  | isKind (expected : DiagnosticKind)
  | messageContains (part : String)
  | hasCode (expected : String)
  | isOnLine (expected : UInt64)
  | isConfigured
  | isNotConfigured
  | fileExists (path : String)
  | fileDoesNotExist (path : String)
  | allFilesExist (paths : List String)
  | moduleExists (moduleName : String)
  | hasContent (expected : Bytes)
  | containsText (part : String)
  deriving DecidableEq, Repr

namespace Assertion

/-! ## Frequent assertions -/

/-- Goes on with the classes that were written. -/
def classOutput : Assertion :=
  .outputGroup (.standard .classOutput)

/-- Goes on with the sources that were written. -/
def sourceOutput : Assertion :=
  .outputGroup (.standard .sourceOutput)

/-- Goes on with the headers that were written. -/
def generatedHeaders : Assertion :=
  .outputGroup (.standard .nativeHeaderOutput)

/-- Goes on with the classes that were read. -/
def classPath : Assertion :=
  .packageGroup (.standard .classPath)

/-- Goes on with the sources that were read. -/
def sourcePath : Assertion :=
  .packageGroup (.standard .sourcePath)

/-- Goes on with the modules whose sources were read. -/
def moduleSourcePath : Assertion :=
  .moduleGroup (.standard .moduleSourcePath)

/-- Goes on with the modules that were read. -/
def modulePath : Assertion :=
  .moduleGroup (.standard .modulePath)

/-- Goes on with the errors alone. -/
def errors : Assertion :=
  .filtering DiagnosticKind.errors

/-- Goes on with the warnings alone. -/
def warnings : Assertion :=
  .filtering DiagnosticKind.warnings

/-- Goes on with the notes alone. -/
def notes : Assertion :=
  .filtering [.note]

/-- Goes on with the first report. -/
def first : Assertion :=
  .get 0

/-- The report is an error. -/
def isError : Assertion :=
  .isKind .error

/-! ## The subjects -/

variable {σ : Type}

/-- An assertion about some reports. -/
def aboutReports (reports : List Diagnostic) : Assertion → Verdict Subject
  | .hasNoErrorsOrWarnings => do
    Check.Reports.hasNoErrorsOrWarnings reports
    return .reports reports
  | .hasNoErrors => do
    Check.Reports.hasNoErrors reports
    return .reports reports
  | .hasNoWarnings => do
    Check.Reports.hasNoWarnings reports
    return .reports reports
  | .filtering kinds => .ok (.reports (Diagnostic.ofKinds kinds reports))
  | .hasCount expected => do
    Check.Reports.hasCount expected reports
    return .reports reports
  | .isEmpty => do
    Check.Reports.isEmpty reports
    return .reports reports
  | .isNotEmpty => do
    Check.Reports.isNotEmpty reports
    return .reports reports
  | .anyMessageContains part => do
    Check.Reports.anyMessageContains part reports
    return .reports reports
  | .get index => (Check.Reports.get index reports).map .report
  | _ => .error .misplaced

/-- An assertion about one report. -/
def aboutReport (report : Diagnostic) : Assertion → Verdict Subject
  | .isKind expected => do
    Check.Report.isKind expected report
    return .report report
  | .messageContains part => do
    Check.Report.messageContains part report
    return .report report
  | .hasCode expected => do
    Check.Report.hasCode expected report
    return .report report
  | .isOnLine expected => do
    Check.Report.isOnLine expected report
    return .report report
  | _ => .error .misplaced

/-- An assertion about a location that holds files. -/
def aboutPackage (shelf : Shelf) (lookup : Check.Lookup PackageGroup) :
    Assertion → Verdict Subject
  | .isConfigured => do
    lookup.isConfigured
    return .package lookup
  | .isNotConfigured => do
    lookup.isNotConfigured
    return .package lookup
  | .fileExists path => (lookup.fileExists shelf path).map .file
  | .fileDoesNotExist path => do
    lookup.fileDoesNotExist shelf path
    return .package lookup
  | .allFilesExist paths => do
    lookup.allFilesExist shelf paths
    return .package lookup
  | _ => .error .misplaced

/-- An assertion about a location that holds modules. -/
def aboutModules (lookup : Check.Lookup ModuleGroup) : Assertion → Verdict Subject
  | .isConfigured => do
    lookup.isConfigured
    return .modules lookup
  | .isNotConfigured => do
    lookup.isNotConfigured
    return .modules lookup
  | .moduleExists moduleName => (lookup.moduleExists moduleName).map .package
  | _ => .error .misplaced

/-- An assertion about an output location. Its files are those of its own roots. -/
def aboutOutput (shelf : Shelf) (lookup : Check.Lookup OutputGroup) :
    Assertion → Verdict Subject
  | .isConfigured => do
    lookup.isConfigured
    return .output lookup
  | .isNotConfigured => do
    lookup.isNotConfigured
    return .output lookup
  | .fileExists path => (lookup.packages.fileExists shelf path).map .file
  | .fileDoesNotExist path => do
    lookup.packages.fileDoesNotExist shelf path
    return .output lookup
  | .allFilesExist paths => do
    lookup.packages.allFilesExist shelf paths
    return .output lookup
  | .moduleExists moduleName => (lookup.outputModuleExists moduleName).map .package
  | _ => .error .misplaced

/-- An assertion about a file. -/
def aboutFile (file : Check.FoundFile) : Assertion → Verdict Subject
  | .hasContent expected => do
    file.hasContent expected
    return .file file
  | .containsText part => do
    file.containsText part
    return .file file
  | .isNotEmpty => do
    file.isNotEmpty
    return .file file
  | _ => .error .misplaced

/-- The subject that an inquiry leads to. -/
def leadingTo {γ : Type} (subject : Check.Lookup γ → Subject)
    (inquiry : Check.Inquiry σ (Check.Lookup γ)) : Check.Inquiry σ Subject :=
  fun world => ((inquiry world).1.map subject, (inquiry world).2)

/-- An assertion about the compilation itself. -/
def aboutCompilation (manager : Manager σ) (compilation : Compilation) :
    Assertion → Check.Inquiry σ Subject
  | .isSuccessful => .ofVerdict (compilation.isSuccessful.map fun _ => .compilation)
  | .isSuccessfulWithoutWarnings =>
    .ofVerdict (compilation.isSuccessfulWithoutWarnings.map fun _ => .compilation)
  | .isFailure => .ofVerdict (compilation.hasFailed.map fun _ => .compilation)
  | .diagnostics => .ofVerdict (.ok (.reports compilation.diagnostics))
  | .packageGroup location => leadingTo .package (.packageGroup manager location)
  | .moduleGroup location => leadingTo .modules (.moduleGroup manager location)
  | .outputGroup location => leadingTo .output (.outputGroup manager location)
  | _ => .ofVerdict (.error .misplaced)

/-- Makes an assertion about a subject. `shelf` tells where the state behind the manager keeps its
containers. -/
def apply (manager : Manager σ) (shelf : σ → Shelf) (compilation : Compilation)
    (assertion : Assertion) (subject : Subject) : Check.Inquiry σ Subject := fun world =>
  match subject with
  | .compilation => assertion.aboutCompilation manager compilation world
  | .reports reports => (assertion.aboutReports reports, world)
  | .report report => (assertion.aboutReport report, world)
  | .package lookup => (assertion.aboutPackage (shelf world.inner) lookup, world)
  | .modules lookup => (assertion.aboutModules lookup, world)
  | .output lookup => (assertion.aboutOutput (shelf world.inner) lookup, world)
  | .file file => (assertion.aboutFile file, world)

end Assertion

/-! ## What a subject is at one moment -/

/-- A subject as it is at one moment. -/
inductive SubjectSnapshot where
  | compilation
  | reports (reports : List Diagnostic)
  | report (report : Diagnostic)
  | package (group : Option PackageSnapshot)
  | modules (group : Option ModuleSnapshot)
  | output (group : Option OutputSnapshot)
  | file (file : Check.FoundFile)
  deriving DecidableEq, Repr

/-- The subject as it is now. -/
def Subject.snapshot (subject : Subject) (shelf : Shelf) : SubjectSnapshot :=
  match subject with
  | .compilation => .compilation
  | .reports listed => .reports listed
  | .report single => .report single
  | .package lookup => .package (lookup.group.map fun group => group.snapshot shelf)
  | .modules lookup => .modules (lookup.group.map fun group => group.snapshot shelf)
  | .output lookup => .output (lookup.group.map fun group => group.snapshot shelf)
  | .file found => .file found

end CompilationChecks
