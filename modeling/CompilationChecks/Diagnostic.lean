import CompilationChecks.Text.Inspection
import CompilationChecks.Text.Quoted
import CompilationChecks.Text.Split

/-!
What a compiler reports about the sources it reads, and how lists of such reports appear in
messages: one block for each report, its first line behind a bullet and the others indented.
-/

namespace CompilationChecks

/-- How serious a report of the compiler is. -/
inductive DiagnosticKind where
  | error
  | warning
  | mandatoryWarning
  | note
  | other
  deriving DecidableEq, Repr

namespace DiagnosticKind

/-- Every kind. -/
def all : List DiagnosticKind :=
  [.error, .warning, .mandatoryWarning, .note, .other]

/-- The kinds that are warnings. -/
def warnings : List DiagnosticKind :=
  [.warning, .mandatoryWarning]

/-- The kinds that are errors. -/
def errors : List DiagnosticKind :=
  [.error]

/-- The kinds that are warnings or errors. -/
def warningsAndErrors : List DiagnosticKind :=
  [.warning, .mandatoryWarning, .error]

/-- The name of a kind, in capitals. -/
def name : DiagnosticKind → String
  | .error => "ERROR"
  | .warning => "WARNING"
  | .mandatoryWarning => "MANDATORY_WARNING"
  | .note => "NOTE"
  | .other => "OTHER"

/-- The kind as log entries show it inside values. -/
def inspect : DiagnosticKind → String
  | .error => "Error"
  | .warning => "Warning"
  | .mandatoryWarning => "MandatoryWarning"
  | .note => "Note"
  | .other => "Other"

/-- Whether the kind is one of the warnings. -/
def isWarning (kind : DiagnosticKind) : Bool :=
  warnings.contains kind

/-- Whether the kind is one of the errors. -/
def isError (kind : DiagnosticKind) : Bool :=
  errors.contains kind

end DiagnosticKind

/-- A report of the compiler. -/
structure Diagnostic where
  /-- How serious it is. -/
  kind : DiagnosticKind
  /-- The compiler's own code for it. -/
  code : Option String
  /-- The text for people to read. -/
  message : String
  /-- The source that it is about. -/
  source : Option String
  /-- The line in the source. -/
  line : Option UInt64
  /-- The column in the line. -/
  column : Option UInt64
  deriving DecidableEq, Repr

namespace Diagnostic

/-- A report without code and place. -/
def new (kind : DiagnosticKind) (message : String) : Diagnostic :=
  ⟨kind, none, message, none, none, none⟩

/-- The report with a code. -/
def withCode (diagnostic : Diagnostic) (code : String) : Diagnostic :=
  { diagnostic with code := some code }

/-- The report with a place. -/
def located (diagnostic : Diagnostic) (source : String) (line : UInt64) (column : Option UInt64) :
    Diagnostic :=
  { diagnostic with source := some source, line := some line, column := column }

/-- The place of a report as far as it is known: a column counts only behind a line, and a line
only behind a source. -/
def place (diagnostic : Diagnostic) : String :=
  match diagnostic.source, diagnostic.line, diagnostic.column with
  | none, _, _ => ""
  | some source, none, _ => " " ++ source
  | some source, some line, none => " " ++ source ++ ":" ++ toString line
  | some source, some line, some column =>
    " " ++ source ++ ":" ++ toString line ++ ":" ++ toString column

/-- Kind, place, code and message. -/
def display (diagnostic : Diagnostic) : String :=
  "[" ++ diagnostic.kind.name ++ "]" ++ diagnostic.place ++
    (match diagnostic.code with
    | none => ""
    | some code => " " ++ code ++ ":") ++
    " " ++ diagnostic.message

/-- The report as log entries show it inside values. -/
def inspect (diagnostic : Diagnostic) : String :=
  Inspection.record "Diagnostic"
    [("kind", diagnostic.kind.inspect),
      ("code", Inspection.option (diagnostic.code.map Text.quoted)),
      ("message", Text.quoted diagnostic.message),
      ("source", Inspection.option (diagnostic.source.map Text.quoted)),
      ("line", Inspection.option (diagnostic.line.map toString)),
      ("column", Inspection.option (diagnostic.column.map toString))]

/-- The reports of some kinds, in the order of the list. -/
def ofKinds (kinds : List DiagnosticKind) (diagnostics : List Diagnostic) : List Diagnostic :=
  diagnostics.filter fun diagnostic => kinds.contains diagnostic.kind

/-! ## Lists in messages -/

/-- The lines of a report with a bullet before the first and an indentation before the others. -/
def blockLines : List (List Char) → List (List Char)
  | [] => []
  | first :: others =>
    ([' ', '-', ' '] ++ first) :: others.map fun line => [' ', ' ', ' '] ++ line

/-- The block of one report. -/
def block (diagnostic : Diagnostic) : String :=
  String.intercalate "\n" ((blockLines (Text.lines diagnostic.display.toList)).map String.ofList)

/-- The blocks of several reports, with an empty line between any two. -/
def blocks (diagnostics : List Diagnostic) : String :=
  String.intercalate "\n\n" (diagnostics.map block)

end Diagnostic

end CompilationChecks
