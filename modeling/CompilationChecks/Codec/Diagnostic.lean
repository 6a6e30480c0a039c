import CompilationChecks.Diagnostic
import CompilationChecks.Json.Decode
import CompilationChecks.Json.Value

/-!
Reports of the compiler as JSON. What a report does not tell is left out.
-/

namespace CompilationChecks

namespace DiagnosticKind

/-- A kind as JSON: its name. -/
def encode (kind : DiagnosticKind) : Json.Value :=
  .text kind.name

/-- A kind from JSON. -/
def decode : Json.Outline → Json.Decoded DiagnosticKind :=
  Json.decodeNamed (all.map fun kind => (kind.name, kind)) (all.map DiagnosticKind.name)

end DiagnosticKind

namespace Diagnostic

/-- A number of a line or column as JSON. -/
def encodeNumber (number : UInt64) : Json.Value :=
  .natural number.toNat

/-- The members of a report. -/
def members (diagnostic : Diagnostic) : List (String × Json.Value) :=
  [("kind", diagnostic.kind.encode)] ++
    Json.Value.optionalMember "code" .text diagnostic.code ++
    [("message", .text diagnostic.message)] ++
    Json.Value.optionalMember "source" .text diagnostic.source ++
    Json.Value.optionalMember "line" encodeNumber diagnostic.line ++
    Json.Value.optionalMember "column" encodeNumber diagnostic.column

/-- A report as JSON. -/
def encode (diagnostic : Diagnostic) : Json.Value :=
  .object diagnostic.members

/-- A text that may be absent. -/
def decodeText : Json.Outline → Json.Decoded (Option String) :=
  Json.decodeOptional Json.decodeText

/-- A number that may be absent. -/
def decodeNumber : Json.Outline → Json.Decoded (Option UInt64) :=
  Json.decodeOptional Json.decodeWide

/-- The fields of a report. -/
def fields : List Json.Field :=
  [.needed "kind" DiagnosticKind.decode, .spare "code" decodeText,
    .needed "message" Json.decodeText, .spare "source" decodeText, .spare "line" decodeNumber,
    .spare "column" decodeNumber]

/-- A report from JSON. -/
def decode (value : Json.Outline) : Json.Decoded Diagnostic := do
  let picked ← Json.pickFields "Diagnostic" fields value
  return {
    kind := ← picked.needed "kind" DiagnosticKind.decode
    code := ← picked.spare "code" decodeText none
    message := ← picked.needed "message" Json.decodeText
    source := ← picked.spare "source" decodeText none
    line := ← picked.spare "line" decodeNumber none
    column := ← picked.spare "column" decodeNumber none }

end Diagnostic

end CompilationChecks
