import CompilationChecks.Json.Decode
import CompilationChecks.Json.Value
import CompilationChecks.Log.Journal
import CompilationChecks.LoggingMode

/-!
Log events and logging modes as JSON. An event on one line of text is what a sink writes.
-/

namespace CompilationChecks

namespace LoggingMode

/-- A mode as JSON: its canonical name. -/
def encode (mode : LoggingMode) : Json.Value :=
  .text mode.name

/-- A mode from JSON. One of the modes has two names. -/
def decode : Json.Outline → Json.Decoded LoggingMode :=
  Json.decodeNamed
    [("enabled", .enabled), ("stack_traces", .stackTraces), ("stacktraces", .stackTraces),
      ("disabled", .disabled)]
    ["enabled", "stack_traces", "stacktraces", "disabled"]

end LoggingMode

namespace Log

namespace Moment

/-- Every moment. -/
def all : List Moment :=
  [.entry, .returned, .completed, .failed]

/-- A moment as JSON: its name. -/
def encode (moment : Moment) : Json.Value :=
  .text moment.name

/-- A moment from JSON. -/
def decode : Json.Outline → Json.Decoded Moment :=
  Json.decodeNamed (all.map fun moment => (moment.name, moment)) (all.map Moment.name)

end Moment

namespace Event

/-- The members of an event. What the event does not tell is left out. -/
def members (event : Event) : List (String × Json.Value) :=
  [("kind", event.moment.encode), ("thread", .natural event.thread.toNat),
    ("depth", .natural event.depth.toNat), ("return_type", .text event.returnType),
    ("operation", .text event.operation), ("param_types", .text event.parameterTypes)] ++
    Json.Value.optionalMember "arguments" .text event.arguments ++
    Json.Value.optionalMember "stack_trace" .text event.stackTrace ++
    Json.Value.optionalMember "result" .text event.result ++
    Json.Value.optionalMember "error" .text event.error

/-- An event as JSON. -/
def encode (event : Event) : Json.Value :=
  .object event.members

/-- The line of text that a sink writes for an event. -/
def line (event : Event) : String :=
  event.encode.compact

/-- A text that may be absent. -/
def decodeText : Json.Outline → Json.Decoded (Option String) :=
  Json.decodeOptional Json.decodeText

/-- The fields of an event. -/
def fields : List Json.Field :=
  [.needed "kind" Moment.decode, .needed "thread" Json.decodeWide,
    .needed "depth" Json.decodeNarrow, .needed "return_type" Json.decodeText,
    .needed "operation" Json.decodeText, .needed "param_types" Json.decodeText,
    .spare "arguments" decodeText, .spare "stack_trace" decodeText, .spare "result" decodeText,
    .spare "error" decodeText]

/-- An event from JSON. -/
def decode (value : Json.Outline) : Json.Decoded Event := do
  let picked ← Json.pickFields "CallEvent" fields value
  return {
    moment := ← picked.needed "kind" Moment.decode
    thread := ← picked.needed "thread" Json.decodeWide
    depth := ← picked.needed "depth" Json.decodeNarrow
    returnType := ← picked.needed "return_type" Json.decodeText
    operation := ← picked.needed "operation" Json.decodeText
    parameterTypes := ← picked.needed "param_types" Json.decodeText
    arguments := ← picked.spare "arguments" decodeText none
    stackTrace := ← picked.spare "stack_trace" decodeText none
    result := ← picked.spare "result" decodeText none
    error := ← picked.spare "error" decodeText none }

end Event

/-- The text that a sink has written when it kept some records: each line ends with a line
feed. -/
def written (records : List Record) : String :=
  String.join (records.map fun record => record.event.line ++ "\n")

/-- The lines of a text in which a line feed ends each. -/
def lines (text : String) : List String :=
  (Text.pieces (· == '\n') text.toList).dropLast.map String.ofList

end Log

end CompilationChecks
