import CompilationChecks.Log.Level
import CompilationChecks.Operation

/-!
What the log says about one call: an entry when it begins, and one of three exits when it ends.
-/

namespace CompilationChecks.Log

/-- The moment of a call that an event describes. -/
inductive Moment where
  /-- The call begins. -/
  | entry
  /-- The call ends with an answer. -/
  | returned
  /-- The call ends, and its answer says nothing. -/
  | completed
  /-- The call fails or is abandoned. -/
  | failed
  deriving DecidableEq, Repr

namespace Moment

/-- Beginnings and failures are more severe than ordinary ends. -/
def level : Moment → Level
  | .entry => .info
  | .returned => .debug
  | .completed => .debug
  | .failed => .info

/-- The name of a moment in recorded data. -/
def name : Moment → String
  | .entry => "entry"
  | .returned => "exit_normal"
  | .completed => "exit_void"
  | .failed => "exit_exceptional"

/-- The moment as log entries show it inside values. -/
def inspect : Moment → String
  | .entry => "Entry"
  | .returned => "ExitNormal"
  | .completed => "ExitVoid"
  | .failed => "ExitExceptional"

end Moment

/-- One event of a call. -/
structure Event where
  /-- The moment of the call. -/
  moment : Moment
  /-- The number of the thread that makes the call. -/
  thread : UInt64
  /-- How many calls through the same delegate are open on the thread, this one included. -/
  depth : UInt32
  /-- The type of the answer. -/
  returnType : String
  /-- The name of the operation. -/
  operation : String
  /-- The types of the parameters. -/
  parameterTypes : String
  /-- The arguments, when the call begins. -/
  arguments : Option String
  /-- The frames that led to the call, when the call begins and they were asked for. -/
  stackTrace : Option String
  /-- The answer, when the call ends with one. -/
  result : Option String
  /-- The reason, when the call fails. -/
  error : Option String
  deriving DecidableEq, Repr

namespace Event

/-- The level of the moment that the event describes. -/
def level (event : Event) : Level :=
  event.moment.level

/-- Thread, depth and operation, with which every line begins. -/
def signature (event : Event) : String :=
  "[thread=" ++ toString event.thread ++ ", depth=" ++ toString event.depth ++ "] " ++
    event.returnType ++ " " ++ event.operation ++ "(" ++ event.parameterTypes ++ ")"

/-- The line for people to read. The reason of a failure is not part of it. -/
def message (event : Event) : String :=
  match event.moment with
  | .entry =>
    ">>> " ++ event.signature ++ " called with (" ++ event.arguments.getD "" ++ ")" ++
      event.stackTrace.getD ""
  | .completed => "<<< " ++ event.signature ++ " completed"
  | .returned => "<<< " ++ event.signature ++ " returned " ++ event.result.getD ""
  | .failed => "!!! " ++ event.signature ++ " threw exception"

/-- The event as log entries show it inside values. -/
def inspect (event : Event) : String :=
  Inspection.record "CallEvent"
    [("kind", event.moment.inspect), ("thread", toString event.thread),
      ("depth", toString event.depth), ("return_type", Text.quoted event.returnType),
      ("operation", Text.quoted event.operation),
      ("param_types", Text.quoted event.parameterTypes),
      ("arguments", Inspection.option (event.arguments.map Text.quoted)),
      ("stack_trace", Inspection.option (event.stackTrace.map Text.quoted)),
      ("result", Inspection.option (event.result.map Text.quoted)),
      ("error", Inspection.option (event.error.map Text.quoted))]

end Event

end CompilationChecks.Log
