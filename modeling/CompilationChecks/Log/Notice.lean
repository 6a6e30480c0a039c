import CompilationChecks.Log.Event

/-!
What a subscriber of the process-wide trace gets to see: call events of delegates that log there,
complaints about a broken log writer, and the progress of a verification. Every notice has a
level, a target and a list of named texts.
-/

namespace CompilationChecks.Log

/-- One notice of the process-wide trace. -/
inductive Notice where
  /-- An event of a call. -/
  | call (event : Event)
  /-- A line of the log could not be written. -/
  | writerBroken
  /-- The compilation of a fixture was built over a file manager. -/
  | compilationBuilt (fixture manager : String)
  /-- A fixture met its expectation. -/
  | fixturePassed (fixture : String)
  /-- A fixture did not meet its expectation. -/
  | fixtureFailed (fixture message : String)
  deriving DecidableEq, Repr

namespace Notice

/-- The reason that a broken writer gives for every write and every flush. -/
def brokenWriterReason : String :=
  "writer is broken"

/-- How severe a notice is. -/
def level : Notice → Level
  | .call event => event.level
  | .writerBroken => .warn
  | .compilationBuilt _ _ => .debug
  | .fixturePassed _ => .info
  | .fixtureFailed _ _ => .warn

/-- The part of the program that a notice is about. -/
def target : Notice → String
  | .call _ => "compile_assert::filemanagers"
  | .writerBroken => "compile_assert::filemanagers"
  | .compilationBuilt _ _ => "compile_assert_harness::runner"
  | .fixturePassed _ => "compile_assert_harness::runner"
  | .fixtureFailed _ _ => "compile_assert_harness::runner"

/-- The named texts of a notice; the message comes first. -/
def fields : Notice → List (String × String)
  | .call event =>
    ("message", event.message) :: (event.error.map fun error => ("error", error)).toList
  | .writerBroken => [("message", "failed to write call event"), ("err", brokenWriterReason)]
  | .compilationBuilt fixture manager =>
    [("message", "built compilation"), ("fixture", fixture), ("file_manager", manager)]
  | .fixturePassed fixture => [("message", "fixture passed"), ("fixture", fixture)]
  | .fixtureFailed fixture message =>
    [("message", "fixture failed"), ("fixture", fixture), ("message", message)]

end Notice

end CompilationChecks.Log
