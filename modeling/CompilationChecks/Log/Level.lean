/-!
How severe a log entry is. A limit lets through entries that are at least as severe.
-/

namespace CompilationChecks.Log

/-- The levels of log entries, most severe first. -/
inductive Level where
  | error
  | warn
  | info
  | debug
  | trace
  deriving DecidableEq, Repr

namespace Level

/-- Every level, most severe first. -/
def all : List Level :=
  [.error, .warn, .info, .debug, .trace]

/-- The place of a level in the order of severity. -/
def rank : Level → Nat
  | .error => 0
  | .warn => 1
  | .info => 2
  | .debug => 3
  | .trace => 4

/-- Whether entries of a level pass a limit. -/
def within (level limit : Level) : Bool :=
  level.rank ≤ limit.rank

/-- The name of a level, in capitals. -/
def name : Level → String
  | .error => "ERROR"
  | .warn => "WARN"
  | .info => "INFO"
  | .debug => "DEBUG"
  | .trace => "TRACE"

end Level

end CompilationChecks.Log
