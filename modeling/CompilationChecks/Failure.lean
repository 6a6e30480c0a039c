/-!
Why a call to a file manager fails. A failure has a fault of its own, or it passes on the failure
of an implementation that the call was dispatched to; either way it lists the failures that were
set aside while it travelled. Passing a failure on is undone one step at a time by `unwrap`, which
loses nothing: the wrapper, without its cause, joins the failures set aside.
-/

namespace CompilationChecks

/-- What went wrong, as far as one failure says it without its causes. -/
inductive Fault where
  /-- The world outside failed. -/
  | io (message : String)
  /-- The location holds modules, so it has no files of its own. -/
  | moduleOriented (location : String)
  /-- The location holds no modules. -/
  | notModuleOriented (location : String)
  /-- The location is not written to. -/
  | notOutput (location : String)
  /-- The location has no roots. -/
  | notConfigured (location : String)
  /-- No root of the location holds the file. -/
  | fileNotFound (location path : String)
  /-- The manager was closed before. -/
  | closed
  /-- An implementation behind the manager failed at an operation. -/
  | dispatch (operation : String)
  deriving DecidableEq, Repr

/-- A failure of a call to a file manager. -/
inductive Failure where
  /-- A fault, with the failures that were set aside. -/
  | raised (fault : Fault) (suppressed : List Failure)
  /-- The failure of the implementation that an operation was dispatched to. -/
  | forwarded (operation : String) (cause : Failure) (suppressed : List Failure)
  deriving Repr

namespace Fault

/-- The text of a fault. -/
def message : Fault → String
  | .io message => "io: " ++ message
  | .moduleOriented location => "location " ++ location ++ " is module-oriented"
  | .notModuleOriented location => "location " ++ location ++ " is not module-oriented"
  | .notOutput location => "location " ++ location ++ " is not an output location"
  | .notConfigured location => "location " ++ location ++ " has not been configured"
  | .fileNotFound location path => "file " ++ path ++ " not found in " ++ location
  | .closed => "file manager has been closed"
  | .dispatch operation => "dispatch of `" ++ operation ++ "` failed"

end Fault

namespace Failure

/-- A fault with nothing set aside. -/
def of (fault : Fault) : Failure :=
  .raised fault []

/-- The fault of a failure itself, whatever caused it. -/
def fault : Failure → Fault
  | .raised fault _ => fault
  | .forwarded operation _ _ => .dispatch operation

/-- The failures that were set aside, oldest first. -/
def suppressed : Failure → List Failure
  | .raised _ suppressed => suppressed
  | .forwarded _ _ suppressed => suppressed

/-- The failure that this one passes on. -/
def cause? : Failure → Option Failure
  | .raised _ _ => none
  | .forwarded _ cause _ => some cause

/-- The failure with one more set aside. -/
def suppress (failure other : Failure) : Failure :=
  match failure with
  | .raised fault suppressed => .raised fault (suppressed ++ [other])
  | .forwarded operation cause suppressed => .forwarded operation cause (suppressed ++ [other])

/-- A failure that passes on its cause becomes that cause; the wrapper is set aside without the
cause it handed over. Any other failure stays as it is. -/
def unwrap : Failure → Failure
  | .raised fault suppressed => .raised fault suppressed
  | .forwarded operation cause suppressed =>
    cause.suppress (.raised (.dispatch operation) suppressed)

mutual

/-- The text of a failure: its own fault, then each failure that was set aside. -/
def message : Failure → String
  | .raised fault suppressed => fault.message ++ suppressedText suppressed
  | .forwarded operation _ suppressed =>
    (Fault.dispatch operation).message ++ suppressedText suppressed

/-- The text for the failures that were set aside. -/
def suppressedText : List Failure → String
  | [] => ""
  | failure :: others =>
    " (suppressed: " ++ failure.message ++ ")" ++ suppressedText others

end

/-- Whether the failure tells of a dispatch that failed. -/
def isDispatch (failure : Failure) : Bool :=
  match failure.fault with
  | .dispatch _ => true
  | _ => false

/-- The texts of the causes behind a failure, nearest first. Behind a fault of the outside world
stands that world's own message. -/
def sources : Failure → List String
  | .raised (.io message) _ => [message]
  | .raised _ _ => []
  | .forwarded _ cause _ => cause.message :: cause.sources

end Failure

end CompilationChecks
