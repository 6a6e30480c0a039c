import CompilationChecks.Delegate
import CompilationChecks.Text.Blank
import CompilationChecks.Text.Letters

/-!
Whether the calls to a file manager are logged, and whether with the frames that led to them. The
mode is written as text in settings, where many spellings are understood and everything else
means that nothing is logged.
-/

namespace CompilationChecks

/-- How calls to a file manager are logged. -/
inductive LoggingMode where
  | enabled
  | stackTraces
  | disabled
  deriving DecidableEq, Repr

namespace LoggingMode

/-- The variable of the environment that sets the mode. -/
def environmentVariable : String :=
  "COMPILE_ASSERT_FILE_MANAGER_LOGGING"

/-- The mode that a text asks for. Blank characters around the text and the case of letters do
not matter. -/
def ofText (text : String) : LoggingMode :=
  let word := String.ofList (Text.lowered (Text.trim text.toList))
  if ["enabled", "on", "true", "1", "log"].contains word then .enabled
  else if ["stacktraces", "stack_traces", "stack-traces", "trace", "full"].contains word then
    .stackTraces
  else .disabled

/-- The canonical name of a mode. -/
def name : LoggingMode → String
  | .enabled => "enabled"
  | .stackTraces => "stacktraces"
  | .disabled => "disabled"

/-- The mode as log entries show it inside values. -/
def inspect : LoggingMode → String
  | .enabled => "Enabled"
  | .stackTraces => "StackTraces"
  | .disabled => "Disabled"

/-- Whether calls are logged. -/
def isEnabled : LoggingMode → Bool
  | .disabled => false
  | _ => true

/-- Whether the frames that led to a call are logged. -/
def showsFrames : LoggingMode → Bool
  | .stackTraces => true
  | _ => false

/-- The delegates that a mode puts around a manager: one or none. -/
def delegates (mode : LoggingMode) (number : Nat) (sink : Log.Sink) : List Delegate :=
  if mode.isEnabled then [⟨number, mode.showsFrames, sink⟩] else []

end LoggingMode

/-- The mode of a process: what was set last, or what the environment asked for when the mode was
first needed. -/
structure ModeSetting where
  /-- The mode, once it is settled. -/
  settled : Option LoggingMode
  deriving DecidableEq, Repr

namespace ModeSetting

/-- Nothing is settled. -/
def unsettled : ModeSetting :=
  ⟨none⟩

/-- Sets the mode, whatever it was. -/
def set (_ : ModeSetting) (mode : LoggingMode) : ModeSetting :=
  ⟨some mode⟩

/-- The mode, given the text in the environment. -/
def mode (setting : ModeSetting) (environment : Option String) : LoggingMode :=
  setting.settled.getD ((environment.map LoggingMode.ofText).getD .disabled)

/-- The setting after the mode was needed. -/
def settle (setting : ModeSetting) (environment : Option String) : ModeSetting :=
  ⟨some (setting.mode environment)⟩

/-- The modes after each of several steps, with nothing in the environment. A step sets the mode
with a text or leaves it as it is. -/
def history (setting : ModeSetting) : List (Option String) → List LoggingMode
  | [] => []
  | none :: steps => setting.mode none :: history (setting.settle none) steps
  | some text :: steps => .ofText text :: history (setting.set (.ofText text)) steps

end ModeSetting

end CompilationChecks
