import CompilationChecks.Codec.Report
import CompilationChecks.CommandLine.Help
import CompilationChecks.Disk
import CompilationChecks.Verification

/-!
The command line. Its one command reads a file of fixtures, verifies them, and prints the report
or writes it to a file. Options come before the command or behind it, each with a value that
follows an equals sign or is the next argument; a value of its own must not look like an option.
What is done is written down once, for whatever means a process has where it runs.
-/

namespace CompilationChecks

namespace CommandLine

/-! ## Arguments -/

/-- Why arguments cannot be understood. -/
inductive Misuse where
  /-- There is no command. -/
  | missingCommand
  /-- A command that does not exist. -/
  | unknownCommand (name : String)
  /-- An option that does not exist. -/
  | unknownOption (name : String)
  /-- An argument that nothing asks for. -/
  | unexpectedArgument (text : String)
  /-- An option without a value. -/
  | missingValue (name : String)
  /-- An option that is given twice. -/
  | repeatedOption (name : String)
  /-- An option that must be given and is not. -/
  | missingOption (name : String)
  deriving DecidableEq, Repr

/-- What an argument looks like. -/
inductive Shape where
  /-- The mark behind which nothing is an option any more. -/
  | escape
  /-- The long name of an option, perhaps with a value. -/
  | long (name : String) (value : Option String)
  /-- Letters that are options. -/
  | letters (letters : List Char)
  /-- Anything else. -/
  | plain (text : String)
  deriving DecidableEq, Repr

/-- The shape of an argument. -/
def shape (argument : String) : Shape :=
  match argument.toList with
  | ['-', '-'] => .escape
  | '-' :: '-' :: rest =>
    match Text.splitFirst? '=' rest with
    | some (name, value) => .long (String.ofList name) (some (String.ofList value))
    | none => .long (String.ofList rest) none
  | '-' :: first :: rest => .letters (first :: rest)
  | _ => .plain argument

/-- An option that takes a value. -/
structure OptionRule where
  /-- The long name. -/
  name : String
  /-- Whether the value may be empty. -/
  allowsEmpty : Bool
  deriving DecidableEq, Repr

/-- The options that were read, latest first. -/
abbrev Chosen := List (String × String)

/-- Where the reading of options stops. -/
inductive Stop where
  /-- At the end. -/
  | finished
  /-- At an argument that is no option. -/
  | atArgument (text : String) (rest : List String)
  /-- At a wish for help. -/
  | atHelp
  deriving DecidableEq, Repr

/-- The options with the value of one more. -/
def choose (rule : OptionRule) (chosen : Chosen) (value : String) : Except Misuse Chosen :=
  if (chosen.lookup rule.name).isSome then .error (.repeatedOption rule.name)
  else if value.isEmpty && !rule.allowsEmpty then .error (.missingValue rule.name)
  else .ok ((rule.name, value) :: chosen)

/-- Whether an argument may be the value of the option before it. -/
def isValue (argument : String) : Bool :=
  match shape argument with
  | .plain _ => true
  | _ => false

/-- Reads options up to the first argument that is none. -/
def readOptions (rules : List OptionRule) (chosen : Chosen) :
    List String → Except Misuse (Chosen × Stop)
  | [] => .ok (chosen, .finished)
  | argument :: rest =>
    match shape argument with
    | .plain text => .ok (chosen, .atArgument text rest)
    | .escape =>
      match rest with
      | [] => .ok (chosen, .finished)
      | text :: _ => .error (.unexpectedArgument text)
    | .letters letters =>
      if letters.head? = some 'h' then .ok (chosen, .atHelp)
      else .error (.unknownOption argument)
    | .long name value =>
      match rules.find? fun rule => rule.name == name, value, rest with
      | none, none, _ =>
        if name = "help" then .ok (chosen, .atHelp) else .error (.unknownOption argument)
      | none, some _, _ => .error (.unknownOption argument)
      | some rule, some value, rest => do
        readOptions rules (← choose rule chosen value) rest
      | some rule, none, value :: others =>
        if isValue value then do
          readOptions rules (← choose rule chosen value) others
        else .error (.missingValue name)
      | some _, none, [] => .error (.missingValue name)

/-! ## Requests -/

/-- The options of a verification. -/
structure Options where
  /-- The path of the fixtures. -/
  fixture : String
  /-- The text that sets how calls to file managers are logged. -/
  logging : Option String
  /-- The path for the report. -/
  output : Option String
  deriving DecidableEq, Repr

/-- What the arguments ask for. -/
inductive Request where
  | verify (options : Options)
  /-- An explanation. -/
  | explain (topic : Topic)
  deriving DecidableEq, Repr

/-- The option that sets how much the process says about itself. -/
def levelRule : OptionRule :=
  ⟨"log-level", true⟩

/-- The options of a verification. -/
def verifyRules : List OptionRule :=
  [⟨"fixture", false⟩, ⟨"logging", true⟩, ⟨"output", false⟩, levelRule]

/-- The request that the arguments behind the word for help make. -/
def readHelp : List String → Except Misuse Request
  | [] => .ok (.explain .program)
  | ["help"] => .ok (.explain .help)
  | ["verify"] => .ok (.explain .verification)
  | "verify" :: other :: _ => .error (.unknownCommand other)
  | other :: _ => .error (.unknownCommand other)

/-- The request that the arguments behind the word for a verification make. -/
def readVerify (arguments : List String) : Except Misuse Request := do
  match ← readOptions verifyRules [] arguments with
  | (_, .atArgument text _) => .error (.unexpectedArgument text)
  | (_, .atHelp) => .ok (.explain .verification)
  | (chosen, .finished) =>
    match chosen.lookup "fixture" with
    | none => .error (.missingOption "fixture")
    | some fixture => .ok (.verify ⟨fixture, chosen.lookup "logging", chosen.lookup "output"⟩)

/-- The request that the arguments make. -/
def read (arguments : List String) : Except Misuse Request := do
  match ← readOptions [levelRule] [] arguments with
  | (_, .finished) => .error .missingCommand
  | (_, .atHelp) => .ok (.explain .program)
  | (_, .atArgument command rest) =>
    if command = "verify" then readVerify rest
    else if command = "help" then readHelp rest
    else .error (.unknownCommand command)

/-! ## Texts -/

/-- The text of a misuse. -/
def Misuse.message : Misuse → String
  | .missingCommand => "error: a command is required"
  | .unknownCommand name => "error: unrecognized subcommand '" ++ name ++ "'"
  | .unknownOption name => "error: unexpected argument '" ++ name ++ "' found"
  | .unexpectedArgument text => "error: unexpected argument '" ++ text ++ "' found"
  | .missingValue name => "error: a value is required for '--" ++ name ++ "'"
  | .repeatedOption name => "error: '--" ++ name ++ "' cannot be used multiple times"
  | .missingOption name => "error: '--" ++ name ++ "' must be provided"

/-! ## Running -/

/-- How the process ends. -/
inductive ExitStatus where
  /-- All went well. -/
  | success
  /-- A fixture failed, or there was a trouble. -/
  | failure
  /-- The arguments could not be understood. -/
  | misuse
  deriving DecidableEq, Repr

/-- The number of a status. -/
def ExitStatus.code : ExitStatus → Nat
  | .success => 0
  | .failure => 1
  | .misuse => 2

/-- The variables that a process finds around it, with their values. -/
abbrev Environment := List (String × String)

namespace Environment

/-- The variable that keeps texts plain. -/
def plainVariable : String :=
  "NO_COLOR"

/-- The variable that lets words be set off wherever a text goes. -/
def setOffVariable : String :=
  "CLICOLOR_FORCE"

/-- The variables that matter. -/
def known : List String :=
  [LoggingMode.environmentVariable, plainVariable, setOffVariable]

/-- The variables that matter, each as it can be found. -/
def collect {m : Type → Type} [Monad m] (value : String → m (Option String)) : m Environment :=
  known.filterMapM fun name => do
    return (← value name).map fun found => (name, found)

/-- Whether a variable has a value that is not empty. -/
def has (environment : Environment) (name : String) : Bool :=
  (environment.lookup name).any fun value => !value.isEmpty

/-- Whether words are set off in a help text that does not go to a terminal. -/
def setsOff (environment : Environment) : Bool :=
  !environment.has plainVariable && environment.has setOffVariable

end Environment

/-- The mode that options ask for, or else the environment. -/
def Options.mode (options : Options) (environment : Environment) : LoggingMode :=
  match options.logging with
  | some text => .ofText text
  | none => ModeSetting.unsettled.mode (environment.lookup LoggingMode.environmentVariable)

/-- The report on the fixtures in a file, given the bytes in it if the file exists. -/
def Options.report (options : Options) (environment : Environment) (content : Option Bytes) :
    Except Trouble Report := do
  let set ← FixtureSet.ofContent (FixtureSet.contentText content)
  let verifier : Verifier := ⟨options.mode environment, .subscriber, ⟨none, []⟩⟩
  let outcomes ← (verifier.verify set).1
  return verifier.report outcomes

/-- The status after a report was delivered. -/
def statusOf (report : Report) : ExitStatus :=
  if report.allPassed then .success else .failure

/-- Whatever a process can do where it runs. -/
structure Means (m : Type → Type) where
  /-- Reads the bytes in the file at a path, if that is possible. -/
  read : String → m (Option Bytes)
  /-- Prints a text. -/
  print : String → m Unit
  /-- Shows a text beside what is printed. -/
  complain : String → m Unit
  /-- Writes a text to the file at a path. Answers whether that was possible. -/
  write : String → String → m Bool

section Program

variable {m : Type → Type} [Monad m] (means : Means m)

/-- Prints a report with a line break behind it, or writes it as it is. -/
def Options.publish (options : Options) (report : Report) : m ExitStatus := do
  match options.output with
  | none =>
    means.print (report.text ++ "\n")
    return statusOf report
  | some path =>
    if ← means.write path report.text then return statusOf report
    else return .failure

/-- Verifies fixtures and publishes the report. -/
def Options.verify (options : Options) (environment : Environment) : m ExitStatus := do
  match options.report environment (← means.read options.fixture) with
  | .error trouble =>
    means.complain ("Error: " ++ trouble.message)
    return .failure
  | .ok report => options.publish means report

/-- Does what the arguments ask for. -/
def program (arguments : List String) (environment : Environment) : m ExitStatus := do
  match read arguments with
  | .error misuse =>
    means.complain misuse.message
    return .misuse
  | .ok (.explain topic) =>
    means.print (topic.explanation.render environment.setsOff)
    return .success
  | .ok (.verify options) => options.verify means environment

end Program

/-! ## Running on a disk -/

/-- What a process has left behind so far. -/
structure Traces where
  /-- What it printed. -/
  printed : String
  /-- The place and the text of the file that it wrote. -/
  written : Option (Place × String)
  deriving DecidableEq, Repr

/-- The means of a process that finds the given disk. -/
def diskMeans (disk : Disk) : Means (StateM Traces) where
  read path traces := (disk.read? path, traces)
  print text traces := ((), { traces with printed := traces.printed ++ text })
  complain _ traces := ((), traces)
  write path text traces :=
    match disk.destination? path with
    | none => (false, traces)
    | some (.file place) => (true, { traces with written := some (place, text) })
    | some (.device .output) => (true, { traces with printed := traces.printed ++ text })
    | some (.device _) => (true, traces)

/-- What a process leaves behind. -/
structure Outcome where
  /-- How it ends. -/
  status : ExitStatus
  /-- What it prints. -/
  printed : String
  /-- The place and the text of the file that it writes. -/
  written : Option (Place × String)
  deriving DecidableEq, Repr

/-- An outcome without any output. -/
def Outcome.silent (status : ExitStatus) : Outcome :=
  ⟨status, "", none⟩

/-- The outcome of a process that has left nothing behind so far. -/
def Outcome.ofProcess (process : StateM Traces ExitStatus) : Outcome :=
  let ended := process ⟨"", none⟩
  ⟨ended.1, ended.2.printed, ended.2.written⟩

/-- The outcome of a verification. -/
def Options.run (options : Options) (environment : Environment) (disk : Disk) : Outcome :=
  .ofProcess (options.verify (diskMeans disk) environment)

/-- The outcome of a process with the given arguments. -/
def run (arguments : List String) (environment : Environment) (disk : Disk) : Outcome :=
  .ofProcess (program (diskMeans disk) arguments environment)

end CommandLine

end CompilationChecks
