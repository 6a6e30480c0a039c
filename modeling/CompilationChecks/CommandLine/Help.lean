/-!
Help texts: what a command is about, how it is used, and what its arguments mean. The explanations
of a section begin in one column. A terminal can set off titles and the words that are to be typed
as they stand; without that a help text is plain.
-/

namespace CompilationChecks.CommandLine

/-- A piece of a line. -/
inductive Piece where
  /-- The title of a section. -/
  | title (text : String)
  /-- Something to be typed as it stands. -/
  | literal (text : String)
  /-- Anything else. -/
  | plain (text : String)
  deriving DecidableEq, Repr

namespace Piece

/-- The characters of a piece. -/
def text : Piece → String
  | .title text => text
  | .literal text => text
  | .plain text => text

/-- A piece as it is printed, set off where that is wanted. -/
def render (setOff : Bool) : Piece → String
  | .title text => if setOff then "\x1b[1m\x1b[4m" ++ text ++ "\x1b[0m" else text
  | .literal text => if setOff then "\x1b[1m" ++ text ++ "\x1b[0m" else text
  | .plain text => text

end Piece

/-- Several pieces in a row. -/
abbrev Line := List Piece

namespace Line

/-- The number of characters of a line. -/
def width (line : Line) : Nat :=
  line.foldl (fun sum piece => sum + piece.text.length) 0

/-- A line as it is printed. -/
def render (line : Line) (setOff : Bool) : String :=
  String.join (line.map (Piece.render setOff))

end Line

/-- An argument with its meaning. -/
structure Entry where
  /-- How the argument is written. -/
  label : Line
  /-- What it means. -/
  explanation : String
  deriving DecidableEq, Repr

namespace Entry

/-- An option with a value. Its name stands in the column of long names. -/
def valued (name value explanation : String) : Entry :=
  ⟨[.plain "    ", .literal ("--" ++ name), .plain (" <" ++ value ++ ">")], explanation⟩

/-- A command. -/
def command (name explanation : String) : Entry :=
  ⟨[.literal name], explanation⟩

/-- An entry whose explanation begins behind a label of the given width. -/
def render (entry : Entry) (width : Nat) (setOff : Bool) : String :=
  "  " ++ entry.label.render setOff ++
    String.ofList (List.replicate (width - entry.label.width) ' ') ++
    "  " ++ entry.explanation ++ "\n"

end Entry

/-- Arguments of one kind. -/
structure Section where
  /-- What they are. -/
  title : String
  /-- The arguments. -/
  entries : List Entry
  deriving DecidableEq, Repr

namespace Section

/-- The width of the widest label. -/
def width (part : Section) : Nat :=
  part.entries.foldl (fun widest entry => max widest entry.label.width) 0

/-- A section behind an empty line. -/
def render (part : Section) (setOff : Bool) : String :=
  "\n" ++ (Piece.title part.title).render setOff ++ "\n" ++
    String.join (part.entries.map fun entry => entry.render part.width setOff)

end Section

/-- A help text. -/
structure Help where
  /-- What the command does. -/
  about : String
  /-- How it is used. -/
  usage : Line
  /-- Its arguments. -/
  sections : List Section
  deriving DecidableEq, Repr

namespace Help

/-- A help text as it is printed. -/
def render (help : Help) (setOff : Bool) : String :=
  help.about ++ "\n\n" ++
    Line.render (.title "Usage:" :: .plain " " :: help.usage) setOff ++ "\n" ++
    String.join (help.sections.map fun part => part.render setOff)

end Help

/-! ## The commands -/

/-- The name of the program. -/
def programName : String :=
  "compile-assert-harness"

/-- The meaning of the command that verifies. -/
def verifyMeaning : String :=
  "Run every fixture in a fixture file and report the outcomes"

/-- The meaning of the command that explains. -/
def helpMeaning : String :=
  "Print this message or the help of the given subcommand(s)"

/-- The option that sets how much the process says about itself. -/
def levelEntry : Entry :=
  .valued "log-level" "LOG_LEVEL"
    ("Log filter directive (e.g. `info`, `compile_assert::filemanagers=debug`) " ++
      "[default: info]")

/-- The option that asks for help. -/
def helpEntry : Entry :=
  ⟨[.literal "-h", .plain ", ", .literal "--help"], "Print help"⟩

/-- What can be explained. -/
inductive Topic where
  /-- The whole program. -/
  | program
  /-- The command that verifies. -/
  | verification
  /-- The command that explains. -/
  | help
  deriving DecidableEq, Repr

/-- The explanation of a topic. -/
def Topic.explanation : Topic → Help
  | .program =>
    { about := "Verify recorded compilations against their expectations"
      usage := [.literal programName, .plain " [OPTIONS] <COMMAND>"]
      sections :=
        [⟨"Commands:", [.command "verify" verifyMeaning, .command "help" helpMeaning]⟩,
          ⟨"Options:", [levelEntry, helpEntry]⟩] }
  | .verification =>
    { about := verifyMeaning
      usage :=
        [.literal (programName ++ " verify"), .plain " [OPTIONS] ", .literal "--fixture",
          .plain " <FIXTURE>"]
      sections :=
        [⟨"Options:",
          [.valued "fixture" "FIXTURE" "Fixture set JSON file", levelEntry,
            .valued "logging" "LOGGING"
              ("File-manager logging mode (`enabled`, `stacktraces`, `disabled`). " ++
                "Defaults to the `COMPILE_ASSERT_FILE_MANAGER_LOGGING` environment variable"),
            .valued "output" "OUTPUT"
              "Output report path (JSON). Printed to stdout when omitted",
            helpEntry]⟩] }
  | .help =>
    { about := helpMeaning
      usage := [.literal (programName ++ " help"), .plain " [COMMAND]..."]
      sections :=
        [⟨"Arguments:", [⟨[.plain "[COMMAND]..."], "Print help for the subcommand(s)"⟩]⟩] }

end CompilationChecks.CommandLine
