/-!
JSON values to be written, and their two layouts as text: on one line without any blanks, and on
many lines with an indentation of two blanks for each level.
-/

namespace CompilationChecks.Json

/-- A value to be written. -/
inductive Value where
  | flag (value : Bool)
  | natural (value : Nat)
  | text (value : String)
  | list (items : List Value)
  | object (members : List (String × Value))
  deriving Repr

/-- How a string in a JSON text writes one character. -/
def writtenChar (c : Char) : List Char :=
  match c with
  | '"' => ['\\', '"']
  | '\\' => ['\\', '\\']
  | '\x08' => ['\\', 'b']
  | '\x0c' => ['\\', 'f']
  | '\n' => ['\\', 'n']
  | '\r' => ['\\', 'r']
  | '\t' => ['\\', 't']
  | c =>
    if c.toNat < 0x10 then ['\\', 'u', '0', '0', '0'] ++ Nat.toDigits 16 c.toNat
    else if c.toNat < 0x20 then ['\\', 'u', '0', '0'] ++ Nat.toDigits 16 c.toNat
    else [c]

/-- A string in a JSON text. -/
def writtenText (text : String) : List Char :=
  '"' :: text.toList.flatMap writtenChar ++ ['"']

/-- A truth value in a JSON text. -/
def writtenFlag (value : Bool) : List Char :=
  if value then ['t', 'r', 'u', 'e'] else ['f', 'a', 'l', 's', 'e']

/-! ## On one line -/

mutual

/-- The value on one line. -/
def compactChars : Value → List Char
  | .flag value => writtenFlag value
  | .natural value => Nat.toDigits 10 value
  | .text value => writtenText value
  | .list [] => ['[', ']']
  | .list (first :: others) => '[' :: compactChars first ++ compactItems others
  | .object [] => ['\x7b', '\x7d']
  | .object ((name, value) :: others) =>
    '\x7b' :: writtenText name ++ ':' :: compactChars value ++ compactMembers others

/-- The items after the first one, and the closing bracket. -/
def compactItems : List Value → List Char
  | [] => [']']
  | value :: others => ',' :: compactChars value ++ compactItems others

/-- The members after the first one, and the closing brace. -/
def compactMembers : List (String × Value) → List Char
  | [] => ['\x7d']
  | (name, value) :: others =>
    ',' :: writtenText name ++ ':' :: compactChars value ++ compactMembers others

end

/-! ## On many lines -/

/-- The beginning of a line at some level. -/
def newLine (level : Nat) : List Char :=
  '\n' :: List.replicate (2 * level) ' '

mutual

/-- The value on many lines, where `level` is the level of the line it begins on. -/
def prettyChars (level : Nat) : Value → List Char
  | .flag value => writtenFlag value
  | .natural value => Nat.toDigits 10 value
  | .text value => writtenText value
  | .list [] => ['[', ']']
  | .list (first :: others) =>
    '[' :: newLine (level + 1) ++ prettyChars (level + 1) first ++ prettyItems level others
  | .object [] => ['\x7b', '\x7d']
  | .object ((name, value) :: others) =>
    '\x7b' :: newLine (level + 1) ++ writtenText name ++ ':' :: ' ' ::
      prettyChars (level + 1) value ++ prettyMembers level others

/-- The items after the first one, and the closing bracket. -/
def prettyItems (level : Nat) : List Value → List Char
  | [] => newLine level ++ [']']
  | value :: others =>
    ',' :: newLine (level + 1) ++ prettyChars (level + 1) value ++ prettyItems level others

/-- The members after the first one, and the closing brace. -/
def prettyMembers (level : Nat) : List (String × Value) → List Char
  | [] => newLine level ++ ['\x7d']
  | (name, value) :: others =>
    ',' :: newLine (level + 1) ++ writtenText name ++ ':' :: ' ' ::
      prettyChars (level + 1) value ++ prettyMembers level others

end

namespace Value

/-- The value on one line. -/
def compact (value : Value) : String :=
  String.ofList (compactChars value)

/-- The value on many lines. -/
def pretty (value : Value) : String :=
  String.ofList (prettyChars 0 value)

/-- A member that is left out when there is no value for it. -/
def optionalMember {α : Type} (name : String) (encode : α → Value) :
    Option α → List (String × Value)
  | none => []
  | some value => [(name, encode value)]

/-- A table as an object, with the members in the order of their names. -/
def ofEntries {α : Type} (encode : α → Value) (entries : List (String × α)) : Value :=
  .object (entries.map fun entry => (entry.1, encode entry.2))

end Value

end CompilationChecks.Json
