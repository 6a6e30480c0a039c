import CompilationChecks.Text.Printable

/-!
The quoted form of a text, which stands on one line whatever the text holds: between quotation
marks, with a backslash before quotation marks and backslashes, the usual letters for the four
common control characters, and the number of every other character that does not print.
-/

namespace CompilationChecks.Text

/-- The lower-case hexadecimal digits of a code point, without leading zeros. -/
def hexDigits (point : Nat) : List Char :=
  Nat.toDigits 16 point

/-- How quoted text writes one character. -/
def quotedChar (c : Char) : List Char :=
  match c with
  | '"' => ['\\', '"']
  | '\\' => ['\\', '\\']
  | '\t' => ['\\', 't']
  | '\n' => ['\\', 'n']
  | '\r' => ['\\', 'r']
  | '\x00' => ['\\', '0']
  | c =>
    if isPrintable c then [c]
    else ['\\', 'u', '\x7b'] ++ hexDigits c.toNat ++ ['\x7d']

/-- The quoted form of a text. -/
def quoted (text : String) : String :=
  String.ofList ('"' :: text.toList.flatMap quotedChar ++ ['"'])

end CompilationChecks.Text
