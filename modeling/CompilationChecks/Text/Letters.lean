/-!
Letter case of the 26 Latin letters without marks. Every other character is left alone.
-/

namespace CompilationChecks.Text

/-- The text with the letters `A` to `Z` made small. -/
def lowered (text : List Char) : List Char :=
  text.map Char.toLower

/-- The text with the letters `a` to `z` made capital. -/
def raised (text : List Char) : List Char :=
  text.map Char.toUpper

/-- Equal but for the case of Latin letters. -/
def sameLetters (left right : List Char) : Bool :=
  lowered left == lowered right

end CompilationChecks.Text
