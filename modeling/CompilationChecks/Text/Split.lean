/-!
Cutting a text at marks, and looking for one text inside another. All functions work on the
list of characters, so that each law about them is one induction.
-/

namespace CompilationChecks.Text

/-- The pieces of a text between the characters that `isBreak` marks. There is always one piece
more than there are marks, so the empty text has one empty piece. -/
def pieces (isBreak : Char → Bool) : List Char → List (List Char)
  | [] => [[]]
  | c :: rest =>
    if isBreak c then [] :: pieces isBreak rest
    else
      match pieces isBreak rest with
      | [] => [[c]]
      | first :: others => (c :: first) :: others

theorem pieces_ne_nil (isBreak : Char → Bool) (text : List Char) :
    pieces isBreak text ≠ [] := by
  cases text with
  | nil => simp [pieces]
  | cons c rest =>
      unfold pieces
      split
      · simp
      · split <;> simp

/-- What stands before and after the first occurrence of a mark. -/
def splitFirst? (mark : Char) : List Char → Option (List Char × List Char)
  | [] => none
  | c :: rest =>
    if c = mark then some ([], rest)
    else (splitFirst? mark rest).map fun parts => (c :: parts.1, parts.2)

/-- What stands before and after the last occurrence of a mark. -/
def splitLast? (mark : Char) : List Char → Option (List Char × List Char)
  | [] => none
  | c :: rest =>
    match splitLast? mark rest with
    | some parts => some (c :: parts.1, parts.2)
    | none => if c = mark then some ([], rest) else none

/-- Whether one text occurs inside another. The empty text occurs in every text. -/
def occursIn (needle : List Char) : List Char → Bool
  | [] => needle.isEmpty
  | c :: rest => needle.isPrefixOf (c :: rest) || occursIn needle rest

/-- A line without the carriage return at its end. -/
def withoutReturn (line : List Char) : List Char :=
  if line.getLast? = some '\r' then line.dropLast else line

/-- Lines from pieces that line feeds separate: a carriage return before a line feed belongs to
the line break, and nothing after the last line feed is no line. -/
def linesOfPieces : List (List Char) → List (List Char)
  | [] => []
  | [last] => if last.isEmpty then [] else [last]
  | piece :: next :: others => withoutReturn piece :: linesOfPieces (next :: others)

/-- The lines of a text, without their line breaks. -/
def lines (text : List Char) : List (List Char) :=
  linesOfPieces (pieces (· == '\n') text)

end CompilationChecks.Text
