import CompilationChecks.Json.Number
import CompilationChecks.Text.Letters

/-!
The tokens of JSON texts. Where a text stops making sense the tokens stop too, with a token that
tells why. Reading a token and passing over it are not the same: who passes over a string does not
mind surrogates without partners, and who passes over a number does not mind its size.
-/

namespace CompilationChecks.Json

/-- A token that is a value of its own. -/
inductive Leaf where
  | null
  | flag (value : Bool)
  | number (value : Number)
  /-- A number beyond all that can be read. -/
  | hugeNumber
  | text (value : String)
  /-- A string with a surrogate that has no partner. -/
  | unpairedText
  deriving DecidableEq, Repr

/-- A token. -/
inductive Token where
  | openArray
  | closeArray
  | openObject
  | closeObject
  | comma
  | colon
  | leaf (leaf : Leaf)
  /-- A string or another value that breaks off, with the fault for who reads it and the fault
  for who passes over it. -/
  | broken (inText : Bool) (read skipped : Fault)
  /-- A character that begins no token. -/
  | stray
  deriving DecidableEq, Repr

/-! ## Strings -/

/-- What the text behind a quotation mark turns out to be. -/
inductive TextScan where
  /-- A string, or nothing if a surrogate has no partner, and the text after it. -/
  | complete (value : Option (List Char)) (rest : List Char)
  /-- No string: the fault when it is read, and the fault when it is passed over. -/
  | broken (read skipped : Fault)
  deriving Repr

namespace TextScan

/-- The scan with one more character in front. -/
def push (c : Char) : TextScan → TextScan
  | .complete value rest => .complete (value.map (c :: ·)) rest
  | .broken read skipped => .broken read skipped

/-- The scan behind a surrogate that has no partner. -/
def unpaired : TextScan → TextScan
  | .complete _ rest => .complete none rest
  | .broken _ skipped => .broken .malformed skipped

/-- What is left of a text after a complete string. -/
def rest? : TextScan → Option (List Char)
  | .complete _ rest => some rest
  | .broken _ _ => none

@[simp] theorem rest?_complete (value : Option (List Char)) (rest : List Char) :
    (complete value rest).rest? = some rest :=
  rfl

@[simp] theorem rest?_broken (read skipped : Fault) :
    (broken read skipped).rest? = none :=
  rfl

@[simp] theorem rest?_push (c : Char) (scan : TextScan) :
    (scan.push c).rest? = scan.rest? := by
  cases scan <;> rfl

@[simp] theorem rest?_unpaired (scan : TextScan) :
    scan.unpaired.rest? = scan.rest? := by
  cases scan <;> rfl

end TextScan

/-- The value of a hexadecimal digit of either case. -/
def hexValue? (c : Char) : Option Nat :=
  if isDigit c then some (digitValue c)
  else if 'a' ≤ c && c ≤ 'f' then some (c.toNat - 'a'.toNat + 10)
  else if 'A' ≤ c && c ≤ 'F' then some (c.toNat - 'A'.toNat + 10)
  else none

/-- The number that four hexadecimal digits write. -/
def codeUnit? (a b c d : Char) : Option Nat := do
  let first ← hexValue? a
  let second ← hexValue? b
  let third ← hexValue? c
  let fourth ← hexValue? d
  return ((first * 16 + second) * 16 + third) * 16 + fourth

/-- A unit that needs a partner after it. -/
def isLeadingSurrogate (unit : Nat) : Bool :=
  0xD800 ≤ unit && unit ≤ 0xDBFF

/-- A unit that needs a partner before it. -/
def isTrailingSurrogate (unit : Nat) : Bool :=
  0xDC00 ≤ unit && unit ≤ 0xDFFF

/-- The character that two surrogates write. -/
def pairedChar (leading trailing : Nat) : Char :=
  Char.ofNat ((leading - 0xD800) * 0x400 + (trailing - 0xDC00) + 0x10000)

/-- The character that a backslash and a letter write. -/
def escapedChar? : Char → Option Char
  | '"' => some '"'
  | '\\' => some '\\'
  | '/' => some '/'
  | 'b' => some '\x08'
  | 'f' => some '\x0c'
  | 'n' => some '\n'
  | 'r' => some '\r'
  | 't' => some '\t'
  | _ => none

/-- The fault of four hexadecimal digits that are not there: the text ends if fewer than four
bytes are left of it. -/
def missingUnit (text : List Char) : Fault :=
  if (text.take 4).foldl (fun size c => size + c.utf8Size) 0 < 4 then .ended else .malformed

/-- What stands where a leading surrogate needs its partner. -/
inductive PartnerScan where
  /-- The partner, written with six characters. -/
  | found (unit : Nat)
  /-- Something else, which a string may hold in this place. -/
  | missing
  /-- The text breaks off. -/
  | broken (fault : Fault)
  deriving DecidableEq, Repr

/-- Looks for the partner of a leading surrogate. -/
def scanPartner : List Char → PartnerScan
  | [] => .broken .ended
  | ['\\'] => .broken .ended
  | '\\' :: 'u' :: a :: b :: c :: d :: _ =>
    match codeUnit? a b c d with
    | none => .broken .malformed
    | some unit => if isTrailingSurrogate unit then .found unit else .missing
  | '\\' :: 'u' :: short => .broken (missingUnit short)
  | _ => .missing

/-- A string from behind its first quotation mark on. -/
def scanText : List Char → TextScan
  | [] => .broken .ended .ended
  | '"' :: rest => .complete (some []) rest
  | ['\\'] => .broken .ended .ended
  | '\\' :: 'u' :: a :: b :: c :: d :: rest =>
    match codeUnit? a b c d with
    | none => .broken .malformed .malformed
    | some unit =>
      if isLeadingSurrogate unit then
        match scanPartner rest with
        | .found partner => (scanText (rest.drop 6)).push (pairedChar unit partner)
        | .missing => (scanText rest).unpaired
        | .broken fault => .broken fault fault
      else if isTrailingSurrogate unit then (scanText rest).unpaired
      else (scanText rest).push (Char.ofNat unit)
  | '\\' :: 'u' :: short => .broken (missingUnit short) (missingUnit short)
  | '\\' :: letter :: rest =>
    match escapedChar? letter with
    | none => .broken .malformed .malformed
    | some c => (scanText rest).push c
  | c :: rest =>
    if c.toNat < 0x20 then .broken .malformed .malformed else (scanText rest).push c
termination_by text => text.length
decreasing_by all_goals (simp only [List.length_cons, List.length_drop]; omega)

/-- A string takes up some of the text. -/
theorem length_rest_scanText
    (text rest : List Char)
    (complete : (scanText text).rest? = some rest) :
    rest.length < text.length := by
  fun_induction scanText text generalizing rest with
  | case2 others =>
      cases complete
      simp
  | case5 a b c d others unit _ _ partner _ ih =>
      have := ih rest (by simpa using complete)
      simp only [List.length_drop] at this
      simp only [List.length_cons]
      omega
  | _ =>
      simp_all <;> grind

/-! ## Words -/

/-- What the text of a word turns out to be. -/
inductive WordScan where
  /-- The word is there, before the given text. -/
  | complete (rest : List Char)
  /-- The text differs from the word or ends inside it. -/
  | broken (fault : Fault)
  deriving Repr

/-- Compares the text with the letters of a word. -/
def scanWord : List Char → List Char → WordScan
  | [], text => .complete text
  | _ :: _, [] => .broken .ended
  | letter :: letters, c :: rest =>
    if c = letter then scanWord letters rest else .broken .malformed

theorem length_rest_scanWord
    (word : List Char) {text rest : List Char}
    (complete : scanWord word text = .complete rest) :
    rest.length ≤ text.length := by
  induction word generalizing text with
  | nil =>
      cases complete
      exact Nat.le_refl _
  | cons letter letters ih =>
      cases text with
      | nil => cases complete
      | cons c others =>
          unfold scanWord at complete
          split at complete
          · exact Nat.le_succ_of_le (ih complete)
          · cases complete

/-! ## All tokens -/

/-- A blank character between tokens. -/
def isSpace (c : Char) : Bool :=
  c == ' ' || c == '\n' || c == '\t' || c == '\r'

/-- The token that a word stands for, and the text after it. -/
def wordToken (leaf : Leaf) (word text : List Char) : Token × Option (List Char) :=
  match scanWord word text with
  | .complete rest => (.leaf leaf, some rest)
  | .broken fault => (.broken false fault fault, none)

/-- The token of the string behind a quotation mark, and the text after it. -/
def textToken (text : List Char) : Token × Option (List Char) :=
  match scanText text with
  | .complete (some value) rest => (.leaf (.text (String.ofList value)), some rest)
  | .complete none rest => (.leaf .unpairedText, some rest)
  | .broken read skipped => (.broken true read skipped, none)

/-- The token of a number, and the text after it. -/
def numberToken (text : List Char) : Token × Option (List Char) :=
  match scanNumber text with
  | .complete (some value) rest => (.leaf (.number value), some rest)
  | .complete none rest => (.leaf .hugeNumber, some rest)
  | .broken read skipped => (.broken false read skipped, none)

/-- The token that begins with a character that is not blank, and the text after it. No text is
left after a token that breaks off. -/
def tokenAt (c : Char) (rest : List Char) : Token × Option (List Char) :=
  match c with
  | '[' => (.openArray, some rest)
  | ']' => (.closeArray, some rest)
  | '\x7b' => (.openObject, some rest)
  | '\x7d' => (.closeObject, some rest)
  | ',' => (.comma, some rest)
  | ':' => (.colon, some rest)
  | '"' => textToken rest
  | 'n' => wordToken .null ['u', 'l', 'l'] rest
  | 't' => wordToken (.flag true) ['r', 'u', 'e'] rest
  | 'f' => wordToken (.flag false) ['a', 'l', 's', 'e'] rest
  | c => if isDigit c || c == '-' then numberToken (c :: rest) else (.stray, none)

theorem length_rest_wordToken
    {leaf : Leaf} {word text rest : List Char}
    (complete : (wordToken leaf word text).2 = some rest) :
    rest.length ≤ text.length := by
  unfold wordToken at complete
  split at complete
  · rename_i found
    cases complete
    exact length_rest_scanWord word found
  · cases complete

theorem length_rest_textToken
    {text rest : List Char}
    (complete : (textToken text).2 = some rest) :
    rest.length < text.length := by
  apply length_rest_scanText
  unfold textToken at complete
  split at complete <;> simp_all [TextScan.rest?]

theorem length_rest_numberToken
    {text rest : List Char}
    (complete : (numberToken text).2 = some rest) :
    rest.length < text.length := by
  apply length_rest_scanNumber
  unfold numberToken at complete
  split at complete <;> simp_all [NumberScan.rest?]

/-- A token takes up some of the text. -/
theorem length_rest_tokenAt
    {c : Char} {text rest : List Char}
    (complete : (tokenAt c text).2 = some rest) :
    rest.length < text.length + 1 := by
  unfold tokenAt at complete
  split at complete
  case h_7 => exact Nat.lt_succ_of_lt (length_rest_textToken complete)
  case h_8 => exact Nat.lt_succ_of_le (length_rest_wordToken complete)
  case h_9 => exact Nat.lt_succ_of_le (length_rest_wordToken complete)
  case h_10 => exact Nat.lt_succ_of_le (length_rest_wordToken complete)
  case h_11 =>
    split at complete
    · exact length_rest_numberToken complete
    · cases complete
  all_goals
    cases complete
    exact Nat.lt_succ_self _

/-- The tokens of a text, up to the first that breaks off. -/
def tokens : List Char → List Token
  | [] => []
  | c :: text =>
    if isSpace c then tokens text
    else
      match _found : (tokenAt c text).2 with
      | none => [(tokenAt c text).1]
      | some rest => (tokenAt c text).1 :: tokens rest
termination_by text => text.length
decreasing_by
  · simp
  · exact length_rest_tokenAt _found

end CompilationChecks.Json
