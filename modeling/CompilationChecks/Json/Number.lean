import CompilationChecks.Decimal.Shortest

/-!
Numbers in JSON texts. A number without point and exponent is kept exactly while it fits into 64
bits; every other number becomes the floating-point number that its first digits and its power of
ten give, which need not be the nearest one. A number beyond all floating-point numbers can be
passed over but not read.
-/

namespace CompilationChecks.Json

/-- Why a text stops being JSON at some place. -/
inductive Fault where
  /-- Something that cannot stand there. -/
  | malformed
  /-- The text ends too early. -/
  | ended
  deriving DecidableEq, Repr

/-- A number that was read. -/
inductive Number where
  /-- Zero or more, below `2 ^ 64`. -/
  | natural (value : UInt64)
  /-- Less than zero, down to `-2 ^ 63`, given without its sign. -/
  | negative (magnitude : UInt64)
  /-- Any other number, as the bit pattern of a floating-point number. -/
  | float (bits : UInt64)
  deriving DecidableEq, Repr

namespace Number

/-- The text of a floating-point number in messages: positional from `1e-5` on and below `1e16`,
otherwise with an exponent that always has its sign. -/
def floatLayout : Decimal.Layout :=
  ⟨16, -5, true⟩

/-- A number as messages show it. -/
def describe : Number → String
  | .natural value => "integer `" ++ toString value ++ "`"
  | .negative magnitude => "integer `-" ++ toString magnitude ++ "`"
  | .float bits => "floating point `" ++ floatLayout.shortest bits ++ "`"

end Number

/-- The digits of a number as far as they have been taken in: the digits themselves while they
fit into 64 bits, and a power of ten. -/
structure Parts where
  /-- The digits taken in, as a number. -/
  significand : Nat
  /-- The power of ten. -/
  exponent : Int
  deriving DecidableEq, Repr

namespace Parts

/-- Takes in digits before the point. After the first digit that does not fit, every digit
counts only for the power of ten. -/
def takeWhole (parts : Parts) : List Nat → Parts
  | [] => parts
  | digit :: rest =>
    if parts.significand * 10 + digit < UInt64.size then
      takeWhole { parts with significand := parts.significand * 10 + digit } rest
    else { parts with exponent := parts.exponent + (rest.length + 1) }

/-- Takes in digits after the point. The first digit that does not fit and all that follow it
are ignored. -/
def takeFraction (parts : Parts) : List Nat → Parts
  | [] => parts
  | digit :: rest =>
    if parts.significand * 10 + digit < UInt64.size then
      takeFraction ⟨parts.significand * 10 + digit, parts.exponent - 1⟩ rest
    else parts

/-- A floating-point number times a power of ten, by one multiplication or by divisions with
powers up to `10 ^ 308`; nothing if the product is beyond all floating-point numbers. -/
def scale? : Nat → Float → Int → Option Float
  | 0, value, _ => some value
  | fuel + 1, value, exponent =>
    if exponent.natAbs ≤ 308 then
      let power := Float.ofScientific 1 false exponent.natAbs
      if 0 ≤ exponent then
        if (value * power).isInf then none else some (value * power)
      else some (value / power)
    else if value == 0 then some value
    else if 0 ≤ exponent then none
    else scale? fuel (value / Float.ofScientific 1 false 308) (exponent + 308)

/-- The floating-point number that the digits and the power of ten give. -/
def float? (parts : Parts) (negative : Bool) : Option Number :=
  (scale? 8 (UInt64.ofNat parts.significand).toFloat parts.exponent).map fun value =>
    .float (if negative then -value else value).toBits

end Parts

/-- What a text that begins a number turns out to be. -/
inductive NumberScan where
  /-- A number, or nothing if it is out of range, and the text after it. -/
  | complete (number : Option Number) (rest : List Char)
  /-- No number: the fault when it is read, and the fault when it is passed over. -/
  | broken (read skipped : Fault)
  deriving Repr

/-- A decimal digit. -/
def isDigit (c : Char) : Bool :=
  '0' ≤ c && c ≤ '9'

/-- The value of a decimal digit. -/
def digitValue (c : Char) : Nat :=
  c.toNat - '0'.toNat

/-- The values of the digits at the front of a text. -/
def digitsOf (text : List Char) : List Nat :=
  (text.takeWhile isDigit).map digitValue

/-- The text after the digits at its front. -/
def afterDigits (text : List Char) : List Char :=
  text.dropWhile isDigit

/-- What stands where a digit is missing. A reader tells the end of the text from another
character there; who only passes over the number does not. -/
def missingDigit (text : List Char) : NumberScan :=
  .broken (if text.isEmpty then .ended else .malformed) .malformed

/-- A number without point and exponent. Zero with a sign is a floating-point number. -/
def wholeNumber? (negative : Bool) (digits : List Nat) : Option Number :=
  let parts := Parts.takeWhole ⟨0, 0⟩ digits
  if parts.exponent ≠ 0 then parts.float? negative
  else if !negative then some (.natural (UInt64.ofNat parts.significand))
  else if 0 < parts.significand && parts.significand ≤ Nat.pow 2 63 then
    some (.negative (UInt64.ofNat parts.significand))
  else parts.float? negative

/-- A number from the digits of its exponent on. -/
def scanExponentDigits (negative : Bool) (parts : Parts) (below : Bool) (text : List Char) :
    NumberScan :=
  match digitsOf text with
  | [] => missingDigit text
  | digits =>
    let power : Int := (digits.foldl (fun value digit => value * 10 + digit) 0 : Nat)
    let exponent := if below then parts.exponent - power else parts.exponent + power
    .complete ((⟨parts.significand, exponent⟩ : Parts).float? negative) (afterDigits text)

/-- A number from behind the letter of its exponent on. -/
def scanExponent (negative : Bool) (parts : Parts) (text : List Char) : NumberScan :=
  match text with
  | '+' :: rest => scanExponentDigits negative parts false rest
  | '-' :: rest => scanExponentDigits negative parts true rest
  | rest => scanExponentDigits negative parts false rest

/-- A number from behind its point on. -/
def scanFraction (negative : Bool) (parts : Parts) (text : List Char) : NumberScan :=
  match digitsOf text with
  | [] => missingDigit text
  | digits =>
    let all := parts.takeFraction digits
    match afterDigits text with
    | 'e' :: rest => scanExponent negative all rest
    | 'E' :: rest => scanExponent negative all rest
    | rest => .complete (all.float? negative) rest

/-- A number from behind its sign on. A zero at the front is the only digit before the point. -/
def scanUnsigned (negative : Bool) (text : List Char) : NumberScan :=
  match digitsOf text with
  | [] => missingDigit text
  | 0 :: _ :: _ => .broken .malformed .malformed
  | digits =>
    let parts := Parts.takeWhole ⟨0, 0⟩ digits
    match afterDigits text with
    | '.' :: rest => scanFraction negative parts rest
    | 'e' :: rest => scanExponent negative parts rest
    | 'E' :: rest => scanExponent negative parts rest
    | rest => .complete (wholeNumber? negative digits) rest

/-- A number at the front of a text. -/
def scanNumber (text : List Char) : NumberScan :=
  match text with
  | '-' :: rest => scanUnsigned true rest
  | rest => scanUnsigned false rest

/-! ## What is left of the text -/

/-- What is left of a text after a complete number. -/
def NumberScan.rest? : NumberScan → Option (List Char)
  | .complete _ rest => some rest
  | .broken _ _ => none

theorem length_afterDigits_le (text : List Char) :
    (afterDigits text).length ≤ text.length :=
  (List.dropWhile_suffix isDigit).length_le

theorem length_afterDigits_lt
    {text : List Char}
    (some_digit : digitsOf text ≠ []) :
    (afterDigits text).length < text.length := by
  cases text with
  | nil => simp [digitsOf] at some_digit
  | cons c rest =>
      by_cases digit : isDigit c
      · simp only [afterDigits, List.dropWhile_cons, digit, if_true, List.length_cons]
        exact Nat.lt_succ_of_le (length_afterDigits_le rest)
      · simp [digitsOf, digit] at some_digit

theorem length_rest_scanExponentDigits
    {negative below : Bool} {parts : Parts} {text rest : List Char}
    (complete : (scanExponentDigits negative parts below text).rest? = some rest) :
    rest.length < text.length := by
  unfold scanExponentDigits at complete
  split at complete
  · simp [missingDigit, NumberScan.rest?] at complete
  · rename_i some_digit
    simp only [NumberScan.rest?, Option.some.injEq] at complete
    rw [← complete]
    exact length_afterDigits_lt some_digit

theorem length_rest_scanExponent
    {negative : Bool} {parts : Parts} {text rest : List Char}
    (complete : (scanExponent negative parts text).rest? = some rest) :
    rest.length < text.length := by
  unfold scanExponent at complete
  split at complete
  · exact Nat.lt_trans (length_rest_scanExponentDigits complete) (by simp)
  · exact Nat.lt_trans (length_rest_scanExponentDigits complete) (by simp)
  · exact length_rest_scanExponentDigits complete

theorem length_rest_scanFraction
    {negative : Bool} {parts : Parts} {text rest : List Char}
    (complete : (scanFraction negative parts text).rest? = some rest) :
    rest.length < text.length := by
  unfold scanFraction at complete
  split at complete
  · simp [missingDigit, NumberScan.rest?] at complete
  · rename_i some_digit
    have shorter := length_afterDigits_lt some_digit
    dsimp only at complete
    split at complete
    · rename_i after
      have := length_rest_scanExponent complete
      simp only [after, List.length_cons] at shorter
      omega
    · rename_i after
      have := length_rest_scanExponent complete
      simp only [after, List.length_cons] at shorter
      omega
    · simp only [NumberScan.rest?, Option.some.injEq] at complete
      rw [← complete]
      exact shorter

theorem length_rest_scanUnsigned
    {negative : Bool} {text rest : List Char}
    (complete : (scanUnsigned negative text).rest? = some rest) :
    rest.length < text.length := by
  unfold scanUnsigned at complete
  split at complete
  · simp [missingDigit, NumberScan.rest?] at complete
  · simp [NumberScan.rest?] at complete
  · rename_i some_digit _
    have shorter := length_afterDigits_lt some_digit
    dsimp only at complete
    split at complete
    · rename_i after
      have := length_rest_scanFraction complete
      simp only [after, List.length_cons] at shorter
      omega
    · rename_i after
      have := length_rest_scanExponent complete
      simp only [after, List.length_cons] at shorter
      omega
    · rename_i after
      have := length_rest_scanExponent complete
      simp only [after, List.length_cons] at shorter
      omega
    · simp only [NumberScan.rest?, Option.some.injEq] at complete
      rw [← complete]
      exact shorter

/-- A number takes up some of the text. -/
theorem length_rest_scanNumber
    {text rest : List Char}
    (complete : (scanNumber text).rest? = some rest) :
    rest.length < text.length := by
  unfold scanNumber at complete
  split at complete
  · exact Nat.lt_trans (length_rest_scanUnsigned complete) (by simp)
  · exact length_rest_scanUnsigned complete

end CompilationChecks.Json
