/-!
The shortest decimal text of a binary floating-point number: the fewest digits that lie nearer to
the number than to any other one, and of those the digits nearest to it. All arithmetic is exact,
on natural numbers and on quotients of them.
-/

namespace CompilationChecks.Decimal

/-- A quotient of natural numbers. The lower part is never zero where one is built here. -/
structure Quotient where
  /-- The part above the bar. -/
  upper : Nat
  /-- The part below the bar. -/
  lower : Nat
  deriving DecidableEq, Repr

namespace Quotient

/-- `count` times a power of a base, which may have a negative exponent. -/
def scaled (count base : Nat) (exponent : Int) : Quotient :=
  if exponent < 0 then ⟨count, base.pow exponent.natAbs⟩
  else ⟨count * base.pow exponent.natAbs, 1⟩

/-- Less than or equal. -/
def atMost (left right : Quotient) : Bool :=
  left.upper * right.lower ≤ right.upper * left.lower

/-- Strictly less. -/
def below (left right : Quotient) : Bool :=
  left.upper * right.lower < right.upper * left.lower

/-- The whole part of one quotient divided by another. -/
def wholeRatio (left right : Quotient) : Nat :=
  left.upper * right.lower / (left.lower * right.upper)

end Quotient

/-- A number that is not zero with the ends of the interval of reals that round to it. -/
structure Rounded where
  /-- The number. -/
  value : Quotient
  /-- The lower end. -/
  low : Quotient
  /-- The upper end. -/
  high : Quotient
  /-- Whether the ends themselves round to the number. -/
  closed : Bool
  deriving DecidableEq, Repr

namespace Rounded

/-- The number that a sign-free bit pattern stands for: `mantissa * 2 ^ exponent`, where the gap
below a power of two is half as wide as the gap above it. -/
def ofBits (bits : Nat) : Rounded :=
  let fraction : Nat := bits % Nat.pow 2 52
  let biased : Nat := bits / Nat.pow 2 52 % Nat.pow 2 11
  let mantissa : Nat := if biased = 0 then fraction else fraction + Nat.pow 2 52
  let exponent : Int := if biased = 0 then -1074 else (biased : Int) - 1075
  let gapBelow := if fraction = 0 && 1 < biased then 1 else 2
  { value := .scaled (4 * mantissa) 2 (exponent - 2)
    low := .scaled (4 * mantissa - gapBelow) 2 (exponent - 2)
    high := .scaled (4 * mantissa + 2) 2 (exponent - 2)
    closed := mantissa % 2 == 0 }

/-- Whether a real rounds to the number. -/
def admits (number : Rounded) (real : Quotient) : Bool :=
  if number.closed then number.low.atMost real && real.atMost number.high
  else number.low.below real && real.below number.high

/-- The exponent of the first decimal digit, searched downwards from a bound. -/
def leadingExponent (number : Rounded) : Nat → Int → Int
  | 0, exponent => exponent
  | fuel + 1, exponent =>
    if (Quotient.scaled 1 10 exponent).atMost number.value then exponent
    else number.leadingExponent fuel (exponent - 1)

/-- The multiple of a power of ten that stands for the number among its two neighbours on that
grid: the one that rounds to it, and of two the nearer, with ties to the even one. -/
def onGrid? (number : Rounded) (exponent : Int) : Option Nat :=
  let below := number.value.wholeRatio (.scaled 1 10 exponent)
  let half := Quotient.scaled (2 * below + 1) 10 exponent
  let twice : Quotient := ⟨2 * number.value.upper, number.value.lower⟩
  match number.admits (.scaled below 10 exponent), number.admits (.scaled (below + 1) 10 exponent)
  with
  | true, true =>
    if twice.below half then some below
    else if half.below twice then some (below + 1)
    else some (if below % 2 = 0 then below else below + 1)
  | true, false => some below
  | false, true => some (below + 1)
  | false, false => none

/-- The digits and the power of ten of the first grid that has a point for the number, from the
coarsest grid on. -/
def search (number : Rounded) : Nat → Int → Nat × Int
  | 0, exponent => (number.value.wholeRatio (.scaled 1 10 exponent), exponent)
  | fuel + 1, exponent =>
    match number.onGrid? exponent with
    | some digits => (digits, exponent)
    | none => number.search fuel (exponent - 1)

end Rounded

/-- The decimal digits of a number without zeros at the end, and how many there were. -/
def withoutZeros (digits : List Char) : List Char × Nat :=
  let kept := (digits.reverse.dropWhile (· == '0')).reverse
  (kept, digits.length - kept.length)

/-- How a decimal number is laid out as text. -/
structure Layout where
  /-- The greatest number of digits before the point without an exponent. -/
  greatest : Int
  /-- The least place of the point, counted from before the digits, without an exponent. -/
  least : Int
  /-- Whether an exponent above zero has a sign of its own. -/
  signed : Bool
  deriving DecidableEq, Repr

/-- The text of an exponent. -/
def Layout.exponentText (layout : Layout) (exponent : Int) : List Char :=
  let sign := if layout.signed && 0 < exponent then ['+'] else []
  'e' :: sign ++ (toString exponent).toList

/-- Digits with a decimal point after the first `point` of them, or with an exponent where the
layout asks for one. There is a digit on each side of a point. -/
def Layout.text (layout : Layout) (digits : List Char) (point : Int) : List Char :=
  let size : Int := digits.length
  if size ≤ point && point ≤ layout.greatest then
    digits ++ List.replicate (point - size).natAbs '0' ++ ['.', '0']
  else if 0 < point && point ≤ layout.greatest then
    digits.take point.natAbs ++ '.' :: digits.drop point.natAbs
  else if layout.least < point && point ≤ 0 then
    ['0', '.'] ++ List.replicate point.natAbs '0' ++ digits
  else
    match digits with
    | [] => []
    | [digit] => digit :: layout.exponentText (point - 1)
    | digit :: others => digit :: '.' :: others ++ layout.exponentText (point - 1)

/-- The shortest text of the finite number with the given bit pattern. -/
def Layout.shortest (layout : Layout) (bits : UInt64) : String :=
  let magnitude := bits.toNat % Nat.pow 2 63
  let sign := if Nat.pow 2 63 ≤ bits.toNat then ['-'] else []
  if magnitude = 0 then String.ofList (sign ++ ['0', '.', '0'])
  else
    let number := Rounded.ofBits magnitude
    let found := number.search 17 (number.leadingExponent 640 309)
    let (digits, dropped) := withoutZeros (Nat.toDigits 10 found.1)
    String.ofList (sign ++ layout.text digits (digits.length + (found.2 + dropped)))

end CompilationChecks.Decimal
