/-!
Texts as bytes. Reading is strict (`decode?`) or lenient (`decodeLossy`); the lenient reading
puts one replacement character for each longest run of bytes that begins a character but cannot
be completed, which is the practice that the Unicode standard recommends.
-/

namespace CompilationChecks

/-- The content of a file. -/
abbrev Bytes := List UInt8

namespace Utf8

/-- The bytes of a text. -/
def encode (text : String) : Bytes :=
  text.toList.flatMap String.utf8EncodeChar

/-- The number of bytes after the given first byte, and the range of the first of them; nothing
for a byte that begins no character. -/
def expectation (b : UInt8) : Option (Nat × UInt8 × UInt8) :=
  if b ≤ 0x7F then some (0, 0x80, 0xBF)
  else if 0xC2 ≤ b && b ≤ 0xDF then some (1, 0x80, 0xBF)
  else if b == 0xE0 then some (2, 0xA0, 0xBF)
  else if b == 0xED then some (2, 0x80, 0x9F)
  else if 0xE1 ≤ b && b ≤ 0xEF then some (2, 0x80, 0xBF)
  else if b == 0xF0 then some (3, 0x90, 0xBF)
  else if 0xF1 ≤ b && b ≤ 0xF3 then some (3, 0x80, 0xBF)
  else if b == 0xF4 then some (3, 0x80, 0x8F)
  else none

/-- The continuation bytes at the front, at most `count` of them, where the first must lie
between `low` and `high`. -/
def tails : Nat → UInt8 → UInt8 → Bytes → Bytes
  | 0, _, _, _ => []
  | _ + 1, _, _, [] => []
  | count + 1, low, high, b :: rest =>
    if low ≤ b && b ≤ high then b :: tails count 0x80 0xBF rest else []

/-- The code point that a first byte and its continuation bytes stand for. -/
def assemble (first : UInt8) (rest : Bytes) : Nat :=
  let lead :=
    match rest.length with
    | 0 => first.toNat
    | 1 => first.toNat % 32
    | 2 => first.toNat % 16
    | _ => first.toNat % 8
  rest.foldl (fun point b => point * 64 + b.toNat % 64) lead

/-- The character at the front of a sequence, if the bytes there form one, and the number of
further bytes that belong to it or to its broken beginning. -/
def front (first : UInt8) (rest : Bytes) : Option Char × Nat :=
  match expectation first with
  | none => (none, 0)
  | some (count, low, high) =>
    let found := tails count low high rest
    if found.length = count then (some (Char.ofNat (assemble first found)), count)
    else (none, found.length)

/-- The characters of a sequence of bytes, with nothing for each run that forms no character. -/
def scan : Bytes → List (Option Char)
  | [] => []
  | first :: rest => (front first rest).1 :: scan (rest.drop (front first rest).2)
termination_by bytes => bytes.length
decreasing_by simp only [List.length_drop, List.length_cons]; omega

/-- The text of a sequence of bytes, if every byte belongs to a character. -/
def decode? (bytes : Bytes) : Option String :=
  ((scan bytes).mapM id).map String.ofList

/-- The text of a sequence of bytes, with the replacement character for each broken run. -/
def decodeLossy (bytes : Bytes) : String :=
  String.ofList ((scan bytes).map fun found => found.getD '\ufffd')

end Utf8

end CompilationChecks
