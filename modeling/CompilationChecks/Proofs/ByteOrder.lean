import CompilationChecks.SortedTable
import CompilationChecks.Text.Utf8

/-!
# The order of texts is the order of their bytes

Texts are compared character by character. The bytes of a character begin with a byte that tells
how many there are, and larger characters have at least as many; so a smaller text has smaller
bytes. The keys of a table whose keys are texts stand in the order of their bytes.
-/

namespace CompilationChecks

namespace Utf8

/-! ## Characters -/

theorem digits_eq
    {value : Nat} (bound : value < 0x110000) :
    value =
      value / 262144 % 8 * 262144 + value / 4096 % 64 * 4096 + value / 64 % 64 * 64 +
        value % 64 := by
  omega

/-- Of two characters with four bytes each, the smaller has smaller bytes. -/
theorem fourBytes_lt
    {low high : Nat} (less : low < high) (bound : high < 0x110000) (lowRest highRest : Bytes) :
    UInt8.ofNat (low / 262144 % 8 + 240) :: UInt8.ofNat (low / 4096 % 64 + 128) ::
        UInt8.ofNat (low / 64 % 64 + 128) :: UInt8.ofNat (low % 64 + 128) :: lowRest <
      UInt8.ofNat (high / 262144 % 8 + 240) :: UInt8.ofNat (high / 4096 % 64 + 128) ::
        UInt8.ofNat (high / 64 % 64 + 128) :: UInt8.ofNat (high % 64 + 128) :: highRest := by
  have lowDigits := digits_eq (Nat.lt_trans less bound)
  have highDigits := digits_eq bound
  have firstBound : ∀ value, value % 8 < 8 := fun value => Nat.mod_lt value (by decide)
  have digitBound : ∀ value, value % 64 < 64 := fun value => Nat.mod_lt value (by decide)
  have lowFirstBound := firstBound (low / 262144)
  have lowSecondBound := digitBound (low / 4096)
  have lowThirdBound := digitBound (low / 64)
  have lowFourthBound := digitBound low
  have highFirstBound := firstBound (high / 262144)
  have highSecondBound := digitBound (high / 4096)
  have highThirdBound := digitBound (high / 64)
  have highFourthBound := digitBound high
  -- Numbers compare as their digits do, so only the digits matter from here.
  generalize low / 262144 % 8 = lowFirst at *
  generalize low / 4096 % 64 = lowSecond at *
  generalize low / 64 % 64 = lowThird at *
  generalize low % 64 = lowFourth at *
  generalize high / 262144 % 8 = highFirst at *
  generalize high / 4096 % 64 = highSecond at *
  generalize high / 64 % 64 = highThird at *
  generalize high % 64 = highFourth at *
  simp only [List.cons_lt_cons_iff, UInt8.lt_iff_toNat_lt, ← UInt8.toNat_inj,
    UInt8.toNat_ofNat', Nat.reducePow]
  omega

/-- The bytes of a smaller character are smaller, whatever follows them. -/
theorem encodeChar_append_lt
    {left right : Char} (less : left < right) (leftRest rightRest : Bytes) :
    String.utf8EncodeChar left ++ leftRest < String.utf8EncodeChar right ++ rightRest := by
  have lessNat : left.val.toNat < right.val.toNat := less
  have bound : right.val.toNat < 0x110000 := by
    rcases right.valid with small | large
    · exact Nat.lt_trans small (by decide)
    · exact large.2
  simp only [String.utf8EncodeChar]
  generalize left.val.toNat = low at *
  generalize right.val.toNat = high at *
  by_cases fourBytes : 65535 < low
  · have notOne : ∀ value, 65535 < value → ¬ value ≤ 127 := by omega
    have notTwo : ∀ value, 65535 < value → ¬ value ≤ 2047 := by omega
    have notThree : ∀ value, 65535 < value → ¬ value ≤ 65535 := by omega
    have highFourBytes := Nat.lt_trans fourBytes lessNat
    simp only [notOne low fourBytes, notTwo low fourBytes, notThree low fourBytes,
      notOne high highFourBytes, notTwo high highFourBytes, notThree high highFourBytes,
      if_false]
    exact fourBytes_lt lessNat bound leftRest rightRest
  · -- One case for the numbers of bytes that the two characters take.
    repeat' split
    all_goals
      simp only [List.cons_append, List.nil_append, List.cons_lt_cons_iff,
        UInt8.lt_iff_toNat_lt, ← UInt8.toNat_inj, UInt8.toNat_ofNat', Nat.reducePow]
      omega

/-! ## Texts -/

theorem encode_lt_of_lt
    {left right : String} (less : left < right) :
    encode left < encode right := by
  have lessChars : left.toList < right.toList := less
  unfold encode
  generalize left.toList = leftChars at *
  generalize right.toList = rightChars at *
  induction lessChars with
  | @nil char rest =>
      obtain ⟨byte, bytes, shape⟩ :=
        List.exists_cons_of_ne_nil (@String.utf8EncodeChar_ne_nil char)
      rw [List.flatMap_nil, List.flatMap_cons, shape]
      exact List.Lex.nil
  | rel lessChar =>
      rw [List.flatMap_cons, List.flatMap_cons]
      exact encodeChar_append_lt lessChar _ _
  | cons _ inductionHypothesis =>
      rw [List.flatMap_cons, List.flatMap_cons]
      exact List.append_left_lt inductionHypothesis

end Utf8

namespace SortedTable

variable {ν : Type}

/-- The entries of a table of texts stand in the order of the bytes of their keys. -/
theorem entries_in_byte_order (table : SortedTable String ν) :
    table.entries.Pairwise fun left right => Utf8.encode left.1 < Utf8.encode right.1 := by
  refine table.ascending.imp ?_
  intro left right before
  have less : left.1 < right.1 := by
    exact (compareOfLessAndEq_eq_lt).1 before
  exact Utf8.encode_lt_of_lt less

/-- The keys of a table of texts stand in the order of their bytes. -/
theorem keys_in_byte_order (table : SortedTable String ν) :
    table.keys.Pairwise fun left right => Utf8.encode left < Utf8.encode right :=
  List.pairwise_map.2 table.entries_in_byte_order

end SortedTable

/-! ## Places in the order -/

namespace Utf8

variable {ν : Type} {entries before after : List (String × ν)} {entry other : String × ν}
  (ordered : entries.Pairwise fun left right => encode left.1 < encode right.1)
  (split : entries = before ++ entry :: after) (member : other ∈ entries)
include ordered split member

/-- The entries before an entry are those with smaller keys. -/
theorem mem_before_iff : other ∈ before ↔ encode other.1 < encode entry.1 := by
  rw [split] at ordered member
  obtain ⟨_, behind, across⟩ := List.pairwise_append.1 ordered
  constructor
  · intro inBefore
    exact across other inBefore entry List.mem_cons_self
  · intro less
    rcases List.mem_append.1 member with inBefore | notBefore
    · exact inBefore
    · rcases List.mem_cons.1 notBefore with rfl | inAfter
      · exact absurd less (List.lt_irrefl _)
      · exact absurd less (List.lt_asymm ((List.pairwise_cons.1 behind).1 other inAfter))

/-- The entries behind an entry are those with greater keys. -/
theorem mem_after_iff : other ∈ after ↔ encode entry.1 < encode other.1 := by
  rw [split] at ordered member
  obtain ⟨_, behind, across⟩ := List.pairwise_append.1 ordered
  constructor
  · intro inAfter
    exact (List.pairwise_cons.1 behind).1 other inAfter
  · intro greater
    rcases List.mem_append.1 member with inBefore | notBefore
    · exact absurd greater (List.lt_asymm (across other inBefore entry List.mem_cons_self))
    · rcases List.mem_cons.1 notBefore with rfl | inAfter
      · exact absurd greater (List.lt_irrefl _)
      · exact inAfter

end Utf8

end CompilationChecks
