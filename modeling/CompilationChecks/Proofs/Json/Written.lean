import CompilationChecks.Json.Token
import CompilationChecks.Json.Value

/-!
# The tokens of a written value

A value can be written in two layouts, but the tokens of its text do not depend on the layout:
they are the brackets and marks of the value with its strings, numbers and truth values between
them. Every string is read as it was written, whatever characters it has, and so is every number
that has no more than 64 bits.
-/

namespace CompilationChecks.Json

/-! ## Strings -/

theorem hexValue?_digitChar : ∀ digit < 16, hexValue? (Nat.digitChar digit) = some digit := by
  decide

/-- A character below 32 is written with four hexadecimal digits, and these are its number. -/
theorem scanText_control
    {c : Char} (control : c.toNat < 0x20) (rest : List Char) :
    scanText ('\\' :: 'u' :: '0' :: '0' :: Nat.digitChar (c.toNat / 16) ::
        Nat.digitChar (c.toNat % 16) :: rest) = (scanText rest).push c := by
  have upper := hexValue?_digitChar (c.toNat / 16) (by omega)
  have lower := hexValue?_digitChar (c.toNat % 16) (by omega)
  have zero : hexValue? '0' = some 0 := rfl
  have unit : codeUnit? '0' '0' (Nat.digitChar (c.toNat / 16)) (Nat.digitChar (c.toNat % 16)) =
      some c.toNat := by
    simp only [codeUnit?, zero, upper, lower, Option.bind_eq_bind, Option.bind_some,
      Option.pure_def, Option.some.injEq]
    omega
  have notLeading : isLeadingSurrogate c.toNat = false := by
    simp only [isLeadingSurrogate, Bool.and_eq_false_iff, decide_eq_false_iff_not]
    omega
  have notTrailing : isTrailingSurrogate c.toNat = false := by
    simp only [isTrailingSurrogate, Bool.and_eq_false_iff, decide_eq_false_iff_not]
    omega
  rw [scanText]
  simp only [unit, notLeading, notTrailing, Bool.false_eq_true, if_false, Char.ofNat_toNat]

theorem scanText_plain
    {c : Char} (notQuote : c ≠ '"') (notBackslash : c ≠ '\\') (notControl : ¬ c.toNat < 0x20)
    (rest : List Char) :
    scanText (c :: rest) = (scanText rest).push c := by
  rw [scanText.eq_def]
  split
  case h_7 other others _ _ shape =>
    cases shape
    exact if_neg notControl
  all_goals simp_all

/-- Whatever way a character is written, it is read as itself. -/
theorem scanText_writtenChar (c : Char) (rest : List Char) :
    scanText (writtenChar c ++ rest) = (scanText rest).push c := by
  unfold writtenChar
  split
  case h_8 =>
    rename_i notQuote notBackslash _ _ _ _ _
    split
    · rename_i small
      have digits : Nat.toDigits 16 c.toNat = [Nat.digitChar c.toNat] :=
        Nat.toDigits_of_lt_base small
      have control := scanText_control (c := c) (by omega) rest
      rw [Nat.div_eq_of_lt small, Nat.mod_eq_of_lt small] at control
      rw [digits]
      exact control
    · split
      · rename_i large control
        have digits : Nat.toDigits 16 c.toNat =
            [Nat.digitChar (c.toNat / 16), Nat.digitChar (c.toNat % 16)] := by
          rw [Nat.toDigits_of_base_le (by decide) (Nat.le_of_not_lt large),
            Nat.toDigits_of_lt_base (by omega : c.toNat / 16 < 16)]
          rfl
        rw [digits]
        exact scanText_control control rest
      · rename_i notControl
        exact scanText_plain notQuote notBackslash notControl rest
  all_goals
    rw [List.cons_append, List.cons_append, List.nil_append, scanText.eq_def]
    rfl

theorem scanText_written (text rest : List Char) :
    scanText (text.flatMap writtenChar ++ '"' :: rest) = .complete (some text) rest := by
  induction text with
  | nil => rw [List.flatMap_nil, List.nil_append, scanText]
  | cons c others inductionHypothesis =>
      rw [List.flatMap_cons, List.append_assoc, scanText_writtenChar, inductionHypothesis]
      rfl

/-! ## Characters that are written -/

/-- A text without control characters, so without line breaks. -/
def Printed (text : List Char) : Prop :=
  ∀ c ∈ text, 0x20 ≤ c.toNat

theorem Printed.append {front back : List Char} (first : Printed front) (second : Printed back) :
    Printed (front ++ back) :=
  List.forall_mem_append.2 ⟨first, second⟩

theorem Printed.cons {c : Char} {text : List Char} (first : 0x20 ≤ c.toNat) (rest : Printed text) :
    Printed (c :: text) :=
  List.forall_mem_cons.2 ⟨first, rest⟩

theorem printed_toDigits
    {base : Nat} (proper : 1 < base) (small : base ≤ 16) (value : Nat) :
    Printed (Nat.toDigits base value) := by
  have digits : ∀ digit < 16, 0x20 ≤ (Nat.digitChar digit).toNat := by
    decide
  induction value using Nat.strongRecOn with
  | ind value inductionHypothesis =>
      by_cases single : value < base
      · rw [Nat.toDigits_of_lt_base single]
        exact List.forall_mem_singleton.2 (digits value (by omega))
      · have front := inductionHypothesis (value / base)
          (Nat.div_lt_self (by omega) proper)
        have last : value % base < 16 := Nat.lt_of_lt_of_le (Nat.mod_lt _ (by omega)) small
        rw [Nat.toDigits_of_base_le proper (Nat.le_of_not_lt single)]
        exact front.append (List.forall_mem_singleton.2 (digits _ last))

theorem printed_writtenChar (c : Char) : Printed (writtenChar c) := by
  have digits : Printed (Nat.toDigits 16 c.toNat) := printed_toDigits (by decide) (by decide) _
  unfold writtenChar
  split
  case h_8 =>
    split
    · exact Printed.append (by simp [Printed]) digits
    · split
      · exact Printed.append (by simp [Printed]) digits
      · rename_i notControl
        exact List.forall_mem_singleton.2 (Nat.le_of_not_lt notControl)
  all_goals simp [Printed]

theorem printed_writtenText (text : String) : Printed (writtenText text) := by
  have content : Printed (text.toList.flatMap writtenChar) := by
    intro other member
    obtain ⟨c, _, written⟩ := List.mem_flatMap.1 member
    exact printed_writtenChar c other written
  exact (Printed.cons (by decide) content).append (by simp [Printed])

mutual

/-- On one line there are no control characters, whatever the strings of the value hold. -/
theorem printed_compactChars : ∀ value : Value, Printed (compactChars value)
  | .flag value => by cases value <;> simp [compactChars, writtenFlag, Printed]
  | .natural value => printed_toDigits (by decide) (by decide) value
  | .text value => printed_writtenText value
  | .list [] => by simp [compactChars, Printed]
  | .list (first :: others) =>
      (Printed.cons (by decide) (printed_compactChars first)).append (printed_compactItems others)
  | .object [] => by simp [compactChars, Printed]
  | .object ((name, value) :: others) => by
      have front := Printed.cons (c := '\x7b') (by decide) (printed_writtenText name)
      have middle := Printed.cons (c := ':') (by decide) (printed_compactChars value)
      exact (front.append middle).append (printed_compactMembers others)

theorem printed_compactItems : ∀ items : List Value, Printed (compactItems items)
  | [] => by simp [compactItems, Printed]
  | value :: others =>
      (Printed.cons (by decide) (printed_compactChars value)).append (printed_compactItems others)

theorem printed_compactMembers : ∀ members : List (String × Value),
    Printed (compactMembers members)
  | [] => by simp [compactMembers, Printed]
  | (name, value) :: others => by
      have front := Printed.cons (c := ',') (by decide) (printed_writtenText name)
      have middle := Printed.cons (c := ':') (by decide) (printed_compactChars value)
      exact (front.append middle).append (printed_compactMembers others)

end

/-! ## Single tokens -/

theorem tokens_of_space {c : Char} (space : isSpace c = true) (text : List Char) :
    tokens (c :: text) = tokens text := by
  rw [tokens]
  simp [space]

theorem tokens_of_tokenAt
    {c : Char} {text rest : List Char} {token : Token} (notSpace : isSpace c = false)
    (found : tokenAt c text = (token, some rest)) :
    tokens (c :: text) = token :: tokens rest := by
  rw [tokens]
  simp only [notSpace, Bool.false_eq_true, if_false]
  split
  · rename_i nothingLeft
    rw [found] at nothingLeft
    cases nothingLeft
  · rename_i other left
    rw [found] at left ⊢
    cases left
    rfl

theorem tokens_writtenText (text : String) (rest : List Char) :
    tokens (writtenText text ++ rest) = .leaf (.text text) :: tokens rest := by
  have scanned : tokenAt '"' (text.toList.flatMap writtenChar ++ '"' :: rest) =
      (.leaf (.text text), some rest) := by
    simp [tokenAt, textToken, scanText_written]
  have shape : writtenText text ++ rest =
      '"' :: (text.toList.flatMap writtenChar ++ '"' :: rest) := by
    simp [writtenText]
  rw [shape]
  exact tokens_of_tokenAt rfl scanned

theorem tokens_writtenFlag (value : Bool) (rest : List Char) :
    tokens (writtenFlag value ++ rest) = .leaf (.flag value) :: tokens rest := by
  cases value with
  | false => exact tokens_of_tokenAt rfl rfl
  | true => exact tokens_of_tokenAt rfl rfl

section Marks

variable (text : List Char)

theorem tokens_openArray : tokens ('[' :: text) = .openArray :: tokens text :=
  tokens_of_tokenAt rfl rfl

theorem tokens_closeArray : tokens (']' :: text) = .closeArray :: tokens text :=
  tokens_of_tokenAt rfl rfl

theorem tokens_openObject : tokens ('\x7b' :: text) = .openObject :: tokens text :=
  tokens_of_tokenAt rfl rfl

theorem tokens_closeObject : tokens ('\x7d' :: text) = .closeObject :: tokens text :=
  tokens_of_tokenAt rfl rfl

theorem tokens_comma : tokens (',' :: text) = .comma :: tokens text :=
  tokens_of_tokenAt rfl rfl

theorem tokens_colon : tokens (':' :: text) = .colon :: tokens text :=
  tokens_of_tokenAt rfl rfl

theorem tokens_blank : tokens (' ' :: text) = tokens text :=
  tokens_of_space rfl text

theorem tokens_newLine (level : Nat) : tokens (newLine level ++ text) = tokens text := by
  have blanks : ∀ count, tokens (List.replicate count ' ' ++ text) = tokens text := by
    intro count
    induction count with
    | zero => rfl
    | succ count inductionHypothesis =>
        rw [List.replicate_succ, List.cons_append, tokens_blank, inductionHypothesis]
  rw [newLine, List.cons_append, tokens_of_space rfl, blanks]

end Marks

/-! ## Numbers -/

/-- A text that may follow a number without becoming a part of it. -/
def EndsNumber : List Char → Prop
  | [] => True
  | c :: _ => isDigit c = false ∧ c ≠ '.' ∧ c ≠ 'e' ∧ c ≠ 'E'

/-- What a written number is read as. -/
def naturalLeaf (value : Nat) : Leaf :=
  match wholeNumber? false ((Nat.toDigits 10 value).map digitValue) with
  | some number => .number number
  | none => .hugeNumber

theorem isDigit_of_mem_toDigits
    {value : Nat} {c : Char} (member : c ∈ Nat.toDigits 10 value) : isDigit c = true := by
  have digit := Nat.isDigit_of_mem_toDigits (by decide) (by decide) member
  simpa [Char.isDigit, isDigit, Char.le_def] using digit

section Following

variable {value : Nat} {rest : List Char} (ends : EndsNumber rest)

include ends

theorem takeWhile_isDigit_append :
    (Nat.toDigits 10 value ++ rest).takeWhile isDigit = Nat.toDigits 10 value := by
  rw [List.takeWhile_append_of_pos fun c member => isDigit_of_mem_toDigits member]
  cases rest with
  | nil => simp
  | cons c others => simp [ends.1]

theorem dropWhile_isDigit_append :
    (Nat.toDigits 10 value ++ rest).dropWhile isDigit = rest := by
  rw [List.dropWhile_append_of_pos fun c member => isDigit_of_mem_toDigits member]
  cases rest with
  | nil => rfl
  | cons c others => simp [ends.1]

end Following

/-- Only zero is written with a zero in front. -/
theorem head?_toDigits_ne_zero {value : Nat} (positive : 0 < value) :
    (Nat.toDigits 10 value).head? ≠ some '0' := by
  induction value using Nat.strongRecOn with
  | ind value inductionHypothesis =>
      by_cases small : value < 10
      · rw [Nat.toDigits_of_lt_base small]
        simp
        omega
      · have front := inductionHypothesis (value / 10) (by omega) (by omega)
        obtain ⟨first, others, shape⟩ :=
          List.exists_cons_of_ne_nil (Nat.toDigits_ne_nil (n := value / 10) (b := 10))
        rw [Nat.toDigits_of_base_le (by decide) (by omega), shape]
        rw [shape] at front
        exact front

theorem eq_zero_of_digitValue
    {c : Char} (digit : isDigit c = true) (zero : digitValue c = 0) : c = '0' := by
  have bounds : 48 ≤ c.toNat ∧ c.toNat ≤ 57 := by
    simpa [isDigit, Char.le_def, UInt32.le_iff_toNat_le] using digit
  have value : c.toNat - 48 = 0 := zero
  exact Char.toNat_inj.1 (by show c.toNat = 48; omega)

theorem digitsOf_toDigits_ne
    (value second : Nat) (others : List Nat) :
    (Nat.toDigits 10 value).map digitValue ≠ 0 :: second :: others := by
  intro same
  cases shape : Nat.toDigits 10 value with
  | nil => exact Nat.toDigits_ne_nil shape
  | cons first rest =>
      rw [shape] at same
      simp only [List.map_cons, List.cons.injEq] at same
      have firstZero : first = '0' :=
        eq_zero_of_digitValue (isDigit_of_mem_toDigits (by rw [shape]; simp)) same.1
      by_cases positive : 0 < value
      · exact head?_toDigits_ne_zero positive (by rw [shape, firstZero]; rfl)
      · have isZero : value = 0 := by omega
        rw [isZero, Nat.toDigits_zero] at shape
        cases shape
        simp at same

/-- A written number begins with a digit. -/
theorem exists_toDigits_eq_cons (value : Nat) :
    ∃ first others, Nat.toDigits 10 value = first :: others ∧ isDigit first = true := by
  obtain ⟨first, others, shape⟩ :=
    List.exists_cons_of_ne_nil (Nat.toDigits_ne_nil (n := value) (b := 10))
  exact ⟨first, others, shape, isDigit_of_mem_toDigits (by rw [shape]; exact List.mem_cons_self)⟩

theorem scanUnsigned_toDigits
    (value : Nat) {rest : List Char} (ends : EndsNumber rest) :
    scanUnsigned false (Nat.toDigits 10 value ++ rest) =
      .complete (wholeNumber? false ((Nat.toDigits 10 value).map digitValue)) rest := by
  have digits : digitsOf (Nat.toDigits 10 value ++ rest) =
      (Nat.toDigits 10 value).map digitValue := by
    rw [digitsOf, takeWhile_isDigit_append ends]
  have behind : afterDigits (Nat.toDigits 10 value ++ rest) = rest :=
    dropWhile_isDigit_append ends
  unfold scanUnsigned
  rw [digits, behind]
  split
  · rename_i none
    exact absurd (List.map_eq_nil_iff.1 none) Nat.toDigits_ne_nil
  · rename_i second others leading
    exact absurd leading (digitsOf_toDigits_ne value second others)
  · dsimp only
    split
    · exact absurd rfl ends.2.1
    · exact absurd rfl ends.2.2.1
    · exact absurd rfl ends.2.2.2
    · rfl

theorem numberToken_toDigits
    (value : Nat) {rest : List Char} (ends : EndsNumber rest) :
    numberToken (Nat.toDigits 10 value ++ rest) = (.leaf (naturalLeaf value), some rest) := by
  obtain ⟨first, others, shape, digit⟩ := exists_toDigits_eq_cons value
  have unsigned : scanNumber (Nat.toDigits 10 value ++ rest) =
      scanUnsigned false (Nat.toDigits 10 value ++ rest) := by
    rw [shape, List.cons_append]
    unfold scanNumber
    split
    · rename_i sign
      cases sign
      cases digit
    · rfl
  rw [numberToken, unsigned, scanUnsigned_toDigits value ends]
  unfold naturalLeaf
  cases wholeNumber? false ((Nat.toDigits 10 value).map digitValue) <;> rfl

theorem tokenAt_of_isDigit {c : Char} (digit : isDigit c = true) (text : List Char) :
    tokenAt c text = numberToken (c :: text) := by
  unfold tokenAt
  split
  case h_11 => simp [digit]
  all_goals cases digit

theorem tokens_toDigits
    (value : Nat) {rest : List Char} (ends : EndsNumber rest) :
    tokens (Nat.toDigits 10 value ++ rest) = .leaf (naturalLeaf value) :: tokens rest := by
  obtain ⟨first, others, shape, digit⟩ := exists_toDigits_eq_cons value
  have notSpace : isSpace first = false := by
    rw [Bool.eq_false_iff]
    intro space
    simp only [isSpace, Bool.or_eq_true, beq_iff_eq] at space
    rcases space with ((rfl | rfl) | rfl) | rfl <;> cases digit
  have found := numberToken_toDigits value ends
  rw [shape, List.cons_append] at found ⊢
  rw [← tokenAt_of_isDigit digit] at found
  exact tokens_of_tokenAt notSpace found

/-! ### Their values -/

/-- As long as the number fits into 64 bits every digit is taken in. -/
theorem takeWhole_of_fits
    (digits : List Nat) (significand : Nat)
    (fits : digits.foldl (fun value digit => 10 * value + digit) significand < UInt64.size) :
    Parts.takeWhole ⟨significand, 0⟩ digits =
      ⟨digits.foldl (fun value digit => 10 * value + digit) significand, 0⟩ := by
  induction digits generalizing significand with
  | nil => rfl
  | cons digit others inductionHypothesis =>
      have grows : ∀ (rest : List Nat) (start : Nat),
          start ≤ rest.foldl (fun value digit => 10 * value + digit) start := by
        intro rest
        induction rest with
        | nil => exact fun start => Nat.le_refl start
        | cons next rest grows =>
            intro start
            exact Nat.le_trans (by omega) (grows (10 * start + next))
      rw [List.foldl_cons] at fits ⊢
      have fitsHere : significand * 10 + digit < UInt64.size := by
        have := grows others (10 * significand + digit)
        omega
      rw [Parts.takeWhole, if_pos fitsHere, Nat.mul_comm significand 10]
      exact inductionHypothesis _ fits

theorem naturalLeaf_of_lt {value : Nat} (fits : value < UInt64.size) :
    naturalLeaf value = .number (.natural (UInt64.ofNat value)) := by
  have folded : ((Nat.toDigits 10 value).map digitValue).foldl
      (fun value digit => 10 * value + digit) 0 = value := by
    rw [List.foldl_map]
    exact Nat.ofDigitChars_ten_toDigits
  have taken := takeWhole_of_fits ((Nat.toDigits 10 value).map digitValue) 0
    (by rw [folded]; exact fits)
  rw [folded] at taken
  simp [naturalLeaf, wholeNumber?, taken]

/-! ## Values -/

mutual

/-- The tokens of a value. -/
def Value.tokens : Value → List Token
  | .flag value => [.leaf (.flag value)]
  | .natural value => [.leaf (naturalLeaf value)]
  | .text value => [.leaf (.text value)]
  | .list [] => [.openArray, .closeArray]
  | .list (first :: others) => .openArray :: first.tokens ++ itemTokens others
  | .object [] => [.openObject, .closeObject]
  | .object ((name, value) :: others) =>
    .openObject :: .leaf (.text name) :: .colon :: value.tokens ++ memberTokens others

/-- The tokens of the items after the first one. -/
def itemTokens : List Value → List Token
  | [] => [.closeArray]
  | value :: others => .comma :: value.tokens ++ itemTokens others

/-- The tokens of the members after the first one. -/
def memberTokens : List (String × Value) → List Token
  | [] => [.closeObject]
  | (name, value) :: others =>
    .comma :: .leaf (.text name) :: .colon :: value.tokens ++ memberTokens others

end

/-! ### On one line -/

theorem endsNumber_compactItems (items : List Value) (rest : List Char) :
    EndsNumber (compactItems items ++ rest) := by
  cases items <;> exact ⟨rfl, by decide, by decide, by decide⟩

theorem endsNumber_compactMembers (members : List (String × Value)) (rest : List Char) :
    EndsNumber (compactMembers members ++ rest) := by
  cases members <;> exact ⟨rfl, by decide, by decide, by decide⟩

mutual

theorem tokens_compactChars : ∀ (value : Value) {rest : List Char}, EndsNumber rest →
    tokens (compactChars value ++ rest) = value.tokens ++ tokens rest
  | .flag value, rest, _ => tokens_writtenFlag value rest
  | .natural value, rest, ends => tokens_toDigits value ends
  | .text value, rest, _ => tokens_writtenText value rest
  | .list [], rest, _ => by
      simp only [compactChars, Value.tokens, List.cons_append, List.nil_append]
      rw [tokens_openArray, tokens_closeArray]
  | .list (first :: others), rest, _ => by
      simp only [compactChars, Value.tokens, List.cons_append, List.append_assoc]
      rw [tokens_openArray, tokens_compactChars first (endsNumber_compactItems others rest),
        tokens_compactItems others rest]
  | .object [], rest, _ => by
      simp only [compactChars, Value.tokens, List.cons_append, List.nil_append]
      rw [tokens_openObject, tokens_closeObject]
  | .object ((name, value) :: others), rest, _ => by
      simp only [compactChars, Value.tokens, List.cons_append, List.append_assoc]
      rw [tokens_openObject, tokens_writtenText, tokens_colon,
        tokens_compactChars value (endsNumber_compactMembers others rest),
        tokens_compactMembers others rest]

theorem tokens_compactItems : ∀ (items : List Value) (rest : List Char),
    tokens (compactItems items ++ rest) = itemTokens items ++ tokens rest
  | [], rest => tokens_closeArray rest
  | value :: others, rest => by
      simp only [compactItems, itemTokens, List.cons_append, List.append_assoc]
      rw [tokens_comma, tokens_compactChars value (endsNumber_compactItems others rest),
        tokens_compactItems others rest]

theorem tokens_compactMembers : ∀ (members : List (String × Value)) (rest : List Char),
    tokens (compactMembers members ++ rest) = memberTokens members ++ tokens rest
  | [], rest => tokens_closeObject rest
  | (name, value) :: others, rest => by
      simp only [compactMembers, memberTokens, List.cons_append, List.append_assoc]
      rw [tokens_comma, tokens_writtenText, tokens_colon,
        tokens_compactChars value (endsNumber_compactMembers others rest),
        tokens_compactMembers others rest]

end

/-! ### On many lines -/

theorem endsNumber_prettyItems (level : Nat) (items : List Value) (rest : List Char) :
    EndsNumber (prettyItems level items ++ rest) := by
  cases items <;> exact ⟨rfl, by decide, by decide, by decide⟩

theorem endsNumber_prettyMembers
    (level : Nat) (members : List (String × Value)) (rest : List Char) :
    EndsNumber (prettyMembers level members ++ rest) := by
  cases members <;> exact ⟨rfl, by decide, by decide, by decide⟩

mutual

theorem tokens_prettyChars : ∀ (value : Value) (level : Nat) {rest : List Char}, EndsNumber rest →
    tokens (prettyChars level value ++ rest) = value.tokens ++ tokens rest
  | .flag value, _, rest, _ => tokens_writtenFlag value rest
  | .natural value, _, rest, ends => tokens_toDigits value ends
  | .text value, _, rest, _ => tokens_writtenText value rest
  | .list [], _, rest, _ => by
      simp only [prettyChars, Value.tokens, List.cons_append, List.nil_append]
      rw [tokens_openArray, tokens_closeArray]
  | .list (first :: others), level, rest, _ => by
      simp only [prettyChars, Value.tokens, List.cons_append, List.append_assoc]
      rw [tokens_openArray, tokens_newLine,
        tokens_prettyChars first (level + 1) (endsNumber_prettyItems level others rest),
        tokens_prettyItems level others rest]
  | .object [], _, rest, _ => by
      simp only [prettyChars, Value.tokens, List.cons_append, List.nil_append]
      rw [tokens_openObject, tokens_closeObject]
  | .object ((name, value) :: others), level, rest, _ => by
      simp only [prettyChars, Value.tokens, List.cons_append, List.append_assoc]
      rw [tokens_openObject, tokens_newLine, tokens_writtenText, tokens_colon, tokens_blank,
        tokens_prettyChars value (level + 1) (endsNumber_prettyMembers level others rest),
        tokens_prettyMembers level others rest]

theorem tokens_prettyItems : ∀ (level : Nat) (items : List Value) (rest : List Char),
    tokens (prettyItems level items ++ rest) = itemTokens items ++ tokens rest
  | level, [], rest => by
      simp only [prettyItems, itemTokens, List.append_assoc, List.cons_append, List.nil_append]
      rw [tokens_newLine, tokens_closeArray]
  | level, value :: others, rest => by
      simp only [prettyItems, itemTokens, List.cons_append, List.append_assoc]
      rw [tokens_comma, tokens_newLine,
        tokens_prettyChars value (level + 1) (endsNumber_prettyItems level others rest),
        tokens_prettyItems level others rest]

theorem tokens_prettyMembers : ∀ (level : Nat) (members : List (String × Value))
    (rest : List Char),
    tokens (prettyMembers level members ++ rest) = memberTokens members ++ tokens rest
  | level, [], rest => by
      simp only [prettyMembers, memberTokens, List.append_assoc, List.cons_append, List.nil_append]
      rw [tokens_newLine, tokens_closeObject]
  | level, (name, value) :: others, rest => by
      simp only [prettyMembers, memberTokens, List.cons_append, List.append_assoc]
      rw [tokens_comma, tokens_newLine, tokens_writtenText, tokens_colon, tokens_blank,
        tokens_prettyChars value (level + 1) (endsNumber_prettyMembers level others rest),
        tokens_prettyMembers level others rest]

end

/-- Both layouts of a value have its tokens and no others. -/
theorem tokens_layouts (value : Value) :
    tokens value.compact.toList = value.tokens ∧ tokens value.pretty.toList = value.tokens := by
  have nothing : tokens [] = [] := by
    rw [tokens]
  have ends : EndsNumber [] := trivial
  have onOneLine := tokens_compactChars value ends
  have onManyLines := tokens_prettyChars value 0 ends
  rw [List.append_nil, nothing, List.append_nil] at onOneLine onManyLines
  simp only [Value.compact, Value.pretty, String.toList_ofList]
  exact ⟨onOneLine, onManyLines⟩

end CompilationChecks.Json
