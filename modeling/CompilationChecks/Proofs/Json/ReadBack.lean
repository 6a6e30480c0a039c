import CompilationChecks.Json.Decode
import CompilationChecks.Proofs.Json.Written
import CompilationChecks.Proofs.Tables

/-!
# Reading back what was written

A value that was written in full has an outline without any gaps, whichever layout it was written
in. So a typed value is recovered from a text exactly if it is recovered from the outline of the
value that was written. The rest are laws of the decoders on such outlines: lists and tables are
recovered item by item, and a record is recovered from its members, of which those may be missing
that stand for the value which a reader takes anyway.
-/

namespace CompilationChecks.Json

/-! ## Outlines of written values -/

mutual

/-- The outline of a value. -/
def Value.outline : Value → Outline
  | .flag value => .leaf (.flag value)
  | .natural value => .leaf (naturalLeaf value)
  | .text value => .leaf (.text value)
  | .list items => .array (itemsOutline items)
  | .object members => .object (membersOutline members)

/-- The outlines of items, up to the closing bracket. -/
def itemsOutline : List Value → Items
  | [] => .closed
  | value :: others => .item value.outline (itemsOutline others)

/-- The outlines of members, up to the closing brace. -/
def membersOutline : List (String × Value) → Members
  | [] => .closed
  | (name, value) :: others => .member (some name) value.outline (membersOutline others)

end

/-- What becomes of a text behind a complete value in some frames. -/
def deliver (frames : List Frame) (value : Outline) (tokens : List Token) : Document :=
  match frames with
  | [] => ⟨value, !tokens.isEmpty⟩
  | frame :: outer => build .separator (frame.push value :: outer) tokens

/-- No value begins with a closing bracket. -/
theorem build_firstItem (value : Value) (frames : List Frame) (rest : List Token) :
    build .firstItem frames (value.tokens ++ rest) =
      build .value frames (value.tokens ++ rest) := by
  cases value with
  | flag value => rfl
  | natural value => rfl
  | text value => rfl
  | list items => cases items <;> rfl
  | object members => cases members <;> rfl

mutual

theorem build_value : ∀ (value : Value) (frames : List Frame) (rest : List Token),
    build .value frames (value.tokens ++ rest) = deliver frames value.outline rest
  | .flag _, frames, _ => by cases frames <;> rfl
  | .natural _, frames, _ => by cases frames <;> rfl
  | .text _, frames, _ => by cases frames <;> rfl
  | .list [], frames, _ => by cases frames <;> rfl
  | .list (first :: others), frames, rest => by
      have opened : build .value frames ((Value.list (first :: others)).tokens ++ rest) =
          build .firstItem (.array [] :: frames) (first.tokens ++ (itemTokens others ++ rest)) := by
        simp only [Value.tokens, List.cons_append, List.append_assoc]
        rfl
      rw [opened, build_firstItem, build_value first]
      exact build_items others [first.outline] frames rest
  | .object [], frames, _ => by cases frames <;> rfl
  | .object ((name, value) :: others), frames, rest => by
      have opened : build .value frames ((Value.object ((name, value) :: others)).tokens ++ rest) =
          build .value (.object [] (some name) :: frames)
            (value.tokens ++ (memberTokens others ++ rest)) := by
        simp only [Value.tokens, List.cons_append, List.append_assoc]
        rfl
      rw [opened, build_value value]
      exact build_members others [(some name, value.outline)] frames rest

theorem build_items : ∀ (items : List Value) (collected : List Outline) (outer : List Frame)
    (rest : List Token),
    build .separator (.array collected :: outer) (itemTokens items ++ rest) =
      deliver outer (.array (Items.afterReversed collected (itemsOutline items))) rest
  | [], _, outer, _ => by cases outer <;> rfl
  | value :: others, collected, outer, rest => by
      have passed : build .separator (.array collected :: outer)
            (itemTokens (value :: others) ++ rest) =
          build .value (.array collected :: outer)
            (value.tokens ++ (itemTokens others ++ rest)) := by
        simp only [itemTokens, List.cons_append, List.append_assoc]
        rfl
      rw [passed, build_value value]
      exact build_items others (value.outline :: collected) outer rest

theorem build_members : ∀ (members : List (String × Value))
    (collected : List (Option String × Outline)) (outer : List Frame) (rest : List Token),
    build .separator (.object collected none :: outer) (memberTokens members ++ rest) =
      deliver outer (.object (Members.afterReversed collected (membersOutline members))) rest
  | [], _, outer, _ => by cases outer <;> rfl
  | (name, value) :: others, collected, outer, rest => by
      have passed : build .separator (.object collected none :: outer)
            (memberTokens ((name, value) :: others) ++ rest) =
          build .value (.object collected (some name) :: outer)
            (value.tokens ++ (memberTokens others ++ rest)) := by
        simp only [memberTokens, List.cons_append, List.append_assoc]
        rfl
      rw [passed, build_value value]
      exact build_members others ((some name, value.outline) :: collected) outer rest

end

/-- Whoever decodes the text of a value, in either layout, decodes the outline of the value. -/
theorem decode_layouts {α : Type} (decodeValue : Outline → Decoded α) (value : Value) :
    decode decodeValue value.pretty = decodeValue value.outline ∧
      decode decodeValue value.compact = decodeValue value.outline := by
  have built := build_value value [] []
  rw [List.append_nil] at built
  obtain ⟨onOneLine, onManyLines⟩ := tokens_layouts value
  have fromTokens : ∀ text, tokens text.toList = value.tokens →
      decode decodeValue text = decodeValue value.outline := by
    intro text sameTokens
    simp only [decode, outline, sameTokens, built, deliver]
    exact bind_pure (decodeValue value.outline)
  exact ⟨fromTokens _ onManyLines, fromTokens _ onOneLine⟩

/-- A reader of a value gets an item, in whichever layout the value was written. -/
def Recovers {α : Type} (decodeValue : Outline → Decoded α) (value : Value) (item : α) : Prop :=
  decode decodeValue value.pretty = .ok item ∧ decode decodeValue value.compact = .ok item

theorem recovers_of_outline
    {α : Type} {decodeValue : Outline → Decoded α} {value : Value} {item : α}
    (reads : decodeValue value.outline = .ok item) :
    Recovers decodeValue value item := by
  obtain ⟨onManyLines, onOneLine⟩ := decode_layouts decodeValue value
  exact ⟨onManyLines.trans reads, onOneLine.trans reads⟩

/-! ## Plain values -/

@[simp]
theorem decodeText_outline (value : String) : decodeText (Value.text value).outline = .ok value :=
  rfl

@[simp]
theorem decodeFlag_outline (value : Bool) : decodeFlag (Value.flag value).outline = .ok value :=
  rfl

theorem decodeNatural_outline
    {bound value : Nat} (typeName : String) (below : value < bound) (fits : value < UInt64.size) :
    decodeNatural bound typeName (Value.natural value).outline = .ok (UInt64.ofNat value) := by
  have sameValue : (UInt64.ofNat value).toNat = value := UInt64.toNat_ofNat_of_lt' fits
  simp [Value.outline, naturalLeaf_of_lt fits, decodeNatural, sameValue, below]

@[simp]
theorem decodeWide_outline (value : UInt64) :
    decodeWide (Value.natural value.toNat).outline = .ok value := by
  rw [decodeWide, decodeNatural_outline _ value.toNat_lt value.toNat_lt, UInt64.ofNat_toNat]

@[simp]
theorem decodeNarrow_outline (value : UInt32) :
    decodeNarrow (Value.natural value.toNat).outline = .ok value := by
  have fits : value.toNat < UInt64.size := Nat.lt_trans value.toNat_lt (by decide)
  rw [decodeNarrow, decodeNatural_outline _ value.toNat_lt fits]
  simp [Except.map]

theorem decodeSize_outline {value : Nat} (fits : value < UInt64.size) :
    decodeSize (Value.natural value).outline = .ok value := by
  rw [decodeSize, decodeNatural_outline _ fits fits]
  exact congrArg Except.ok (UInt64.toNat_ofNat_of_lt' fits)

/-- Nothing that is written looks like something absent. -/
theorem decodeOptional_outline
    {α : Type} {decode : Outline → Decoded α} {value : Value} {decoded : α}
    (reads : decode value.outline = .ok decoded) :
    decodeOptional decode value.outline = .ok (some decoded) := by
  have notNull : value.outline ≠ .leaf .null := by
    cases value with
    | natural value =>
        simp only [Value.outline, naturalLeaf]
        split <;> simp
    | _ => simp [Value.outline]
  unfold decodeOptional
  split
  · contradiction
  · rw [reads]
    rfl

end CompilationChecks.Json
