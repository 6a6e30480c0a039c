import CompilationChecks.Proofs.Json.ReadBack
import Mathlib.Data.List.Forall2

/-!
# Reading back lists, tables and records

A list is read back item by item and a table binding by binding. What a reader finds out about a
record depends only on which value stands under which name, so it can be said of the members as
they were written: a member that is needed is there and is read as the field, and a spare member
either is, or is missing while the field is what a reader takes in its place.
-/

namespace CompilationChecks.Json

variable {α : Type}

@[simp]
theorem ok_bind {β : Type} (value : α) (next : α → Decoded β) :
    ((.ok value : Decoded α) >>= next) = next value :=
  rfl

/-! ## Names -/

/-- If no two values have the same name, each is found under its own. -/
theorem chooseNamed_of_mem
    {all : List α} {name : α → String} (possible : List String)
    (distinct : (all.map name).Nodup) {value : α} (member : value ∈ all) :
    chooseNamed (all.map fun value => (name value, value)) possible (name value) = .ok value := by
  induction all with
  | nil => cases member
  | cons first others inductionHypothesis =>
      have ⟨fresh, othersDistinct⟩ := List.nodup_cons.1 distinct
      rcases List.mem_cons.1 member with rfl | inOthers
      · simp [chooseNamed]
      · have different : name first ≠ name value := fun same =>
          fresh (same ▸ List.mem_map_of_mem inOthers)
        have found := inductionHypothesis othersDistinct inOthers
        simpa [chooseNamed, different] using found

theorem decodeNamed_outline
    {all : List α} {name : α → String} (possible : List String)
    (distinct : (all.map name).Nodup) {value : α} (member : value ∈ all) :
    decodeNamed (all.map fun value => (name value, value)) possible
      (Value.text (name value)).outline = .ok value := by
  simp only [decodeNamed, Value.outline, decodeVariant, chooseNamed_of_mem possible distinct member]
  rfl

/-! ## Lists and tables -/

theorem decodeList_outline
    {decode : Outline → Decoded α} {values : List Value} {decoded : List α}
    (reads : List.Forall₂ (fun value item => decode value.outline = .ok item) values decoded) :
    decodeList decode (Value.list values).outline = .ok decoded := by
  simp only [Value.outline, decodeList]
  induction reads with
  | nil => rfl
  | cons first _ others =>
      simp only [itemsOutline, Items.decodeAll, first, others]
      rfl

theorem decodeList_map
    {decode : Outline → Decoded α} {encode : α → Value}
    (reads : ∀ item, decode (encode item).outline = .ok item) (items : List α) :
    decodeList decode (Value.list (items.map encode)).outline = .ok items :=
  decodeList_outline <| List.forall₂_map_left_iff.2 <| List.forall₂_same.2 fun item _ => reads item

theorem decodeAll_membersOutline
    {decode : Outline → Decoded α} {encode : α → Value}
    (reads : ∀ item, decode (encode item).outline = .ok item) (entries : List (String × α)) :
    (membersOutline (entries.map fun entry => (entry.1, encode entry.2))).decodeAll decode =
      .ok entries := by
  induction entries with
  | nil => rfl
  | cons first others inductionHypothesis =>
      simp only [List.map_cons, membersOutline, Members.decodeAll, reads, inductionHypothesis]
      rfl

theorem decodeTable_outline
    {decode : Outline → Decoded α} {encode : α → Value}
    (reads : ∀ item, decode (encode item).outline = .ok item) (table : SortedTable String α) :
    decodeTable decode (Value.ofEntries encode table.entries).outline = .ok table := by
  simp only [Value.ofEntries, Value.outline, decodeTable, decodeAll_membersOutline reads,
    Except.map, SortedTable.ofList_entries]

/-! ## What the members of a record say -/

section Lookup

variable {entries : List (String × α)} {name : String}

theorem lookup_cons_of_ne {other : String} (value : α) (different : name ≠ other) :
    ((other, value) :: entries).lookup name = entries.lookup name := by
  have unequal : (name == other) = false := beq_false_of_ne different
  simp only [List.lookup_cons, unequal]

theorem lookup_eq_none_of_fresh (fresh : name ∉ entries.map Prod.fst) :
    entries.lookup name = none := by
  rw [List.lookup_eq_none_iff]
  intro entry among
  exact bne_iff_ne.2 fun same => fresh (same ▸ List.mem_map_of_mem among)

theorem mem_of_lookup {value : α} (found : entries.lookup name = some value) :
    (name, value) ∈ entries := by
  obtain ⟨before, after, rfl, _⟩ := List.lookup_eq_some_iff.1 found
  exact List.mem_append_right before List.mem_cons_self

theorem lookup_of_mem
    {value : α} (distinct : (entries.map Prod.fst).Nodup) (among : (name, value) ∈ entries) :
    entries.lookup name = some value := by
  induction entries with
  | nil => cases among
  | cons first others inductionHypothesis =>
      have ⟨fresh, othersDistinct⟩ := List.nodup_cons.1 distinct
      rcases List.mem_cons.1 among with rfl | inOthers
      · exact List.lookup_cons_self
      · have isName : name ∈ others.map Prod.fst := by
          rw [List.mem_map]
          exact ⟨(name, value), inOthers, rfl⟩
        have different : name ≠ first.1 := fun same => fresh (same ▸ isName)
        exact (lookup_cons_of_ne first.2 different).trans
          (inductionHypothesis othersDistinct inOthers)

end Lookup

/-- The members as a reader finds them. -/
def outlines (members : List (String × Value)) : Picked :=
  members.map fun member => (member.1, member.2.outline)

theorem lookup_outlines (members : List (String × Value)) (name : String) :
    (outlines members).lookup name = (members.lookup name).map Value.outline := by
  induction members with
  | nil => rfl
  | cons first others inductionHypothesis =>
      obtain ⟨other, value⟩ := first
      by_cases same : name = other
      · simp [outlines, same]
      · rw [lookup_cons_of_ne value same, ← inductionHypothesis]
        exact lookup_cons_of_ne value.outline same

@[simp]
theorem lookup_optionalMember
    (name key : String) (encode : α → Value) (value : Option α) :
    (Value.optionalMember name encode value).lookup key =
      if key == name then value.map encode else none := by
  cases value with
  | none => simp [Value.optionalMember]
  | some value =>
      by_cases same : key = name
      · simp [Value.optionalMember, same]
      · rw [Value.optionalMember, lookup_cons_of_ne _ same]
        simp [same]

theorem names_optionalMember (name : String) (encode : α → Value) (value : Option α) :
    ((Value.optionalMember name encode value).map Prod.fst).Sublist [name] := by
  cases value with
  | none => exact List.nil_sublist [name]
  | some value => exact List.Sublist.refl [name]

section Members

variable {members : List (String × Value)} {name : String} {decode : Outline → Decoded α}

theorem needed_of_lookup
    {value : Value} {decoded : α} (found : members.lookup name = some value)
    (reads : decode value.outline = .ok decoded) :
    (outlines members).needed name decode = .ok decoded := by
  simp only [Picked.needed, lookup_outlines, found, Option.map_some, reads]

theorem spare_of_lookup
    {value : Value} {decoded : α} (otherwise : α) (found : members.lookup name = some value)
    (reads : decode value.outline = .ok decoded) :
    (outlines members).spare name decode otherwise = .ok decoded := by
  simp only [Picked.spare, lookup_outlines, found, Option.map_some, reads]

/-- A member that is left out when there is no value for it is read as it was. -/
theorem spare_of_optional
    {encode : α → Value} {value : Option α} (found : members.lookup name = value.map encode)
    (reads : ∀ value, decode (encode value).outline = .ok value) :
    (outlines members).spare name (decodeOptional decode) none = .ok value := by
  cases value with
  | none => simp only [Picked.spare, lookup_outlines, found, Option.map_none]
  | some value => exact spare_of_lookup none found (decodeOptional_outline (reads value))

end Members

/-! ## Picking the fields -/

/-- The check of a field passes whatever stands under its name. -/
def Field.Admits (field : Field) (picked : Picked) : Prop :=
  ∀ value, picked.lookup field.name = some value → field.check value = .ok ()

section Admits

variable {picked : Picked} {name : String} {decode : Outline → Decoded α} {decoded : α}

theorem Field.Admits.of_needed (reads : picked.needed name decode = .ok decoded) :
    (Field.needed name decode).Admits picked := by
  intro value found
  have read : decode value = .ok decoded := by
    rw [Picked.needed, show picked.lookup name = some value from found] at reads
    exact reads
  simp only [Field.needed, read, Except.map]

theorem Field.Admits.of_spare
    {otherwise : α} (reads : picked.spare name decode otherwise = .ok decoded) :
    (Field.spare name decode).Admits picked := by
  intro value found
  have read : decode value = .ok decoded := by
    rw [Picked.spare, show picked.lookup name = some value from found] at reads
    exact reads
  simp only [Field.spare, read, Except.map]

end Admits

/-- Two ways to have picked the same value under every name. -/
def Picked.Same (left right : Picked) : Prop :=
  ∀ name, left.lookup name = right.lookup name

namespace Picked.Same

variable {left right : Picked} (same : left.Same right)
include same

theorem needed (name : String) (decode : Outline → Decoded α) :
    left.needed name decode = right.needed name decode := by
  rw [Picked.needed, same name]
  rfl

theorem spare (name : String) (decode : Outline → Decoded α) (otherwise : α) :
    left.spare name decode otherwise = right.spare name decode otherwise := by
  rw [Picked.spare, same name]
  rfl

end Picked.Same

/-- Picking goes through the members one after another, so `picked` is what was found in those
before. No name may occur twice, neither in what is left nor there. -/
theorem pick_membersOutline
    {fields : List Field} {members : List (String × Value)} (picked : Picked)
    (distinct : (members.map Prod.fst).Nodup)
    (fresh : ∀ member ∈ members, picked.lookup member.1 = none)
    (accepted : ∀ member ∈ members, ∃ field, fields.find? (·.name == member.1) = some field ∧
      field.check member.2.outline = .ok ()) :
    ∃ found, (membersOutline members).pick fields picked = .ok found ∧
      ∀ name, found.lookup name = ((outlines members).lookup name).or (picked.lookup name) := by
  induction members generalizing picked with
  | nil => exact ⟨picked, rfl, fun _ => rfl⟩
  | cons first others inductionHypothesis =>
      obtain ⟨name, value⟩ := first
      have ⟨unique, othersDistinct⟩ := List.nodup_cons.1 distinct
      obtain ⟨field, isField, checked⟩ := accepted _ List.mem_cons_self
      have unpicked : picked.lookup name = none := fresh _ List.mem_cons_self
      have othersFresh : ∀ member ∈ others,
          ((name, value.outline) :: picked).lookup member.1 = none := by
        intro member among
        have isName : member.1 ∈ others.map Prod.fst := List.mem_map_of_mem among
        have different : member.1 ≠ name := fun same => unique (same ▸ isName)
        rw [lookup_cons_of_ne _ different]
        exact fresh member (List.mem_cons_of_mem _ among)
      obtain ⟨found, picks, lookups⟩ := inductionHypothesis ((name, value.outline) :: picked)
        othersDistinct othersFresh fun member among =>
          accepted member (List.mem_cons_of_mem _ among)
      refine ⟨found, ?_, fun key => ?_⟩
      · simp only [membersOutline, Members.pick, isField, unpicked, Option.isSome_none,
          Bool.false_eq_true, if_false, checked]
        exact picks
      · rw [lookups, lookup_outlines, lookup_outlines]
        by_cases same : key = name
        · subst same
          rw [lookup_eq_none_of_fresh unique, List.lookup_cons_self, List.lookup_cons_self]
          rfl
        · rw [lookup_cons_of_ne _ same, lookup_cons_of_ne _ same]

/-- A record whose members stand in the order of the fields is picked apart completely. -/
theorem pickFields_object
    (record : String) (fields : List Field) (members : List (String × Value))
    (distinct : (fields.map Field.name).Nodup)
    (ordered : (members.map Prod.fst).Sublist (fields.map Field.name))
    (admitted : ∀ field ∈ fields, field.Admits (outlines members)) :
    ∃ picked, pickFields record fields (Value.object members).outline = .ok picked ∧
      picked.Same (outlines members) := by
  have membersDistinct : (members.map Prod.fst).Nodup := distinct.sublist ordered
  have accepted : ∀ member ∈ members, ∃ field,
      fields.find? (·.name == member.1) = some field ∧
        field.check member.2.outline = .ok () := by
    intro member among
    have isName : member.1 ∈ fields.map Field.name :=
      ordered.subset (List.mem_map_of_mem among)
    obtain ⟨candidate, inFields, sameName⟩ := List.mem_map.1 isName
    have exists_ : (fields.find? (·.name == member.1)).isSome := by
      rw [List.find?_isSome]
      exact ⟨candidate, inFields, beq_iff_eq.2 sameName⟩
    obtain ⟨field, isField⟩ := Option.isSome_iff_exists.1 exists_
    have itsName : field.name = member.1 := by
      have selected := List.find?_some isField
      exact beq_iff_eq.1 selected
    refine ⟨field, isField, admitted field (List.mem_of_find?_eq_some isField) _ ?_⟩
    rw [lookup_outlines, itsName, lookup_of_mem membersDistinct among, Option.map_some]
  obtain ⟨picked, picks, lookups⟩ :=
    pick_membersOutline [] membersDistinct (fun _ _ => rfl) accepted
  refine ⟨picked, picks, fun name => ?_⟩
  rw [lookups, List.lookup_nil, Option.or_none]

/-! ## Leaving members out -/

/-- The members that are left when some are left out. -/
def without (removed : List String) (members : List (String × Value)) : List (String × Value) :=
  members.filter fun member => !removed.contains member.1

theorem lookup_without
    (removed : List String) (members : List (String × Value)) (name : String) :
    (without removed members).lookup name =
      if name ∈ removed then none else members.lookup name := by
  induction members with
  | nil => exact (ite_self none).symm
  | cons first others inductionHypothesis =>
      obtain ⟨other, value⟩ := first
      unfold without at inductionHypothesis ⊢
      by_cases isRemoved : other ∈ removed
      · rw [List.filter_cons_of_neg (by simpa using isRemoved), inductionHypothesis]
        by_cases same : name = other
        · rw [if_pos (same ▸ isRemoved), if_pos (same ▸ isRemoved)]
        · rw [lookup_cons_of_ne value same]
      · rw [List.filter_cons_of_pos (by simpa using isRemoved)]
        by_cases same : name = other
        · rw [same, if_neg isRemoved, List.lookup_cons_self, List.lookup_cons_self]
        · rw [lookup_cons_of_ne value same, lookup_cons_of_ne value same, inductionHypothesis]

/-- Some members may be left out, as far as they are there: each is one of those that are presumed
to be there when they are missing. -/
def Removable (presumed members : List (String × Value)) (removed : List String) : Prop :=
  ∀ member ∈ members, member.1 ∈ removed → member ∈ presumed

section Without

variable {presumed members : List (String × Value)} {removed : List String} {name : String}
  {decode : Outline → Decoded α} {decoded : α}

theorem needed_without
    (removable : Removable presumed members removed) (fixed : name ∉ presumed.map Prod.fst)
    (reads : (outlines members).needed name decode = .ok decoded) :
    (outlines (without removed members)).needed name decode = .ok decoded := by
  simp only [Picked.needed, lookup_outlines, lookup_without] at reads ⊢
  by_cases isRemoved : name ∈ removed
  · exfalso
    cases found : members.lookup name with
    | none => simp [found] at reads
    | some value =>
        have isPresumed := removable (name, value) (mem_of_lookup found) isRemoved
        exact fixed (List.mem_map_of_mem (f := Prod.fst) isPresumed)
  · rw [if_neg isRemoved]
    exact reads

/-- A member that is left out is read as what it is presumed to be, which it was. -/
theorem spare_without
    {otherwise : α} (removable : Removable presumed members removed)
    (plain : ∀ value, (name, value) ∈ presumed → decode value.outline = .ok otherwise)
    (reads : (outlines members).spare name decode otherwise = .ok decoded) :
    (outlines (without removed members)).spare name decode otherwise = .ok decoded := by
  simp only [Picked.spare, lookup_outlines, lookup_without] at reads ⊢
  by_cases isRemoved : name ∈ removed
  · rw [if_pos isRemoved]
    cases found : members.lookup name with
    | none => simpa [found] using reads
    | some value =>
        have same := plain value (removable (name, value) (mem_of_lookup found) isRemoved)
        simp only [found, Option.map_some, same] at reads
        exact reads
  · rw [if_neg isRemoved]
    exact reads

end Without

end CompilationChecks.Json
