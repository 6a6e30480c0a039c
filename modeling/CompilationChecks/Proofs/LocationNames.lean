import CompilationChecks.Verification
import Mathlib.Data.List.Basic
import Mathlib.Data.List.TakeWhile

/-!
# Locations are read by their names

Every location has a name of its own, and a text is read as a location exactly if it is the name
of one, but for blank characters around the text and the case of letters before the first bracket.
Brackets and blank characters inside the name of a module are part of that name. The one location
that its own name does not lead back to is a module without a name.
-/

namespace CompilationChecks

namespace Text

/-! ## Splitting and trimming -/

theorem splitFirst?_eq_none_iff {mark : Char} {text : List Char} :
    splitFirst? mark text = none ↔ mark ∉ text := by
  induction text with
  | nil => simp [splitFirst?]
  | cons c rest inductionHypothesis =>
      by_cases found : c = mark
      · simp [splitFirst?, found]
      · simp [splitFirst?, found, Ne.symm found, inductionHypothesis]

theorem splitFirst?_eq_some_iff {mark : Char} {text before after : List Char} :
    splitFirst? mark text = some (before, after) ↔
      text = before ++ mark :: after ∧ mark ∉ before := by
  induction text generalizing before with
  | nil => simp [splitFirst?]
  | cons c rest inductionHypothesis =>
      by_cases found : c = mark
      · cases before with
        | nil => simp [splitFirst?, found]
        | cons first others => simp +contextual [splitFirst?, found, eq_comm]
      · cases before with
        | nil => simp [splitFirst?, found]
        | cons first others =>
            simp [splitFirst?, found, inductionHypothesis]
            grind

/-- What stands before and after the first mark is determined. -/
theorem append_mark_inj
    {mark : Char} {before after otherBefore otherAfter : List Char}
    (plain : mark ∉ before) (otherPlain : mark ∉ otherBefore) :
    before ++ mark :: after = otherBefore ++ mark :: otherAfter ↔
      before = otherBefore ∧ after = otherAfter := by
  constructor
  · intro same
    have split : splitFirst? mark (before ++ mark :: after) = some (before, after) :=
      splitFirst?_eq_some_iff.2 ⟨rfl, plain⟩
    have otherSplit : splitFirst? mark (before ++ mark :: after) = some (otherBefore, otherAfter) :=
      splitFirst?_eq_some_iff.2 ⟨same, otherPlain⟩
    simpa using split.symm.trans otherSplit
  · rintro ⟨rfl, rfl⟩
    rfl

/-- A text that begins and ends with characters that are not blank. -/
structure Firm (text : List Char) : Prop where
  head : ∃ c ∈ text.head?, isBlank c = false
  last : ∃ c ∈ text.getLast?, isBlank c = false

theorem dropWhile_isBlank_append
    {before text : List Char} (blank : ∀ c ∈ before, isBlank c = true)
    (head : ∃ c ∈ text.head?, isBlank c = false) :
    (before ++ text).dropWhile isBlank = text := by
  obtain ⟨c, first, solid⟩ := head
  obtain ⟨rest, rfl⟩ := List.head?_eq_some_iff.1 first
  rw [List.dropWhile_append_of_pos blank, List.dropWhile_cons_of_neg (by simp [solid])]

theorem trim_surrounded
    {before text after : List Char} (firm : Firm text)
    (blankBefore : ∀ c ∈ before, isBlank c = true)
    (blankAfter : ∀ c ∈ after, isBlank c = true) :
    trim (before ++ text ++ after) = text := by
  have head : ∃ c ∈ (text ++ after).head?, isBlank c = false := by
    obtain ⟨c, first, solid⟩ := firm.head
    exact ⟨c, List.mem_head?_append_of_mem_head? first, solid⟩
  have last : ∃ c ∈ text.reverse.head?, isBlank c = false := by
    rw [List.head?_reverse]
    exact firm.last
  have blankBehind : ∀ c ∈ after.reverse, isBlank c = true := by simpa using blankAfter
  rw [trim, List.append_assoc, dropWhile_isBlank_append blankBefore head, List.reverse_append,
    dropWhile_isBlank_append blankBehind last, List.reverse_reverse]

/-! ## The case of letters -/

theorem toNat_toUpper (c : Char) :
    c.toUpper.toNat = if 97 ≤ c.toNat ∧ c.toNat ≤ 122 then c.toNat - 32 else c.toNat := by
  have lower : ('a'.val ≤ c.val ∧ c.val ≤ 'z'.val) ↔ 97 ≤ c.toNat ∧ c.toNat ≤ 122 := by
    simp [UInt32.le_iff_toNat_le]
  unfold Char.toUpper
  by_cases bounds : 97 ≤ c.toNat ∧ c.toNat ≤ 122
  · have raised : (c.val + ('A'.val - 'a'.val)).toNat = c.toNat - 32 := by
      simp [UInt32.toNat_add]
      omega
    rw [dif_pos (lower.2 bounds), if_pos bounds]
    exact raised
  · rw [dif_neg (mt lower.1 bounds), if_neg bounds]

theorem toNat_toLower (c : Char) :
    c.toLower.toNat = if 65 ≤ c.toNat ∧ c.toNat ≤ 90 then c.toNat + 32 else c.toNat := by
  have upper : ('A'.val ≤ c.val ∧ c.val ≤ 'Z'.val) ↔ 65 ≤ c.toNat ∧ c.toNat ≤ 90 := by
    simp [UInt32.le_iff_toNat_le]
  unfold Char.toLower
  by_cases bounds : 65 ≤ c.toNat ∧ c.toNat ≤ 90
  · have lowered : (c.val + ('a'.val - 'A'.val)).toNat = c.toNat + 32 := by
      simp [UInt32.toNat_add]
      omega
    rw [dif_pos (upper.2 bounds), if_pos bounds]
    exact lowered
  · rw [dif_neg (mt upper.1 bounds), if_neg bounds]

@[simp]
theorem toUpper_toLower (c : Char) : c.toLower.toUpper = c.toUpper := by
  rw [← Char.toNat_inj, toNat_toUpper, toNat_toUpper, toNat_toLower]
  split_ifs <;> omega

@[simp]
theorem toLower_toUpper (c : Char) : c.toUpper.toLower = c.toLower := by
  rw [← Char.toNat_inj, toNat_toLower, toNat_toLower, toNat_toUpper]
  split_ifs <;> omega

theorem isBlank_toUpper (c : Char) : isBlank c.toUpper = isBlank c := by
  rw [Bool.eq_iff_iff]
  simp only [isBlank, toNat_toUpper, Bool.or_eq_true, Bool.and_eq_true, decide_eq_true_eq,
    beq_iff_eq]
  split_ifs <;> omega

theorem toUpper_eq_bracket_iff {c : Char} : c.toUpper = '[' ↔ c = '[' := by
  have bracket : '['.toNat = 91 := rfl
  rw [← Char.toNat_inj, ← Char.toNat_inj, toNat_toUpper, bracket]
  split_ifs <;> omega

@[simp]
theorem bracket_mem_raised_iff {text : List Char} : '[' ∈ raised text ↔ '[' ∈ text := by
  simp [raised, List.mem_map, toUpper_eq_bracket_iff]

theorem sameLetters_iff {left right : List Char} :
    sameLetters left right = true ↔ raised left = raised right := by
  rw [sameLetters, beq_iff_eq]
  constructor
  · intro same
    simpa [raised, lowered, Function.comp_def] using congrArg raised same
  · intro same
    simpa [raised, lowered, Function.comp_def] using congrArg lowered same

/-- The text with capital letters before its first bracket. -/
def capitalized (text : List Char) : List Char :=
  raised (text.takeWhile (· ≠ '[')) ++ text.dropWhile (· ≠ '[')

theorem capitalized_of_notMem {text : List Char} (plain : '[' ∉ text) :
    capitalized text = raised text := by
  have kept : ∀ c ∈ text, decide (c ≠ '[') = true := by
    intro c member
    exact decide_eq_true fun same => plain (same ▸ member)
  rw [capitalized, List.takeWhile_eq_self_iff.2 kept, List.dropWhile_eq_nil_iff.2 kept,
    List.append_nil]

theorem capitalized_append {before : List Char} (after : List Char) (plain : '[' ∉ before) :
    capitalized (before ++ '[' :: after) = raised before ++ '[' :: after := by
  have kept : ∀ c ∈ before, decide (c ≠ '[') = true := by
    intro c member
    exact decide_eq_true fun same => plain (same ▸ member)
  rw [capitalized, List.takeWhile_append_of_pos kept, List.dropWhile_append_of_pos kept]
  simp

theorem firm_raised_append_iff {front tail : List Char} :
    Firm (raised front ++ tail) ↔ Firm (front ++ tail) := by
  have head : (∃ c ∈ (raised front ++ tail).head?, isBlank c = false) ↔
      ∃ c ∈ (front ++ tail).head?, isBlank c = false := by
    cases front with
    | nil => rfl
    | cons c rest => simp [raised, isBlank_toUpper]
  have last : (∃ c ∈ (raised front ++ tail).getLast?, isBlank c = false) ↔
      ∃ c ∈ (front ++ tail).getLast?, isBlank c = false := by
    cases tail with
    | nil => simp [raised, isBlank_toUpper]
    | cons c rest => simp [List.getLast?_append]
  exact ⟨fun firm => ⟨head.1 firm.head, last.1 firm.last⟩,
    fun firm => ⟨head.2 firm.head, last.2 firm.last⟩⟩

theorem firm_capitalized_iff {text : List Char} : Firm (capitalized text) ↔ Firm text := by
  rw [capitalized, firm_raised_append_iff, List.takeWhile_append_dropWhile]

/-- One text is the other but for the case of letters before the first bracket. -/
def Respells (text name : List Char) : Prop :=
  sameLetters (text.takeWhile (· ≠ '[')) (name.takeWhile (· ≠ '[')) = true ∧
    text.dropWhile (· ≠ '[') = name.dropWhile (· ≠ '[')

theorem Respells.capitalized_eq {text name : List Char} (respells : Respells text name) :
    capitalized text = capitalized name := by
  rw [capitalized, capitalized, sameLetters_iff.1 respells.1, respells.2]

end Text

namespace Location

open Text

/-! ## Standard locations -/

namespace Standard

theorem bracket_notMem_name (root : Standard) : '[' ∉ root.name.toList := by
  cases root <;> decide

theorem raised_name (root : Standard) : raised root.name.toList = root.name.toList := by
  cases root <;> rfl

theorem firm_name (root : Standard) : Firm root.name.toList := by
  cases root <;> exact ⟨⟨_, rfl, rfl⟩, _, rfl, rfl⟩

theorem name_injective : Function.Injective name := by
  have different : ∀ left ∈ all, ∀ right ∈ all, left.name = right.name → left = right := by
    decide
  exact fun left right same => different left left.mem_all right right.mem_all same

theorem ofName?_eq_some_iff {text : List Char} {root : Standard} :
    ofName? text = some root ↔ root.name.toList = raised text := by
  have stands : ∀ other : Standard, sameLetters other.name.toList text = true ↔
      other.name.toList = raised text := by
    intro other
    rw [sameLetters_iff, other.raised_name]
  unfold ofName?
  constructor
  · intro found
    exact (stands root).1 (List.find?_eq_some_iff_append.1 found).1
  · intro named
    cases found : all.find? fun other => sameLetters other.name.toList text with
    | none => exact absurd ((stands root).2 named) (List.find?_eq_none.1 found root root.mem_all)
    | some other =>
        have otherNamed := (stands other).1 (List.find?_eq_some_iff_append.1 found).1
        have sameName : other.name.toList = root.name.toList := otherNamed.trans named.symm
        rw [name_injective (String.toList_inj.1 sameName)]

end Standard

/-! ## All locations -/

/-- A location whose module, if it is one, has a name. -/
def IsNamed : Location → Prop
  | .standard _ => True
  | .module _ moduleName => moduleName ≠ ""

theorem name_module_toList (parent : Standard) (moduleName : String) :
    (Location.module parent moduleName).name.toList =
      parent.name.toList ++ '[' :: (moduleName.toList ++ [']']) := by
  simp [name]

theorem bracket_mem_name_module (parent : Standard) (moduleName : String) :
    '[' ∈ (Location.module parent moduleName).name.toList := by
  simp [name_module_toList]

theorem name_standard_ne_module (root parent : Standard) (moduleName : String) :
    (standard root).name ≠ (module parent moduleName).name := by
  intro same
  have bracket := bracket_mem_name_module parent moduleName
  rw [← same] at bracket
  exact root.bracket_notMem_name bracket

theorem moduleNameOf?_eq_some_iff {text : List Char} {moduleName : String} :
    moduleNameOf? text = some moduleName ↔
      moduleName ≠ "" ∧ moduleName.toList ++ [']'] = text := by
  rw [moduleNameOf?, Option.ite_none_right_eq_some, Bool.and_eq_true, decide_eq_true_eq,
    decide_eq_true_eq, List.getLast?_eq_some_iff]
  constructor
  · rintro ⟨⟨⟨front, rfl⟩, filled⟩, named⟩
    cases named
    simpa [String.ofList_eq_empty_iff] using filled
  · rintro ⟨filled, rfl⟩
    simpa using filled

/-- The locations whose names have no bracket are the standard ones. -/
theorem named_plain_iff {text : List Char} {location : Location} (plain : '[' ∉ text) :
    location.IsNamed ∧ location.name.toList = raised text ↔
      (Standard.ofName? text).map .standard = some location := by
  cases location with
  | standard root => simp [IsNamed, name, Standard.ofName?_eq_some_iff]
  | module parent moduleName =>
      have differs : (module parent moduleName).name.toList ≠ raised text := by
        intro same
        exact bracket_mem_raised_iff.not.2 plain (same ▸ bracket_mem_name_module parent moduleName)
      simp [differs]

/-- The locations whose names have a bracket are the modules. -/
theorem named_bracketed_iff
    {before after : List Char} {location : Location} (plain : '[' ∉ before) :
    location.IsNamed ∧ location.name.toList = raised before ++ '[' :: after ↔
      ∃ parent moduleName, .module parent moduleName = location ∧
        Standard.ofName? before = some parent ∧ moduleNameOf? after = some moduleName := by
  cases location with
  | standard root =>
      have differs : (standard root).name.toList ≠ raised before ++ '[' :: after := by
        intro same
        exact root.bracket_notMem_name (same ▸ by simp)
      simp [differs]
  | module parent moduleName =>
      have noBracket : '[' ∉ raised before := bracket_mem_raised_iff.not.2 plain
      simp only [name_module_toList, append_mark_inj parent.bracket_notMem_name noBracket, IsNamed,
        module.injEq, Standard.ofName?_eq_some_iff, moduleNameOf?_eq_some_iff]
      constructor
      · rintro ⟨named, parentName, rest⟩
        exact ⟨parent, moduleName, ⟨rfl, rfl⟩, parentName, named, rest⟩
      · rintro ⟨_, _, ⟨rfl, rfl⟩, parentName, named, rest⟩
        exact ⟨named, parentName, rest⟩

theorem parse?_eq_some_iff {text : String} {location : Location} :
    parse? text = some location ↔
      location.IsNamed ∧ location.name.toList = capitalized (trim text.toList) := by
  unfold parse?
  dsimp only
  generalize trim text.toList = trimmed
  cases split : splitFirst? '[' trimmed with
  | none =>
      have plain := splitFirst?_eq_none_iff.1 split
      rw [capitalized_of_notMem plain, named_plain_iff plain]
  | some parts =>
      obtain ⟨before, after⟩ := parts
      obtain ⟨rfl, plain⟩ := splitFirst?_eq_some_iff.1 split
      rw [capitalized_append after plain, named_bracketed_iff plain]
      dsimp only
      cases Standard.ofName? before <;> cases moduleNameOf? after <;> simp

/-- A name is in capitals before its first bracket, and no character around it is blank. -/
theorem capitalized_name (location : Location) :
    capitalized location.name.toList = location.name.toList := by
  cases location with
  | standard root => exact (capitalized_of_notMem root.bracket_notMem_name).trans root.raised_name
  | module parent moduleName =>
      rw [name_module_toList, capitalized_append _ parent.bracket_notMem_name, parent.raised_name]

theorem firm_name (location : Location) : Firm location.name.toList := by
  cases location with
  | standard root => exact root.firm_name
  | module parent moduleName =>
      obtain ⟨c, first, solid⟩ := parent.firm_name.head
      rw [name_module_toList]
      exact ⟨⟨c, List.mem_head?_append_of_mem_head? first, solid⟩, ']',
        by simp [List.getLast?_cons], rfl⟩

theorem name_injective : Function.Injective name := by
  intro left right same
  match left, right with
  | .standard root, .standard otherRoot =>
      exact congrArg standard (Standard.name_injective same)
  | .standard root, .module otherParent otherName =>
      exact absurd same (name_standard_ne_module root otherParent otherName)
  | .module parent moduleName, .standard otherRoot =>
      exact absurd same.symm (name_standard_ne_module otherRoot parent moduleName)
  | .module parent moduleName, .module otherParent otherName =>
      have sameText := congrArg String.toList same
      rw [name_module_toList, name_module_toList, append_mark_inj parent.bracket_notMem_name
        otherParent.bracket_notMem_name] at sameText
      obtain ⟨sameParent, sameRest⟩ := sameText
      have sameName := String.toList_inj.1 (List.append_cancel_right sameRest)
      rw [Standard.name_injective (String.toList_inj.1 sameParent), sameName]

/-- A text is read as a location exactly if it is the name of one that can be read. -/
theorem ofName_eq_ok_iff {text : String} {location : Location} :
    ofName text = .ok location ↔
      location.IsNamed ∧ location.name.toList = capitalized (trim text.toList) := by
  rw [← parse?_eq_some_iff, ofName]
  cases parse? text <;> simp

theorem ofName_eq_error_iff {text : String} {trouble : Trouble} :
    ofName text = .error trouble ↔
      trouble = .unknownLocation text ∧ ∀ location, ofName text ≠ .ok location := by
  rw [ofName]
  cases parse? text <;> simp [eq_comm]

/-- **Locations are read by their names.** The name of a location that is no module without a name
is read as that location, also in other letters before the first bracket and between blank
characters. A text that is read as a location is such a name, but for the letters and the blank
characters; every other text is refused and reported as it is. No two locations share a name. -/
theorem locations_are_read_by_name :
    (∀ (location : Location) (before written after : List Char), location.IsNamed →
      (∀ c ∈ before, isBlank c = true) → Respells written location.name.toList →
      (∀ c ∈ after, isBlank c = true) →
        ofName (String.ofList (before ++ written ++ after)) = .ok location) ∧
      (∀ (text : String) (location : Location), ofName text = .ok location ↔
        location.IsNamed ∧ location.name.toList = capitalized (trim text.toList)) ∧
      (∀ (text : String) (trouble : Trouble), ofName text = .error trouble ↔
        trouble = .unknownLocation text ∧ ∀ location : Location, location.IsNamed →
          location.name.toList ≠ capitalized (trim text.toList)) ∧
      Function.Injective name := by
  refine ⟨?_, fun text location => ofName_eq_ok_iff, ?_, name_injective⟩
  · intro location before written after named blankBefore respells blankAfter
    have same : capitalized written = location.name.toList :=
      respells.capitalized_eq.trans location.capitalized_name
    have firm : Firm written := firm_capitalized_iff.1 (same ▸ location.firm_name)
    rw [ofName_eq_ok_iff, String.toList_ofList, trim_surrounded firm blankBefore blankAfter]
    exact ⟨named, same.symm⟩
  · intro text trouble
    simp only [ofName_eq_error_iff, ne_eq, ofName_eq_ok_iff, not_and]

example :
    ofName "\u2003class_Output[a[B] ]\t" = .ok (.module .classOutput "a[B] ") := by
  rfl

end Location

end CompilationChecks
