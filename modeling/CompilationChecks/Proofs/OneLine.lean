import CompilationChecks.Group
import CompilationChecks.Proofs.Json.Written

/-!
# Texts on one line

The views that log entries show are put together from fixed pieces, from numbers, and from texts
that are quoted or stand as they are. Only the last kind can bring a line break in: a view is on one
line exactly if all texts that stand in it as they are, are on one line.
-/

namespace CompilationChecks

instance (text : List Char) : Decidable (Json.Printed text) :=
  List.decidableBAll (fun c : Char => 0x20 ≤ c.toNat) text

/-- A text without line feeds and carriage returns. -/
def Text.OneLine (text : String) : Prop :=
  ∀ c ∈ text.toList, c ≠ '\n' ∧ c ≠ '\r'

namespace Text.OneLine

instance (text : String) : Decidable (OneLine text) :=
  List.decidableBAll (fun c : Char => c ≠ '\n' ∧ c ≠ '\r') text.toList

variable {front back : String}

@[simp]
theorem append_iff : OneLine (front ++ back) ↔ OneLine front ∧ OneLine back := by
  unfold OneLine
  rw [String.toList_append, List.forall_mem_append]

theorem append (first : OneLine front) (second : OneLine back) : OneLine (front ++ back) :=
  append_iff.2 ⟨first, second⟩

theorem of_printed {text : List Char} (printed : Json.Printed text) :
    OneLine (String.ofList text) := by
  intro c member
  rw [String.toList_ofList] at member
  have large : 0x20 ≤ c.toNat := printed c member
  constructor
  · rintro rfl
    exact absurd large (by decide)
  · rintro rfl
    exact absurd large (by decide)

/-! ## Numbers and quoted texts -/

@[simp]
theorem of_nat (value : Nat) : OneLine (toString value) :=
  of_printed (Json.printed_toDigits (by decide) (by decide) value)

@[simp]
theorem of_wide (value : UInt64) : OneLine (toString value) :=
  of_nat value.toNat

@[simp]
theorem of_narrow (value : UInt32) : OneLine (toString value) :=
  of_nat value.toNat

theorem printed_quotedChar (c : Char) : Json.Printed (quotedChar c) := by
  have escape : Json.Printed ['\\', 'u', '\x7b'] := by
    decide
  unfold quotedChar
  split
  case h_7 =>
    split
    · rename_i printable
      refine List.forall_mem_singleton.2 ?_
      unfold isPrintable at printable
      split at printable
      · exact of_decide_eq_true printable
      · omega
    · exact (escape.append (Json.printed_toDigits (by decide) (by decide) c.toNat)).append
        (by decide)
  all_goals decide

@[simp]
theorem of_quoted (text : String) : OneLine (quoted text) := by
  have inner : Json.Printed (text.toList.flatMap quotedChar) := by
    intro c member
    obtain ⟨original, _, inside⟩ := List.mem_flatMap.1 member
    exact printed_quotedChar original c inside
  have mark : 0x20 ≤ '"'.toNat := by
    decide
  exact of_printed ((inner.cons mark).append (List.forall_mem_singleton.2 mark))

end Text.OneLine

open Text

/-! ## Views -/

namespace Inspection

@[simp]
theorem oneLine_commas_iff (items : List String) :
    OneLine (commas items) ↔ ∀ item ∈ items, OneLine item := by
  unfold commas
  induction items with
  | nil => exact iff_of_true (by decide) (List.forall_mem_nil _)
  | cons first others inductionHypothesis =>
      cases others with
      | nil => simp
      | cons second rest =>
          have comma : OneLine ", " := by
            decide
          rw [String.intercalate_cons_cons, OneLine.append_iff, OneLine.append_iff,
            inductionHypothesis]
          simp only [comma, and_true, List.forall_mem_cons]

theorem oneLine_list
    {α : Type} {view : α → String} (fit : ∀ item, OneLine (view item)) (items : List α) :
    OneLine (list (items.map view)) := by
  have inner : OneLine (commas (items.map view)) :=
    (oneLine_commas_iff _).2 (List.forall_mem_map.2 fun item _ => fit item)
  exact .append (.append (by decide) inner) (by decide)

theorem oneLine_flag (value : Bool) : OneLine (flag value) := by
  cases value <;> decide

theorem oneLine_tagged {tag content : String} (name : OneLine tag) (fit : OneLine content) :
    OneLine (tagged tag content) :=
  .append (.append (.append name (by decide)) fit) (by decide)

theorem oneLine_option
    {α : Type} {view : α → String} (fit : ∀ item, OneLine (view item)) (value : Option α) :
    OneLine (option (value.map view)) := by
  cases value with
  | none => exact (by decide : OneLine (option none))
  | some item => exact oneLine_tagged (by decide) (fit item)

theorem oneLine_entries
    {entries : List (String × String)}
    (fit : ∀ entry ∈ entries, OneLine entry.1 ∧ OneLine entry.2) :
    OneLine (commas (entries.map fun entry => entry.1 ++ ": " ++ entry.2)) := by
  rw [oneLine_commas_iff]
  intro item member
  obtain ⟨entry, inEntries, rfl⟩ := List.mem_map.1 member
  obtain ⟨key, value⟩ := fit entry inEntries
  exact .append (.append key (by decide)) value

theorem oneLine_table
    {entries : List (String × String)}
    (fit : ∀ entry ∈ entries, OneLine entry.1 ∧ OneLine entry.2) :
    OneLine (table entries) :=
  .append (.append (by decide) (oneLine_entries fit)) (by decide)

theorem oneLine_record
    {name : String} {entries : List (String × String)} (named : OneLine name)
    (fit : ∀ entry ∈ entries, OneLine entry.1 ∧ OneLine entry.2) :
    OneLine (record name entries) :=
  .append (.append (.append named (by decide)) (oneLine_entries fit)) (by decide)

end Inspection

/-! ### Of containers, files and groups -/

theorem Location.Standard.oneLine_name (root : Standard) : OneLine root.name := by
  cases root <;> decide

theorem Location.Standard.oneLine_inspect (root : Standard) : OneLine root.inspect := by
  cases root <;> decide

theorem Location.oneLine_inspect (location : Location) : OneLine location.inspect := by
  cases location with
  | standard root => exact Inspection.oneLine_tagged (by decide) root.oneLine_inspect
  | module parent moduleName =>
      refine Inspection.oneLine_tagged (by decide) (Inspection.oneLine_record (by decide) ?_)
      simp only [List.forall_mem_cons, OneLine.of_quoted, parent.oneLine_inspect]
      decide

theorem FileKind.oneLine_inspect (kind : FileKind) : OneLine kind.inspect := by
  cases kind <;> decide

theorem FileRef.oneLine_inspect (file : FileRef) : OneLine file.inspect := by
  refine Inspection.oneLine_record (by decide) ?_
  simp only [List.forall_mem_cons, OneLine.of_quoted, file.location.oneLine_inspect,
    file.kind.oneLine_inspect]
  decide

theorem Container.oneLine_inspect (container : Container) : OneLine container.inspect := by
  refine Inspection.oneLine_record (by decide) ?_
  simp only [List.forall_mem_cons, OneLine.of_quoted, OneLine.of_nat]
  decide

theorem PackageGroup.oneLine_inspect (group : PackageGroup) (shelf : Shelf) :
    OneLine (group.inspect shelf) := by
  have containers : OneLine (Inspection.list ((group.containers shelf).map Container.inspect)) :=
    Inspection.oneLine_list Container.oneLine_inspect _
  refine Inspection.oneLine_record (by decide) ?_
  simp only [List.forall_mem_cons, group.location.oneLine_inspect, containers]
  decide

theorem oneLine_inspectModules (modules : SortedTable String PackageGroup) (shelf : Shelf) :
    OneLine (inspectModules modules shelf) :=
  Inspection.oneLine_table (List.forall_mem_map.2 fun entry _ =>
    ⟨OneLine.of_quoted entry.1, entry.2.oneLine_inspect shelf⟩)

theorem ModuleGroup.oneLine_inspect (group : ModuleGroup) (shelf : Shelf) :
    OneLine (group.inspect shelf) := by
  refine Inspection.oneLine_record (by decide) ?_
  simp only [List.forall_mem_cons, group.location.oneLine_inspect, oneLine_inspectModules]
  decide

theorem OutputGroup.oneLine_inspect (group : OutputGroup) (shelf : Shelf) :
    OneLine (group.inspect shelf) := by
  refine Inspection.oneLine_record (by decide) ?_
  simp only [List.forall_mem_cons, group.package.oneLine_inspect, oneLine_inspectModules]
  decide

end CompilationChecks
