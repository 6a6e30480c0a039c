/-!
Tables that list their keys in ascending order. A table is determined by what it holds: two
tables with the same bindings are equal, so the order of insertions leaves no trace.
-/

namespace CompilationChecks

universe u v w

/-- Bindings in strictly ascending order of their keys. -/
structure SortedTable (κ : Type u) (ν : Type v) [Ord κ] where
  /-- The bindings, smallest key first. -/
  entries : List (κ × ν)
  /-- No key occurs twice, and the smaller of two keys comes first. -/
  ascending : entries.Pairwise fun left right => compare left.1 right.1 = .lt
  deriving DecidableEq, Repr

namespace SortedTable

variable {κ : Type u} {ν : Type v} {ω : Type w} [Ord κ]

/-- The table without bindings. -/
def empty : SortedTable κ ν :=
  ⟨[], .nil⟩

instance : Inhabited (SortedTable κ ν) :=
  ⟨empty⟩

instance : EmptyCollection (SortedTable κ ν) :=
  ⟨empty⟩

/-- The value that an ascending list binds to a key. -/
def lookup (key : κ) : List (κ × ν) → Option ν
  | [] => none
  | entry :: rest =>
    match compare key entry.1 with
    | .eq => some entry.2
    | _ => lookup key rest

/-- An ascending list in which one key is bound anew, from the value it had before. -/
def place (key : κ) (change : Option ν → ν) : List (κ × ν) → List (κ × ν)
  | [] => [(key, change none)]
  | entry :: rest =>
    match compare key entry.1 with
    | .lt => (key, change none) :: entry :: rest
    | .eq => (entry.1, change (some entry.2)) :: rest
    | .gt => entry :: place key change rest

/-- Placing a key brings no key into the list but that one. -/
theorem key_of_mem_place
    {key : κ} {change : Option ν → ν} {entries : List (κ × ν)} {entry : κ × ν}
    (member : entry ∈ place key change entries) :
    entry.1 = key ∨ ∃ old ∈ entries, old.1 = entry.1 := by
  induction entries with
  | nil =>
      simp only [place, List.mem_singleton] at member
      exact Or.inl (by rw [member])
  | cons first rest ih =>
      unfold place at member
      split at member
      · rcases List.mem_cons.1 member with rfl | inOld
        · exact Or.inl rfl
        · exact Or.inr ⟨entry, inOld, rfl⟩
      · rcases List.mem_cons.1 member with rfl | inRest
        · exact Or.inr ⟨first, List.mem_cons_self, rfl⟩
        · exact Or.inr ⟨entry, List.mem_cons_of_mem _ inRest, rfl⟩
      · rcases List.mem_cons.1 member with rfl | inRest
        · exact Or.inr ⟨entry, List.mem_cons_self, rfl⟩
        · rcases ih inRest with same | ⟨old, oldMember, same⟩
          · exact Or.inl same
          · exact Or.inr ⟨old, List.mem_cons_of_mem _ oldMember, same⟩

/-- Placing a key keeps the order of the keys. -/
theorem pairwise_place [Std.TransOrd κ]
    (key : κ) (change : Option ν → ν) {entries : List (κ × ν)}
    (ascending : entries.Pairwise fun left right => compare left.1 right.1 = .lt) :
    (place key change entries).Pairwise fun left right => compare left.1 right.1 = .lt := by
  induction entries with
  | nil => simp [place]
  | cons first rest ih =>
      have ⟨below, restAscending⟩ := List.pairwise_cons.1 ascending
      unfold place
      split
      · rename_i before
        refine List.pairwise_cons.2 ⟨fun entry member => ?_, ascending⟩
        rcases List.mem_cons.1 member with rfl | inRest
        · exact before
        · exact Std.TransCmp.lt_trans before (below entry inRest)
      · exact List.pairwise_cons.2 ⟨below, restAscending⟩
      · rename_i after
        refine List.pairwise_cons.2 ⟨fun entry member => ?_, ih restAscending⟩
        rcases key_of_mem_place member with same | ⟨old, oldMember, same⟩
        · rw [same]
          exact Std.OrientedCmp.lt_of_gt after
        · rw [← same]
          exact below old oldMember

/-- The value bound to a key. -/
def find? (table : SortedTable κ ν) (key : κ) : Option ν :=
  lookup key table.entries

/-- Whether a key is bound. -/
def contains (table : SortedTable κ ν) (key : κ) : Bool :=
  (table.find? key).isSome

/-- The keys in ascending order. -/
def keys (table : SortedTable κ ν) : List κ :=
  table.entries.map Prod.fst

/-- The values in the order of their keys. -/
def values (table : SortedTable κ ν) : List ν :=
  table.entries.map Prod.snd

/-- The number of bindings. -/
def size (table : SortedTable κ ν) : Nat :=
  table.entries.length

/-- Whether there is no binding. -/
def isEmpty (table : SortedTable κ ν) : Bool :=
  table.entries.isEmpty

/-- Each value replaced by one computed from its key and itself. -/
def mapWithKey (f : κ → ν → ω) (table : SortedTable κ ν) : SortedTable κ ω where
  entries := table.entries.map fun entry => (entry.1, f entry.1 entry.2)
  ascending := List.pairwise_map.2 table.ascending

/-- The table without a binding for a key. -/
def erase (table : SortedTable κ ν) (key : κ) : SortedTable κ ν where
  entries := table.entries.filter fun entry => compare key entry.1 != .eq
  ascending := table.ascending.filter _

variable [Std.TransOrd κ]

/-- The table in which a key is bound to a value computed from the one it had. -/
def update (table : SortedTable κ ν) (key : κ) (change : Option ν → ν) : SortedTable κ ν where
  entries := place key change table.entries
  ascending := pairwise_place key change table.ascending

/-- The table in which a key is bound to a value, whatever it was bound to. -/
def insert (table : SortedTable κ ν) (key : κ) (value : ν) : SortedTable κ ν :=
  table.update key fun _ => value

/-- The table of a list of bindings; of two for one key the later one holds. -/
def ofList (bindings : List (κ × ν)) : SortedTable κ ν :=
  bindings.foldl (fun table binding => table.insert binding.1 binding.2) empty

end SortedTable

end CompilationChecks
