import CompilationChecks.Proofs.Tables
import Mathlib.Data.List.Sort

/-!
# Equal tables

A table is determined by what can be looked up in it. So changes of a table can be compared key by
key: two changes for different keys may be made in either order, and so may two for one key if they
do not disturb each other.
-/

namespace CompilationChecks.SortedTable

universe u v w x

variable {κ : Type u} {ν : Type v} {ω : Type w} {ξ : Type x} [Ord κ]

theorem mapWithKey_mapWithKey
    (f : κ → ν → ω) (g : κ → ω → ξ) (table : SortedTable κ ν) :
    (table.mapWithKey f).mapWithKey g = table.mapWithKey fun key value => g key (f key value) :=
  eq_of_entries (List.map_map ..)

theorem mapWithKey_self (table : SortedTable κ ν) :
    table.mapWithKey (fun _ value => value) = table :=
  eq_of_entries (List.map_id' table.entries)

variable [Std.LawfulEqOrd κ] [Std.TransOrd κ]

/-- Tables in which every key finds the same are equal. -/
theorem ext_find?
    {left right : SortedTable κ ν} (same : ∀ key, left.find? key = right.find? key) :
    left = right := by
  apply eq_of_entries
  have irreflexive : Std.Irrefl fun first second : κ × ν => compare first.1 second.1 = .lt :=
    ⟨fun _ before => Std.OrientedCmp.not_lt_of_lt before before⟩
  have antisymmetric :
      Std.Antisymm fun first second : κ × ν => compare first.1 second.1 = .lt :=
    ⟨fun _ _ before behind => absurd behind (Std.OrientedCmp.not_lt_of_lt before)⟩
  refine List.Pairwise.eq_of_mem_iff left.ascending right.ascending ?_
  rintro ⟨key, value⟩
  rw [mem_entries_iff, mem_entries_iff, same]

/-- A change only sees what the key finds. -/
theorem update_congr
    {table : SortedTable κ ν} {key : κ} {change otherChange : Option ν → ν}
    (same : change (table.find? key) = otherChange (table.find? key)) :
    table.update key change = table.update key otherChange := by
  apply ext_find?
  intro asked
  by_cases isKey : asked = key
  · subst isKey
    rw [find?_update_self, find?_update_self, same]
  · rw [find?_update_of_ne _ _ isKey, find?_update_of_ne _ _ isKey]

theorem update_eq_self
    {table : SortedTable κ ν} {key : κ} {value : ν} {change : Option ν → ν}
    (found : table.find? key = some value) (keeps : change (some value) = value) :
    table.update key change = table := by
  apply ext_find?
  intro other
  by_cases same : other = key
  · subst same
    rw [find?_update_self, found, keeps]
  · exact find?_update_of_ne table change same

/-- Two changes can be made in either order if they concern two keys, or do not disturb each
other. -/
theorem update_comm_of
    (table : SortedTable κ ν) {key other : κ} {change otherChange : Option ν → ν}
    (undisturbed : key = other →
      ∀ old, change (some (otherChange old)) = otherChange (some (change old))) :
    (table.update other otherChange).update key change =
      (table.update key change).update other otherChange := by
  apply ext_find?
  intro asked
  by_cases isKey : asked = key
  · subst isKey
    by_cases isOther : asked = other
    · subst isOther
      simp only [find?_update_self, undisturbed rfl]
    · rw [find?_update_self, find?_update_of_ne _ _ isOther, find?_update_of_ne _ _ isOther,
        find?_update_self]
  · rw [find?_update_of_ne _ _ isKey]
    by_cases isOther : asked = other
    · subst isOther
      rw [find?_update_self, find?_update_self, find?_update_of_ne _ _ isKey]
    · rw [find?_update_of_ne _ _ isOther, find?_update_of_ne _ _ isOther,
        find?_update_of_ne _ _ isKey]

theorem mapWithKey_update
    (f : ν → ω) (table : SortedTable κ ν) (key : κ) {change : Option ν → ν}
    {mappedChange : Option ω → ω}
    (same : ∀ old, f (change old) = mappedChange (old.map f)) :
    (table.update key change).mapWithKey (fun _ => f) =
      (table.mapWithKey fun _ => f).update key mappedChange := by
  apply ext_find?
  intro asked
  by_cases isKey : asked = key
  · subst isKey
    simp only [find?_mapWithKey, find?_update_self, Option.map_some, same]
  · rw [find?_mapWithKey, find?_update_of_ne _ _ isKey, find?_update_of_ne _ _ isKey,
      find?_mapWithKey]

end CompilationChecks.SortedTable
