import CompilationChecks.SortedTable

/-!
# Looking things up in sorted tables

Each operation on a sorted table is described by what `find?` gives afterwards: for the key that
the operation is about, and for every other key. The entries of a table are exactly what can be
looked up, so whatever is said about look-ups is said about the whole table.
-/

namespace CompilationChecks.SortedTable

universe u v w

variable {κ : Type u} {ν : Type v} {ω : Type w} [Ord κ]

/-! ## Ascending lists -/

theorem lookup_eq_none
    {key : κ} {entries : List (κ × ν)}
    (absent : ∀ entry ∈ entries, compare key entry.1 ≠ .eq) :
    lookup key entries = none := by
  induction entries with
  | nil => rfl
  | cons first rest inductionHypothesis =>
      have different : compare key first.1 ≠ .eq :=
        absent first List.mem_cons_self
      have restNone : lookup key rest = none :=
        inductionHypothesis fun entry member =>
          absent entry (List.mem_cons_of_mem first member)
      unfold lookup
      split
      · contradiction
      · exact restNone

theorem lookup_cons_self
    [Std.ReflOrd κ] (key : κ) (value : ν) (rest : List (κ × ν)) :
    lookup key ((key, value) :: rest) = some value := by
  simp [lookup, Std.ReflCmp.compare_self]

theorem lookup_cons_of_ne
    [Std.LawfulEqOrd κ] {key other : κ} (value : ν) (rest : List (κ × ν))
    (different : key ≠ other) :
    lookup key ((other, value) :: rest) = lookup key rest := by
  have unequal : compare key other ≠ .eq := fun same =>
    different (Std.LawfulEqOrd.eq_of_compare same)
  rw [lookup]
  split
  · contradiction
  · rfl

theorem mem_of_lookup
    [Std.LawfulEqOrd κ] {key : κ} {value : ν} {entries : List (κ × ν)}
    (found : lookup key entries = some value) :
    (key, value) ∈ entries := by
  induction entries with
  | nil => cases found
  | cons first rest inductionHypothesis =>
      unfold lookup at found
      split at found
      · rename_i same
        have sameKey : key = first.1 :=
          Std.LawfulEqOrd.eq_of_compare same
        have sameValue : first.2 = value :=
          Option.some.inj found
        rw [sameKey, ← sameValue]
        exact List.mem_cons_self
      · exact List.mem_cons_of_mem first (inductionHypothesis found)

/-- Whatever stands in an ascending list can be looked up. -/
theorem lookup_of_mem
    [Std.LawfulEqOrd κ]
    {key : κ} {value : ν} {entries : List (κ × ν)}
    (ascending : entries.Pairwise fun left right => compare left.1 right.1 = .lt)
    (member : (key, value) ∈ entries) :
    lookup key entries = some value := by
  induction entries with
  | nil => cases member
  | cons first rest inductionHypothesis =>
      have ⟨below, restAscending⟩ := List.pairwise_cons.1 ascending
      rcases List.mem_cons.1 member with rfl | inRest
      · exact lookup_cons_self key value rest
      · have different : key ≠ first.1 := by
          intro same
          have before : compare first.1 key = .lt := below (key, value) inRest
          have self : compare first.1 first.1 = .eq := Std.ReflCmp.compare_self
          rw [same, self] at before
          cases before
        exact (lookup_cons_of_ne first.2 rest different).trans
          (inductionHypothesis restAscending inRest)

/-- The key that is placed is bound to the value computed from the one it had. -/
theorem lookup_place_self
    [Std.TransOrd κ] [Std.LawfulEqOrd κ]
    (key : κ) (change : Option ν → ν) {entries : List (κ × ν)}
    (ascending : entries.Pairwise fun left right => compare left.1 right.1 = .lt) :
    lookup key (place key change entries) = some (change (lookup key entries)) := by
  induction entries with
  | nil => exact lookup_cons_self key (change none) []
  | cons first rest inductionHypothesis =>
      have ⟨below, restAscending⟩ := List.pairwise_cons.1 ascending
      cases order : compare key first.1 with
      | lt =>
          -- The key is smaller than all others, so it had no value before.
          have unbound : lookup key (first :: rest) = none := by
            apply lookup_eq_none
            intro entry member same
            have sameKey : key = entry.1 :=
              Std.LawfulEqOrd.eq_of_compare same
            rcases List.mem_cons.1 member with rfl | inRest
            · rw [same] at order
              cases order
            · have before : compare key entry.1 = .lt :=
                Std.TransCmp.lt_trans order (below entry inRest)
              rw [same] at before
              cases before
          rw [unbound]
          simp only [place, order]
          exact lookup_cons_self key (change none) (first :: rest)
      | eq =>
          simp [place, lookup, order]
      | gt =>
          simp only [place, lookup, order]
          exact inductionHypothesis restAscending

theorem lookup_place_of_ne
    [Std.LawfulEqOrd κ]
    {key other : κ} (change : Option ν → ν) (entries : List (κ × ν))
    (different : other ≠ key) :
    lookup other (place key change entries) = lookup other entries := by
  induction entries with
  | nil => exact lookup_cons_of_ne (change none) [] different
  | cons first rest inductionHypothesis =>
      cases order : compare key first.1 with
      | lt =>
          simp only [place, order]
          exact lookup_cons_of_ne (change none) (first :: rest) different
      | eq =>
          have otherNeFirst : other ≠ first.1 := by
            rw [← Std.LawfulEqOrd.eq_of_compare order]
            exact different
          simp only [place, order]
          exact (lookup_cons_of_ne (change (some first.2)) rest otherNeFirst).trans
            (lookup_cons_of_ne first.2 rest otherNeFirst).symm
      | gt =>
          simp only [place, order, lookup]
          rw [inductionHypothesis]

theorem lookup_filter_self
    [Std.LawfulEqOrd κ] (key : κ) (entries : List (κ × ν)) :
    lookup key (entries.filter fun entry => compare key entry.1 != .eq) = none := by
  apply lookup_eq_none
  intro entry member
  have kept := (List.mem_filter.1 member).2
  simpa using kept

theorem lookup_filter_of_ne
    [Std.LawfulEqOrd κ] {key other : κ} (entries : List (κ × ν))
    (different : other ≠ key) :
    lookup other (entries.filter fun entry => compare key entry.1 != .eq) =
      lookup other entries := by
  induction entries with
  | nil => rfl
  | cons first rest inductionHypothesis =>
      by_cases same : compare key first.1 = .eq
      · have otherNeFirst : other ≠ first.1 := by
          rw [← Std.LawfulEqOrd.eq_of_compare same]
          exact different
        rw [List.filter_cons_of_neg (by simp [same]), inductionHypothesis]
        exact (lookup_cons_of_ne first.2 rest otherNeFirst).symm
      · rw [List.filter_cons_of_pos (by simp [same])]
        unfold lookup
        rw [inductionHypothesis]

theorem lookup_map
    [Std.LawfulEqOrd κ] (f : κ → ν → ω) (key : κ) (entries : List (κ × ν)) :
    lookup key (entries.map fun entry => (entry.1, f entry.1 entry.2)) =
      (lookup key entries).map (f key) := by
  induction entries with
  | nil => rfl
  | cons first rest inductionHypothesis =>
      simp only [List.map_cons, lookup]
      split
      · rename_i same
        rw [Std.LawfulEqOrd.eq_of_compare same]
        rfl
      · exact inductionHypothesis

/-- A key above all others is placed behind them. -/
theorem place_of_above
    [Std.TransOrd κ] {key : κ} (change : Option ν → ν) {entries : List (κ × ν)}
    (above : ∀ entry ∈ entries, compare entry.1 key = .lt) :
    place key change entries = entries ++ [(key, change none)] := by
  induction entries with
  | nil => rfl
  | cons first rest inductionHypothesis =>
      have after : compare key first.1 = .gt :=
        Std.OrientedCmp.gt_of_lt (above first List.mem_cons_self)
      have restPlaced := inductionHypothesis fun entry member =>
        above entry (List.mem_cons_of_mem first member)
      simp only [place, after, restPlaced, List.cons_append]

/-! ## Tables -/

theorem eq_of_entries {left right : SortedTable κ ν} (same : left.entries = right.entries) :
    left = right := by
  cases left
  cases right
  cases same
  rfl

theorem entries_eq_nil_iff {table : SortedTable κ ν} : table.entries = [] ↔ table = empty := by
  constructor
  · intro nothing
    exact eq_of_entries nothing
  · rintro rfl
    rfl

theorem entries_foldl_insert
    [Std.TransOrd κ] (bindings : List (κ × ν)) (table : SortedTable κ ν)
    (ascending : (table.entries ++ bindings).Pairwise
      fun left right => compare left.1 right.1 = .lt) :
    (bindings.foldl (fun grown binding => grown.insert binding.1 binding.2) table).entries =
      table.entries ++ bindings := by
  induction bindings generalizing table with
  | nil => exact (List.append_nil table.entries).symm
  | cons first rest inductionHypothesis =>
      have above : ∀ entry ∈ table.entries, compare entry.1 first.1 = .lt := fun entry member =>
        (List.pairwise_append.1 ascending).2.2 entry member first List.mem_cons_self
      have placed : (table.insert first.1 first.2).entries = table.entries ++ [first] :=
        place_of_above _ above
      have sameList : (table.insert first.1 first.2).entries ++ rest =
          table.entries ++ first :: rest := by
        rw [placed, List.append_assoc, List.singleton_append]
      rw [List.foldl_cons, inductionHypothesis _ (sameList ▸ ascending), sameList]

/-- A table is made again from its own entries. -/
theorem ofList_entries [Std.TransOrd κ] (table : SortedTable κ ν) :
    ofList table.entries = table :=
  eq_of_entries (entries_foldl_insert table.entries empty table.ascending)

section Lawful

variable [Std.LawfulEqOrd κ]

/-- The entries of a table are what can be looked up in it. -/
theorem mem_entries_iff {table : SortedTable κ ν} {key : κ} {value : ν} :
    (key, value) ∈ table.entries ↔ table.find? key = some value :=
  ⟨lookup_of_mem table.ascending, mem_of_lookup⟩

/-- The keys of a table are those that are bound to something. -/
theorem mem_keys_iff {table : SortedTable κ ν} {key : κ} :
    key ∈ table.keys ↔ ∃ value, table.find? key = some value := by
  simp only [keys, List.mem_map, Prod.exists, mem_entries_iff]
  constructor
  · rintro ⟨_, value, found, rfl⟩
    exact ⟨value, found⟩
  · rintro ⟨value, found⟩
    exact ⟨key, value, found, rfl⟩

@[simp]
theorem find?_mapWithKey (f : κ → ν → ω) (table : SortedTable κ ν) (key : κ) :
    (table.mapWithKey f).find? key = (table.find? key).map (f key) :=
  lookup_map f key table.entries

@[simp]
theorem find?_erase_self (table : SortedTable κ ν) (key : κ) :
    (table.erase key).find? key = none :=
  lookup_filter_self key table.entries

theorem find?_erase_of_ne
    (table : SortedTable κ ν) {key other : κ} (different : other ≠ key) :
    (table.erase key).find? other = table.find? other :=
  lookup_filter_of_ne table.entries different

variable [Std.TransOrd κ]

@[simp]
theorem find?_update_self (table : SortedTable κ ν) (key : κ) (change : Option ν → ν) :
    (table.update key change).find? key = some (change (table.find? key)) :=
  lookup_place_self key change table.ascending

theorem find?_update_of_ne
    (table : SortedTable κ ν) {key other : κ} (change : Option ν → ν)
    (different : other ≠ key) :
    (table.update key change).find? other = table.find? other :=
  lookup_place_of_ne change table.entries different

@[simp]
theorem find?_insert_self (table : SortedTable κ ν) (key : κ) (value : ν) :
    (table.insert key value).find? key = some value :=
  find?_update_self table key _

theorem find?_insert_of_ne
    (table : SortedTable κ ν) {key other : κ} (value : ν) (different : other ≠ key) :
    (table.insert key value).find? other = table.find? other :=
  find?_update_of_ne table _ different

end Lawful

end CompilationChecks.SortedTable
