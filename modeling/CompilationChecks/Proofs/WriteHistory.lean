import CompilationChecks.Proofs.Listing
import Mathlib.Data.Finset.Card

/-!
# A container and its history

A container begins empty, and all that ever happens to it is that files are written. What it says at
any time can be read off the list of these writes: which paths it holds, what it gives for each of
them, and which paths it lists and counts.
-/

namespace CompilationChecks.Container

variable (container : Container)

/-! ## Order and number of the paths -/

theorem nodup_paths : container.paths.Nodup := by
  refine container.files.keys_in_byte_order.imp ?_
  intro left right before same
  rw [same] at before
  exact List.lt_irrefl _ before

theorem size_eq_length_paths : container.size = container.paths.length :=
  List.length_map _ |>.symm

theorem isEmpty_iff_size_eq_zero : container.isEmpty = true ↔ container.size = 0 := by
  unfold isEmpty size SortedTable.isEmpty SortedTable.size
  rw [List.isEmpty_iff, List.length_eq_zero_iff]

theorem size_eq_card
    {container : Container} {paths : List String}
    (members : ∀ path, path ∈ container.paths ↔ path ∈ paths) :
    container.size = paths.toFinset.card := by
  have sameSet : container.paths.toFinset = paths.toFinset := by
    ext path
    rw [List.mem_toFinset, List.mem_toFinset]
    exact members path
  calc
    container.size = container.paths.length := container.size_eq_length_paths
    _ = container.paths.toFinset.card := (List.toFinset_card_of_nodup container.nodup_paths).symm
    _ = paths.toFinset.card := by rw [sameSet]

/-! ## Paths under their own spelling -/

namespace Tidy

variable {container} {path : String}

theorem find?_files_eq (tidy : container.Tidy) (stored : path ∈ container.paths) :
    container.files.find? path = container.read path := by
  rw [read, tidy path stored]

theorem mem_list_iff_isBelow
    (tidy : container.Tidy) (stored : path ∈ container.paths) (directory : String)
    (recurse : Bool) :
    path ∈ container.list directory recurse ↔ Path.IsBelow directory recurse path := by
  rw [list, List.mem_filter, and_iff_right stored]
  exact isListed_iff_isBelow (tidy path stored) directory recurse

end Tidy

/-! ## After some writes -/

section Written

variable (name : String) (files : List (String × Bytes))

theorem tidy_written : ((new name).writeAll files).Tidy :=
  (tidy_new name).writeAll files

theorem contains_written_iff (path : String) :
    ((new name).writeAll files).contains path = true ↔
      ∃ file ∈ files, Path.normalize file.1 = Path.normalize path := by
  simp [contains_writeAll_iff]

theorem read_written (path : String) :
    ((new name).writeAll files).read path = lastContent? files path := by
  rw [read_writeAll, read_new, Option.or_none]

theorem mem_paths_written_iff (path : String) :
    path ∈ ((new name).writeAll files).paths ↔
      ∃ file ∈ files, Path.normalize file.1 = path := by
  rw [(tidy_written name files).mem_paths_iff_contains, contains_written_iff]
  constructor
  · rintro ⟨normal, file, member, same⟩
    exact ⟨file, member, same.trans normal⟩
  · rintro ⟨file, member, rfl⟩
    exact ⟨Path.normalize_normalize file.1, file, member, (Path.normalize_normalize file.1).symm⟩

end Written

/-- **A container is a sorted map over normal forms.** After any writes a container holds a path
exactly if one of them wrote a path with the same normal form, and it then reads the content that
the last such write gave. Its paths stand in strictly ascending order of their bytes, they are the
normal forms of the written paths, and it has as many files as there are of these. Each of its paths
is its own normal form, so under its own spelling the path is held, its content is read, and every
directory that it lies below lists it. -/
theorem written_container_is_sorted_map (name : String) (files : List (String × Bytes)) :
    let container := (new name).writeAll files
    let normalForms := files.map fun file => Path.normalize file.1
    (∀ path,
      (container.contains path = true ↔
        ∃ file ∈ files, Path.normalize file.1 = Path.normalize path) ∧
      (container.contains path = (container.read path).isSome) ∧
      ∀ content, container.read path = some content ↔
        ∃ before file after,
          files = before ++ file :: after ∧
            Path.normalize file.1 = Path.normalize path ∧ file.2 = content ∧
            ∀ later ∈ after, Path.normalize later.1 ≠ Path.normalize path) ∧
    (container.paths.Pairwise (fun left right => Utf8.encode left < Utf8.encode right) ∧
      ∀ path, path ∈ container.paths ↔ path ∈ normalForms) ∧
    (container.size = container.paths.length ∧
      container.size = normalForms.toFinset.card ∧
      (container.isEmpty = true ↔ container.size = 0)) ∧
    ∀ path ∈ container.paths,
      Path.normalize path = path ∧
        container.contains path = true ∧
        (∃ content, container.files.find? path = some content ∧
          container.read path = some content) ∧
        ∀ directory recurse,
          path ∈ container.list directory recurse ↔ Path.IsBelow directory recurse path := by
  intro container normalForms
  have tidy : container.Tidy := tidy_written name files
  have members : ∀ path, path ∈ container.paths ↔ path ∈ normalForms := by
    intro path
    rw [mem_paths_written_iff, List.mem_map]
  refine ⟨fun path => ⟨contains_written_iff name files path, ?_, fun content => ?_⟩,
    ⟨container.files.keys_in_byte_order, members⟩,
    ⟨container.size_eq_length_paths, size_eq_card members, container.isEmpty_iff_size_eq_zero⟩,
    fun path stored => ⟨tidy path stored, ?_, ?_, ?_⟩⟩
  · exact container.contains_eq_isSome_read path
  · rw [read_written, lastContent?_eq_some_iff]
  · exact (tidy.mem_paths_iff_contains.1 stored).2
  · obtain ⟨content, found⟩ := mem_paths_iff.1 stored
    exact ⟨content, found, (tidy.find?_files_eq stored).symm.trans found⟩
  · exact tidy.mem_list_iff_isBelow stored

/-- Three spellings of one path, the last of which wins, and the empty path. -/
example :
    let container := (new "c").writeAll
      [("a/B.java", [1]), ("./a//B.java", [2]), ("a\\B.java/", [3]), (".", [])]
    (container.paths, container.size, container.read "/a/./B.java", container.read "") =
      (["", "a/B.java"], 2, some [3], some []) := by
  decide

end CompilationChecks.Container
