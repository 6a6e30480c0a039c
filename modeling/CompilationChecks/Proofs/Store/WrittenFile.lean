import CompilationChecks.Proofs.Resolution
import CompilationChecks.Proofs.Store.WriteOutcome
import CompilationChecks.Proofs.Store.WriteRead

/-!
# The file of a write and the file of a look-up

A container knows a file by the normal form of its path, and a look-up names it so. A write names
the file by the path as it was resolved. The two agree in everything but the path, and in the path
exactly if it resolves to a normal form; only then does the container know the path that the write
named.
-/

namespace CompilationChecks

namespace Container

/-- A path that a container has stored a file under, and that it lists. -/
def Keeps (container : Container) (path : String) : Prop :=
  path ∈ container.paths ∧ path ∈ container.list "" true

instance (container : Container) (path : String) : Decidable (container.Keeps path) :=
  inferInstanceAs (Decidable (_ ∧ _))

theorem Tidy.keeps_iff {container : Container} (tidy : container.Tidy) {path : String} :
    container.Keeps path ↔ Path.normalize path = path ∧ container.contains path = true := by
  unfold Keeps
  rw [list_top, and_self_iff]
  exact tidy.mem_paths_iff_contains

end Container

theorem FileRef.locate_normalize_resolve
    (location : Location) (container packageName relativeName : String) :
    locate location container (Path.normalize (Path.resolve packageName relativeName)) =
      { locate location container (Path.resolve packageName relativeName) with
        path := Path.normalize (Path.resolve packageName relativeName) } := by
  simp only [locate, FileKind.ofPath_normalize_resolve]

namespace Store

variable {store : Store} {location : Location} {packageName relativeName : String}

/-- How a store answers for the file that was just written into the first root of a location: a
look-up by the same name finds the file under the normal form of its path, and the root keeps it
under that path. -/
structure Finds (store : Store) (location : Location) (packageName relativeName : String)
    (file : FileRef) (first : ContainerId) : Prop where
  root : ∃ others, store.roots? location = some (first :: others)
  container : file.container = (store.shelf.get first).name
  lookedUp : (store.getFileForInput location packageName relativeName).1 =
    .ok (some { file with path := Path.normalize file.path })
  kept : (store.shelf.get first).Keeps (Path.normalize file.path)

theorem finds_writeInto
    {first : ContainerId} {others : List ContainerId}
    (isOpen : store.closed = false) (holdsFiles : location.isModuleOriented = false)
    (roots : store.roots? location = some (first :: others)) (tidy : store.shelf.Tidy)
    (onShelf : first < store.shelf.size) (packageName relativeName : String) (content : Bytes) :
    (store.writeInto first (Path.resolve packageName relativeName) content).Finds location
      packageName relativeName
      (.locate location (store.shelf.get first).name (Path.resolve packageName relativeName))
      first := by
  generalize isPath : Path.resolve packageName relativeName = path
  have afterOpen : (store.writeInto first path content).closed = false := isOpen
  have afterRoots :
      (store.writeInto first path content).roots? location = some (first :: others) := roots
  have afterTidy : (store.writeInto first path content).shelf.Tidy :=
    tidy.write first path content
  have sameName :
      (store.shelf.get first).name = ((store.writeInto first path content).shelf.get first).name :=
    (Shelf.name_get_write store.shelf first first path content).symm
  have held :
      ((store.writeInto first path content).shelf.get first).read path = some content :=
    Shelf.read_get_write_self store.shelf path content onShelf
  rw [sameName]
  generalize store.writeInto first path content = after at *
  have contained : (after.shelf.get first).contains (Path.normalize path) = true := by
    rw [Container.contains_normalize, Container.contains_eq_isSome_read, held]
    rfl
  subst isPath
  refine ⟨⟨others, afterRoots⟩, rfl, ?_, ?_⟩
  · have found := getFileForInput_of_first afterOpen holdsFiles afterRoots held
    rw [FileRef.locate_normalize_resolve] at found
    exact found
  · exact (afterTidy first).keeps_iff.2 ⟨Path.normalize_normalize _, contained⟩

namespace Finds

variable {file : FileRef} {first : ContainerId}

theorem lookedUp_eq_iff (finds : store.Finds location packageName relativeName file first) :
    (store.getFileForInput location packageName relativeName).1 = .ok (some file) ↔
      Path.normalize file.path = file.path := by
  rw [finds.lookedUp]
  constructor
  · intro same
    have sameFile : { file with path := Path.normalize file.path } = file :=
      Option.some.inj (Except.ok.inj same)
    exact congrArg FileRef.path sameFile
  · intro normal
    rw [normal]

theorem keeps_iff
    (finds : store.Finds location packageName relativeName file first)
    (tidy : store.shelf.Tidy) :
    (store.shelf.get first).Keeps file.path ↔ Path.normalize file.path = file.path := by
  constructor
  · intro keeps
    exact ((tidy first).keeps_iff.1 keeps).1
  · intro normal
    have kept := finds.kept
    rw [normal] at kept
    exact kept

end Finds

/-- **A look-up finds the written file under its normal form.** On a reachable open store a write to
an output location succeeds. A look-up by the same name then finds the file that the write named,
with the normal form of its path, which the container keeps. So the look-up gives the very same
file, and the container keeps the path that the write named, exactly if the name resolves to a
normal form; and it does so for every package name without separators and every name that says
something. -/
theorem written_file_is_found_under_normal_form
    (reachable : store.Reachable) (isOpen : store.closed = false)
    (output : location.isOutput = true) (packageName relativeName : String) (content : Bytes) :
    ∃ file after first,
      store.writeFile location packageName relativeName content = (.ok file, after) ∧
        after.Finds location packageName relativeName file first ∧
        ((after.getFileForInput location packageName relativeName).1 = .ok (some file) ↔
          Path.ResolvesNormally packageName relativeName) ∧
        ((after.shelf.get first).Keeps file.path ↔
          Path.ResolvesNormally packageName relativeName) ∧
        ((∀ c ∈ packageName.toList, Path.isSeparator c = false) →
          Path.normalize relativeName ≠ "" →
            (after.getFileForInput location packageName relativeName).1 = .ok (some file) ∧
              (after.shelf.get first).Keeps file.path) := by
  have holdsFiles := Location.isModuleOriented_of_isOutput output
  obtain ⟨first, others, roots, written⟩ :=
    writeFile_eq isOpen output packageName relativeName content
  have readyOpen : (store.ensureRoots location).closed = false := by
    rw [closed_ensureRoots]
    exact isOpen
  have readyTidy : (store.ensureRoots location).shelf.Tidy :=
    tidy_ensureRoots store location reachable.tidy
  have onShelf : first < (store.ensureRoots location).shelf.size :=
    (reachable.sound.ensureRoots holdsFiles).onShelf location _ roots first List.mem_cons_self
  have finds := finds_writeInto readyOpen holdsFiles roots readyTidy onShelf packageName
    relativeName content
  have tidy := readyTidy.write first (Path.resolve packageName relativeName) content
  have found := finds.lookedUp_eq_iff.trans
    (Path.normalize_resolve_eq_iff packageName relativeName)
  have kept := (finds.keeps_iff tidy).trans
    (Path.normalize_resolve_eq_iff packageName relativeName)
  refine ⟨_, _, first, written, finds, found, kept, ?_⟩
  intro plain named
  have normally := Path.resolvesNormally_of_plain plain named
  exact ⟨found.2 normally, kept.2 normally⟩

theorem written_file_is_found_under_normal_form_mixedRoots :
    mixedRoots.Reachable ∧ mixedRoots.closed = false ∧
      (Location.module .classOutput "m").isOutput = true ∧
      ∃ file after first,
        mixedRoots.writeFile (.module .classOutput "m") "p.q" "B.class" [2] = (.ok file, after) ∧
          (after.getFileForInput (.module .classOutput "m") "p.q" "B.class").1 =
            .ok (some file) ∧
          (after.shelf.get first).Keeps file.path := by
  have output : (Location.module .classOutput "m").isOutput = true := rfl
  obtain ⟨file, after, first, written, _, _, _, ordinary⟩ :=
    written_file_is_found_under_normal_form mixedRoots_reachable rfl output "p.q" "B.class" [2]
  have plain : ∀ c ∈ "p.q".toList, Path.isSeparator c = false := by
    simp [Path.isSeparator]
  obtain ⟨found, kept⟩ := ordinary plain (by decide)
  exact ⟨mixedRoots_reachable, rfl, output, file, after, first, written, found, kept⟩

/-! ## A package whose name begins with a slash -/

/-- A write into a package whose name begins with a slash. -/
def slashedWrite : Step FileRef :=
  (Store.new "17").writeFile (.standard .classOutput) "/com/example" "Foo.class" [120]

/-- The write names the file by a path with a leading slash, which the container does not keep; the
look-up by the same name finds the file without it. -/
theorem slashed_package_is_looked_up_elsewhere :
    (Store.new "17").Reachable ∧ (Store.new "17").closed = false ∧
      (Location.standard .classOutput).isOutput = true ∧
      ∃ file found,
        slashedWrite.1 = .ok file ∧
          (slashedWrite.2.getFileForInput (.standard .classOutput) "/com/example"
            "Foo.class").1 = .ok (some found) ∧
          file.path = "/com/example/Foo.class" ∧ found.path = "com/example/Foo.class" ∧
          slashedWrite.2.roots? (.standard .classOutput) = some [0] ∧
          ¬ (slashedWrite.2.shelf.get 0).Keeps file.path :=
  ⟨Reachable.new "17", rfl, rfl,
    .locate (.standard .classOutput) "CLASS_OUTPUT" "/com/example/Foo.class",
    .locate (.standard .classOutput) "CLASS_OUTPUT" "com/example/Foo.class",
    rfl, rfl, rfl, rfl, by decide, by decide⟩

end Store

end CompilationChecks
