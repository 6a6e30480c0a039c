import CompilationChecks.Check.Chain
import CompilationChecks.Proofs.Checks

/-!
# Assertions about files agree with each other

Whether a location holds a file can be asserted, denied, and asserted of several files at once. For
a known location a file is either there or not, whatever the spelling of its path, and several files
are there if each of them is. For an unknown location only the denial passes.
-/

namespace CompilationChecks

/-! ## Verdicts that lead to a subject -/

namespace Verdict

variable {α β : Type} {f : α → β} {verdict : Verdict α}

theorem isOk_map : (verdict.map f).isOk = verdict.isOk := by
  cases verdict <;> rfl

theorem map_ok_iff {next : β} :
    verdict.map f = .ok next ↔ ∃ value, verdict = .ok value ∧ f value = next := by
  cases verdict with
  | error complaint => simp [Except.map]
  | ok value => simp [Except.map]

theorem map_error_iff {raised : Complaint} :
    verdict.map f = .error raised ↔ verdict = .error raised := by
  cases verdict with
  | error complaint => simp [Except.map]
  | ok value => simp [Except.map]

end Verdict

theorem Complaint.message_filesMissing
    (location : Location) (paths : List String) (present : List String) :
    (filesMissing location paths present).message =
      "Expected all files to exist in " ++ location.name ++ ", but these did not: " ++
        String.intercalate ", " paths ++ "." ++ "\n\n" ++ presentText present := by
  have pair : ∀ first second, paragraphs [first, second] = first ++ "\n\n" ++ second := by
    intro first second
    rw [paragraphs, String.intercalate_cons_cons, String.intercalate_singleton]
  exact pair _ _

namespace Check

/-! ## Verdicts on files -/

namespace Lookup

variable {lookup : Lookup PackageGroup} {shelf : Shelf} {group : PackageGroup}

theorem fileExists_isOk (known : lookup.group = some group) (path : String) :
    (lookup.fileExists shelf path).isOk = group.contains shelf path := by
  unfold fileExists require
  rw [known, PackageGroup.contains_eq_isSome_read]
  simp only [bind, Except.bind, PackageGroup.read_normalize]
  cases group.read shelf path <;> rfl

theorem fileDoesNotExist_isOk (known : lookup.group = some group) (path : String) :
    (lookup.fileDoesNotExist shelf path).isOk = !group.contains shelf path := by
  unfold fileDoesNotExist Verdict.require
  rw [known, Option.any_some, PackageGroup.contains_normalize]
  cases group.contains shelf path <;> rfl

theorem allFilesExist_isOk_iff (known : lookup.group = some group) {paths : List String} :
    (lookup.allFilesExist shelf paths).isOk = true ↔
      ∀ path ∈ paths, group.contains shelf path = true := by
  have passes_iff : (lookup.allFilesExist shelf paths).isOk = true ↔
      lookup.allFilesExist shelf paths = .ok () := by
    cases lookup.allFilesExist shelf paths with
    | error complaint => simp [Except.isOk, Except.toBool]
    | ok passed => simp [Except.isOk, Except.toBool]
  rw [passes_iff, allFilesExist_ok_iff, known]
  simp

/-- A file that is found has the content that the group reads. -/
theorem read_of_fileExists
    (known : lookup.group = some group) {path : String} {file : FoundFile}
    (found : lookup.fileExists shelf path = .ok file) :
    ∃ content, group.read shelf path = some content ∧
      file = ⟨lookup.location, Path.normalize path, content⟩ := by
  unfold fileExists require at found
  rw [known] at found
  simp only [bind, Except.bind, PackageGroup.read_normalize] at found
  cases held : group.read shelf path with
  | none => simp [held] at found
  | some content =>
      simp only [held, Except.ok.injEq] at found
      exact ⟨content, rfl, found.symm⟩

/-- The complaint about several files is about the paths that the group does not hold. -/
theorem allFilesExist_error
    (known : lookup.group = some group) {paths : List String} {complaint : Complaint}
    (raised : lookup.allFilesExist shelf paths = .error complaint) :
    complaint =
      .filesMissing lookup.location
        ((paths.filter fun path => !group.contains shelf path).map Path.normalize)
        (present group shelf) := by
  unfold allFilesExist require at raised
  rw [known] at raised
  obtain ⟨_, rfl⟩ := Verdict.require_error_iff.1 raised
  simp [List.filter_map, Function.comp_def]

end Lookup

/-! ## Locations that hold files -/

/-- What assertions about files are made of: a location that holds files, or an output location. -/
inductive FileHolder where
  | package (lookup : Lookup PackageGroup)
  | output (lookup : Lookup OutputGroup)
  deriving Repr

namespace FileHolder

/-- The subject of the assertions. -/
def subject : FileHolder → Subject
  | .package lookup => .package lookup
  | .output lookup => .output lookup

/-- The roots that count, if the location is known. Those of the modules of an output location do
not. -/
def roots : FileHolder → Lookup PackageGroup
  | .package lookup => lookup
  | .output lookup => ⟨lookup.location, lookup.group.map OutputGroup.package⟩

/-- What becomes of an assertion. -/
def verdict {σ : Type} (holder : FileHolder) (manager : Manager σ) (shelf : σ → Shelf)
    (compilation : Compilation) (world : World σ) (assertion : Assertion) : Verdict Subject :=
  (assertion.apply manager shelf compilation holder.subject world).1

section Verdicts

variable {σ : Type} (holder : FileHolder) (manager : Manager σ) (shelf : σ → Shelf)
  (compilation : Compilation) (world : World σ)

theorem verdict_isConfigured :
    holder.verdict manager shelf compilation world .isConfigured =
      holder.roots.isConfigured.map fun _ => holder.subject := by
  cases holder with
  | package lookup => rfl
  | output lookup =>
      obtain ⟨location, group⟩ := lookup
      cases group <;> rfl

theorem verdict_isNotConfigured :
    holder.verdict manager shelf compilation world .isNotConfigured =
      holder.roots.isNotConfigured.map fun _ => holder.subject := by
  cases holder with
  | package lookup => rfl
  | output lookup =>
      obtain ⟨location, group⟩ := lookup
      cases group <;> rfl

theorem verdict_fileExists (path : String) :
    holder.verdict manager shelf compilation world (.fileExists path) =
      (holder.roots.fileExists (shelf world.inner) path).map .file := by
  cases holder <;> rfl

theorem verdict_fileDoesNotExist (path : String) :
    holder.verdict manager shelf compilation world (.fileDoesNotExist path) =
      (holder.roots.fileDoesNotExist (shelf world.inner) path).map fun _ => holder.subject := by
  cases holder <;> rfl

theorem verdict_allFilesExist (paths : List String) :
    holder.verdict manager shelf compilation world (.allFilesExist paths) =
      (holder.roots.allFilesExist (shelf world.inner) paths).map fun _ => holder.subject := by
  cases holder <;> rfl

section Known

variable {holder manager shelf compilation world}
  {group : PackageGroup} (known : holder.roots.group = some group)
include known

theorem isOk_fileExists (path : String) :
    (holder.verdict manager shelf compilation world (.fileExists path)).isOk =
      group.contains (shelf world.inner) path := by
  rw [verdict_fileExists, Verdict.isOk_map, Lookup.fileExists_isOk known]

theorem isOk_fileDoesNotExist (path : String) :
    (holder.verdict manager shelf compilation world (.fileDoesNotExist path)).isOk =
      !group.contains (shelf world.inner) path := by
  rw [verdict_fileDoesNotExist, Verdict.isOk_map, Lookup.fileDoesNotExist_isOk known]

theorem isOk_allFilesExist_iff (paths : List String) :
    (holder.verdict manager shelf compilation world (.allFilesExist paths)).isOk = true ↔
      ∀ path ∈ paths, group.contains (shelf world.inner) path = true := by
  rw [verdict_allFilesExist, Verdict.isOk_map, Lookup.allFilesExist_isOk_iff known]

/-- An assertion that passes goes on with the file in the first container that holds it. -/
theorem exists_first_of_fileExists
    {path : String} {next : Subject}
    (passed : holder.verdict manager shelf compilation world (.fileExists path) = .ok next) :
    ∃ before container after content,
      group.containers (shelf world.inner) = before ++ container :: after ∧
        (∀ other ∈ before, other.contains path = false) ∧
        container.read path = some content ∧
        next = .file ⟨holder.roots.location, Path.normalize path, content⟩ := by
  rw [verdict_fileExists] at passed
  obtain ⟨file, found, rfl⟩ := Verdict.map_ok_iff.1 passed
  obtain ⟨content, held, rfl⟩ := Lookup.read_of_fileExists known found
  obtain ⟨before, container, after, shape, stored, unread⟩ :=
    PackageGroup.read_eq_some_iff.1 held
  refine ⟨before, container, after, content, shape, ?_, stored, rfl⟩
  intro other member
  rw [Container.contains_eq_isSome_read, unread other member]
  rfl

end Known

end Verdicts

/-- **Assertions about files agree.** Let assertions be made of a location that holds files, or of
an output location, where the roots of the location itself count and those of its modules do not.
If the location is known, a file exists or does not exist, one of the two, and the spelling of its
path makes no difference; an assertion that it exists goes on with what the first container that
holds it has for it. Several files exist if each of them does; otherwise the complaint names, in
their normal forms, in order and as often as they are asked for, those that do not. If the location
is not known, the assertions that it is not and that a file does not exist pass, and all others are
answered with the complaint that it is not known. -/
theorem file_assertions_agree
    {σ : Type} (holder : FileHolder) (manager : Manager σ) (shelf : σ → Shelf)
    (compilation : Compilation) (world : World σ) :
    let made := holder.verdict manager shelf compilation world
    let location := holder.roots.location
    (∀ group, holder.roots.group = some group →
      (∀ path, (made (.fileExists path)).isOk = !(made (.fileDoesNotExist path)).isOk) ∧
      (∀ path other, Path.normalize path = Path.normalize other →
        made (.fileExists path) = made (.fileExists other) ∧
          made (.fileDoesNotExist path) = made (.fileDoesNotExist other)) ∧
      (∀ path next, made (.fileExists path) = .ok next →
        ∃ before container after content,
          group.containers (shelf world.inner) = before ++ container :: after ∧
            (∀ other ∈ before, other.contains path = false) ∧
            container.read path = some content ∧
            next = .file ⟨location, Path.normalize path, content⟩) ∧
      ∀ paths,
        ((made (.allFilesExist paths)).isOk = true ↔
          ∀ path ∈ paths, (made (.fileExists path)).isOk = true) ∧
        ∀ complaint, made (.allFilesExist paths) = .error complaint →
          let missing :=
            (paths.filter fun path => !(made (.fileExists path)).isOk).map Path.normalize
          complaint =
              .filesMissing location missing (Lookup.present group (shelf world.inner)) ∧
            complaint.message =
              "Expected all files to exist in " ++ location.name ++ ", but these did not: " ++
                String.intercalate ", " missing ++ "." ++ "\n\n" ++
                  Complaint.presentText (Lookup.present group (shelf world.inner))) ∧
    (holder.roots.group = none →
      made .isNotConfigured = .ok holder.subject ∧
      (∀ path, made (.fileDoesNotExist path) = .ok holder.subject) ∧
      made .isConfigured = .error (.notConfigured location) ∧
      (∀ path, made (.fileExists path) = .error (.notConfigured location)) ∧
      (∀ paths, made (.allFilesExist paths) = .error (.notConfigured location)) ∧
      (Complaint.notConfigured location).message =
        "Expected location " ++ location.name ++ " to be configured, but it was not.") := by
  intro made location
  constructor
  · intro group known
    refine ⟨?_, ?_, fun path next => exists_first_of_fileExists known, ?_⟩
    · intro path
      rw [isOk_fileExists known, isOk_fileDoesNotExist known, Bool.not_not]
    · intro path other same
      simp only [made, verdict_fileExists, verdict_fileDoesNotExist, Lookup.fileExists,
        Lookup.fileDoesNotExist, same, and_self]
    · intro paths
      have passes_eq : ∀ path, (made (.fileExists path)).isOk =
          group.contains (shelf world.inner) path :=
        isOk_fileExists known
      simp only [passes_eq]
      refine ⟨isOk_allFilesExist_iff known paths, ?_⟩
      intro complaint raised
      simp only [made, verdict_allFilesExist] at raised
      rw [Lookup.allFilesExist_error known (Verdict.map_error_iff.1 raised)]
      exact ⟨rfl, Complaint.message_filesMissing _ _ _⟩
  · intro unknown
    refine ⟨?_, fun path => ?_, ?_, fun path => ?_, fun paths => ?_, rfl⟩
    · simp only [made, verdict_isNotConfigured, Lookup.isNotConfigured, unknown]
      rfl
    · simp only [made, verdict_fileDoesNotExist, Lookup.fileDoesNotExist, unknown]
      rfl
    · simp only [made, verdict_isConfigured, Lookup.isConfigured, Lookup.require, unknown]
      rfl
    · simp only [made, verdict_fileExists, Lookup.fileExists, Lookup.require, unknown]
      rfl
    · simp only [made, verdict_allFilesExist, Lookup.allFilesExist, Lookup.require, unknown]
      rfl

end FileHolder

end Check

end CompilationChecks
