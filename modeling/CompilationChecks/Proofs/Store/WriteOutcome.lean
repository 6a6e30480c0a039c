import CompilationChecks.Proofs.Store.Reachable

/-!
# What the tables hold, and how writes end

An operation may make an empty list of roots on its way, but it never leaves one behind, and it
never gives roots to a standard location that holds modules. So whatever happened to a manager
before, a write ends with a file if the manager is open and the location is an output; otherwise it
is refused for the first of the two that is missing, and for nothing else.
-/

namespace CompilationChecks.Store

variable {store : Store}

/-! ## The tables -/

/-- What the two tables of a store hold. That their keys are standard locations is in their type. -/
structure WellTabled (store : Store) : Prop where
  packages : ∀ entry ∈ store.packages.entries, entry.1.isModuleOriented = false ∧ entry.2 ≠ []
  modules : ∀ entry ∈ store.modules.entries, ∀ module ∈ entry.2.entries, module.2 ≠ []

/-- Every entry of a table is the roots of some location, so what holds of roots holds of it. -/
theorem Sound.wellTabled (sound : store.Sound) : store.WellTabled := by
  constructor
  · rintro ⟨root, roots⟩ member
    have known : store.roots? (.standard root) = some roots :=
      SortedTable.mem_entries_iff.1 member
    exact ⟨sound.holdsFiles _ roots known, sound.nonempty _ roots known⟩
  · rintro ⟨parent, modules⟩ parentMember ⟨moduleName, roots⟩ member
    have parentKnown : store.modules.find? parent = some modules :=
      SortedTable.mem_entries_iff.1 parentMember
    have moduleKnown : modules.find? moduleName = some roots :=
      SortedTable.mem_entries_iff.1 member
    have known : store.roots? (.module parent moduleName) = some roots := by
      simp [roots?, parentKnown, moduleKnown]
    exact sound.nonempty _ roots known

/-! ## The outcome of a write -/

@[simp]
theorem refuse_eq_error_iff {α : Type} {fault : Fault} {failure : Failure} :
    (store.refuse fault : Step α).1 = .error failure ↔ failure = .of fault := by
  constructor
  · intro failed
    exact (Except.error.inj failed).symm
  · intro same
    rw [same]
    rfl

section Outcome

variable {location : Location} (packageName relativeName : String) (content : Bytes)

theorem writeFile_of_closed (isClosed : store.closed = true) :
    store.writeFile location packageName relativeName content = store.refuse .closed := by
  simp [writeFile, isClosed]

theorem writeFile_of_not_output
    (isOpen : store.closed = false) (notOutput : location.isOutput = false) :
    store.writeFile location packageName relativeName content =
      store.refuse (.notOutput location.name) := by
  simp [writeFile, isOpen, notOutput]

theorem writeFile_ok_iff :
    (∃ file, (store.writeFile location packageName relativeName content).1 = .ok file) ↔
      store.closed = false ∧ location.isOutput = true := by
  constructor
  · rintro ⟨file, written⟩
    cases closedness : store.closed with
    | true =>
        rw [writeFile_of_closed _ _ _ closedness] at written
        cases written
    | false =>
        cases kind : location.isOutput with
        | true => exact ⟨rfl, rfl⟩
        | false =>
            rw [writeFile_of_not_output _ _ _ closedness kind] at written
            cases written
  · rintro ⟨isOpen, output⟩
    obtain ⟨_, _, _, written⟩ := writeFile_eq isOpen output packageName relativeName content
    exact ⟨_, congrArg Prod.fst written⟩

/-- A failed write was refused by a manager that is closed, or else because the location is no
output. -/
theorem writeFile_error_iff {failure : Failure} :
    (store.writeFile location packageName relativeName content).1 = .error failure ↔
      store.closed = true ∧ failure = .of .closed ∨
        store.closed = false ∧ location.isOutput = false ∧
          failure = .of (.notOutput location.name) := by
  cases closedness : store.closed with
  | true =>
      rw [writeFile_of_closed _ _ _ closedness]
      simp
  | false =>
      cases kind : location.isOutput with
      | true =>
          obtain ⟨_, _, _, written⟩ :=
            writeFile_eq closedness kind packageName relativeName content
          simp [written]
      | false =>
          rw [writeFile_of_not_output _ _ _ closedness kind]
          simp

end Outcome

/-- **No location is left half registered.** In every reachable store the first table has roots for
standard locations that hold files only, and neither table has an empty list of roots. A write ends
with a file exactly on an open manager and for an output location; on a closed manager it fails for
that reason, for any other location on an open one because it is no output, and it never fails
because a location has no roots. -/
theorem tables_filled_and_writes_decided (reachable : store.Reachable) :
    store.WellTabled ∧
      ∀ (location : Location) (packageName relativeName : String) (content : Bytes),
        let answer := (store.writeFile location packageName relativeName content).1
        ((∃ file, answer = .ok file) ↔ store.closed = false ∧ location.isOutput = true) ∧
          (∀ failure, answer = .error failure ↔
            store.closed = true ∧ failure = .of .closed ∨
              store.closed = false ∧ location.isOutput = false ∧
                failure = .of (.notOutput location.name)) ∧
          ∀ failure, answer = .error failure → ∀ name, failure.fault ≠ .notConfigured name := by
  refine ⟨reachable.sound.wellTabled, ?_⟩
  intro location packageName relativeName content answer
  refine ⟨writeFile_ok_iff _ _ _, fun failure => writeFile_error_iff _ _ _, ?_⟩
  intro failure failed name
  rcases (writeFile_error_iff _ _ _).1 failed with ⟨_, rfl⟩ | ⟨_, _, rfl⟩
  · exact nofun
  · exact nofun

/-! ## A store with all kinds of roots -/

/-- A library is a root of the class path and of a module of the module path; a module of the class
output got its root by a write, and the module source path holds modules but has none yet. -/
def mixedRoots : Store :=
  let made := (Store.new "17").place (.new "lib")
  let packaged := (made.perform (.addContainer (.standard .classPath) 0)).2
  let modular := (packaged.perform (.addModuleContainer (.standard .modulePath) "m" 0)).2
  let known := (modular.perform (.createEmptyLocation (.standard .moduleSourcePath))).2
  (known.perform (.writeFile (.module .classOutput "m") "p" "A.class" [1])).2

theorem mixedRoots_reachable : mixedRoots.Reachable := by
  have made := (Reachable.new "17").moves (.made _ "lib")
  have packaged := made.moves (.called _ (.addContainer (.standard .classPath) 0) (by decide))
  have modular :=
    packaged.moves (.called _ (.addModuleContainer (.standard .modulePath) "m" 0) (by decide))
  have known :=
    modular.moves (.called _ (.createEmptyLocation (.standard .moduleSourcePath)) (by decide))
  exact known.moves
    (.called _ (.writeFile (.module .classOutput "m") "p" "A.class" [1]) (by decide))

theorem tables_filled_and_writes_decided_mixedRoots :
    mixedRoots.Reachable ∧ mixedRoots.WellTabled ∧
      (∃ file, (mixedRoots.writeFile (.standard .sourceOutput) "p" "A.java" [2]).1 = .ok file) ∧
      (mixedRoots.writeFile (.module .modulePath "m") "p" "A.class" [2]).1 =
        .error (.of (.notOutput "MODULE_PATH[m]")) := by
  obtain ⟨wellTabled, decided⟩ := tables_filled_and_writes_decided mixedRoots_reachable
  refine ⟨mixedRoots_reachable, wellTabled, ?_, ?_⟩
  · exact (decided (.standard .sourceOutput) "p" "A.java" [2]).1.2 ⟨rfl, rfl⟩
  · exact ((decided (.module .modulePath "m") "p" "A.class" [2]).2.1 _).2
      (Or.inr ⟨rfl, rfl, rfl⟩)

end CompilationChecks.Store
