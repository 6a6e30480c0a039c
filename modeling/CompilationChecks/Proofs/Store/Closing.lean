import CompilationChecks.Proofs.Store.WriteOutcome

/-!
# Failing and closing

A call that fails has checked everything before it changed anything, so it leaves the store as it
was. Closing is the last change of all: a closed manager refuses every call that may fail, answers
the others as before, and no call changes it any more. Containers can still be written to by those
who hold them, which concerns neither the roots nor the answers about locations.
-/

namespace CompilationChecks

namespace Call

/-- A call that changes nothing, whatever the answer is. -/
def onlyAsks : Call → Bool
  | .addContainer .. | .addModuleContainer .. | .createEmptyLocation .. => false
  | .writeFile .. | .close => false
  | _ => true

/-- A call whose answer may be a failure. -/
def mayFail : Call → Bool
  | .hasLocation .. | .effectiveRelease => false
  | _ => true

end Call

namespace Store

variable {store : Store}

/-! ## Failing -/

theorem perform_of_onlyAsks {call : Call} (onlyAsks : call.onlyAsks = true) :
    (store.perform call).2 = store := by
  cases call
  case addContainer => cases onlyAsks
  case addModuleContainer => cases onlyAsks
  case createEmptyLocation => cases onlyAsks
  case writeFile => cases onlyAsks
  case close => cases onlyAsks
  all_goals
    simp only [perform, contains, getPackageGroup, getModuleGroup, getOutputGroup,
      getPackageGroups, list, getFileForInput, read, inferBinaryName, flush, refuse, answer]
    repeat' split
  all_goals rfl

/-- A call that is not answered leaves the store as it was. -/
theorem answered_or_unchanged (store : Store) (call : Call) :
    (∃ value, (store.perform call).1 = .ok value) ∨ (store.perform call).2 = store := by
  cases call
  case writeFile location packageName relativeName content =>
    cases closedness : store.closed with
    | true => exact Or.inr (congrArg Prod.snd (writeFile_of_closed _ _ _ closedness))
    | false =>
        cases kind : location.isOutput with
        | true => exact Or.inl ((writeFile_ok_iff _ _ _).2 ⟨closedness, kind⟩)
        | false =>
            exact Or.inr (congrArg Prod.snd (writeFile_of_not_output _ _ _ closedness kind))
  case addContainer location id =>
    dsimp only [perform, addContainer]
    repeat' split
    · exact Or.inr rfl
    · exact Or.inr rfl
    · exact Or.inl ⟨(), rfl⟩
  case addModuleContainer location moduleName id =>
    dsimp only [perform, addModuleContainer]
    repeat' split
    · exact Or.inr rfl
    · exact Or.inl ⟨(), rfl⟩
    · exact Or.inr rfl
    · exact Or.inr rfl
  case createEmptyLocation location =>
    dsimp only [perform, createEmptyLocation]
    repeat' split
    · exact Or.inr rfl
    · exact Or.inl ⟨(), rfl⟩
    · exact Or.inl ⟨(), rfl⟩
    · exact Or.inl ⟨(), rfl⟩
  case close => exact Or.inl ⟨(), rfl⟩
  all_goals exact Or.inr (perform_of_onlyAsks rfl)

theorem perform_of_error
    {call : Call} {failure : Failure} (failed : (store.perform call).1 = .error failure) :
    (store.perform call).2 = store := by
  rcases store.answered_or_unchanged call with ⟨value, answered⟩ | unchanged
  · rw [answered] at failed
    cases failed
  · exact unchanged

/-! ## Closing -/

/-- The store after several calls, made one after another whatever becomes of each. -/
def performAll (store : Store) (calls : List Call) : Store :=
  calls.foldl (fun current call => (current.perform call).2) store

section Closed

variable (isClosed : store.closed = true)

include isClosed

theorem perform_of_closed
    {call : Call} (mayFail : call.mayFail = true) (notClose : call ≠ .close) :
    (store.perform call).1 = .error (.of .closed) := by
  cases call
  case hasLocation => cases mayFail
  case effectiveRelease => cases mayFail
  case close => exact absurd rfl notClose
  all_goals
    simp only [perform, addContainer, addModuleContainer, createEmptyLocation, contains,
      getPackageGroup, getModuleGroup, getOutputGroup, getPackageGroups, list, getFileForInput,
      writeFile, read, inferBinaryName, flush, isClosed, if_true]
    rfl

theorem unchanged_of_closed (call : Call) : (store.perform call).2 = store := by
  by_cases isClose : call = .close
  · -- The flag that closing sets is set already.
    rw [isClose]
    cases store
    cases isClosed
    rfl
  · by_cases mayFail : call.mayFail = true
    · exact perform_of_error (perform_of_closed isClosed mayFail isClose)
    · cases call
      case hasLocation => rfl
      case effectiveRelease => rfl
      all_goals exact absurd rfl mayFail

theorem performAll_of_closed (calls : List Call) : store.performAll calls = store := by
  induction calls with
  | nil => rfl
  | cons call others inductionHypothesis =>
      rw [performAll, List.foldl_cons, unchanged_of_closed isClosed call]
      exact inductionHypothesis

end Closed

/-! ### After closing -/

/-- A later store of a manager that was closed: it is closed, and its roots are those it had. -/
structure ClosedAfter (store later : Store) : Prop where
  closed : later.closed = true
  packages : later.packages = store.packages
  modules : later.modules = store.modules

namespace ClosedAfter

variable {later next : Store}

theorem closing (store : Store) : store.ClosedAfter (store.perform .close).2 :=
  ⟨rfl, rfl, rfl⟩

theorem moves (closedAfter : store.ClosedAfter later) (moves : later.Moves next) :
    store.ClosedAfter next := by
  cases moves with
  | made name => exact ⟨closedAfter.closed, closedAfter.packages, closedAfter.modules⟩
  | written id path content _ =>
      exact ⟨closedAfter.closed, closedAfter.packages, closedAfter.modules⟩
  | called call _ =>
      rw [unchanged_of_closed closedAfter.closed]
      exact closedAfter

/-- However a manager is used after it was closed, it stays closed and keeps its roots. -/
theorem run
    (closedAfter : store.ClosedAfter later) (run : Relation.ReflTransGen Moves later next) :
    store.ClosedAfter next := by
  induction run with
  | refl => exact closedAfter
  | tail _ move inductionHypothesis => exact inductionHypothesis.moves move

end ClosedAfter

/-- **Failed calls change nothing, and closing is final.** A call that fails leaves the whole store
as it was. A manager can always be closed, and whatever happens afterwards, every call that may
fail is refused because the manager is closed, but for closing it again, which succeeds; no calls
change anything; the roots are those that there were before, and so are the answers about them. -/
theorem failed_calls_change_nothing_and_closing_is_final (store : Store) :
    (∀ call failure,
      (store.perform call).1 = .error failure → (store.perform call).2 = store) ∧
    (store.perform .close).1 = .ok () ∧
    ∀ later, Relation.ReflTransGen Moves (store.perform .close).2 later →
      (∀ call, call.mayFail = true → call ≠ .close →
        (later.perform call).1 = .error (.of .closed)) ∧
      (later.perform .close).1 = .ok () ∧
      (∀ calls, later.performAll calls = later) ∧
      store.ClosedAfter later ∧
      ∀ location,
        (later.perform (.hasLocation location)).1 = .ok (store.hasLocation location) := by
  refine ⟨fun call failure => perform_of_error, rfl, ?_⟩
  intro later run
  have closedAfter : store.ClosedAfter later := (ClosedAfter.closing store).run run
  refine ⟨?_, rfl, ?_, closedAfter, ?_⟩
  · intro call mayFail notClose
    exact perform_of_closed closedAfter.closed mayFail notClose
  · intro calls
    exact performAll_of_closed closedAfter.closed calls
  · intro location
    exact congrArg Except.ok
      (hasLocation_congr closedAfter.packages closedAfter.modules location)

end Store

end CompilationChecks
