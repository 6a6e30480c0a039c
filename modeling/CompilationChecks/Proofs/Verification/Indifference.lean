import CompilationChecks.Proofs.Verification.Verdict
import Mathlib.Data.List.Forall2

/-!
# Logging changes no verification

A verification asks the file manager of a fixture through the delegates that its mode puts there,
and everything it does leaves marks in the journal. None of this shows in what it finds: two
inquiries through managers that agree come to the same verdict in the same state. So the mode, the
sink, what was verified before and the number of a fixture make no difference to its outcome, and
the outcomes of several fixtures are those of each one alone, up to the first that has a trouble.
-/

namespace CompilationChecks

namespace Manager

variable {σ : Type} {manager other third : Manager σ}

theorem Agrees.symm (agrees : manager.Agrees other) : other.Agrees manager := by
  intro call world otherWorld same
  obtain ⟨sameEnding, sameState⟩ := agrees call otherWorld world same.symm
  exact ⟨sameEnding.symm, sameState.symm⟩

theorem Agrees.trans (agrees : manager.Agrees other) (further : other.Agrees third) :
    manager.Agrees third := by
  intro call world otherWorld same
  obtain ⟨firstEnding, firstState⟩ := agrees call world world rfl
  obtain ⟨secondEnding, secondState⟩ := further call world otherWorld same
  exact ⟨firstEnding.trans secondEnding, firstState.trans secondState⟩

end Manager

/-! ## Inquiries -/

namespace Check

/-- From the same state both inquiries come to the same verdict and leave the same state, whatever
the journals hold. -/
def Inquiry.Alike {σ α : Type} (left right : Inquiry σ α) : Prop :=
  ∀ world otherWorld : World σ, world.inner = otherWorld.inner →
    (left world).1 = (right otherWorld).1 ∧ (left world).2.inner = (right otherWorld).2.inner

section Alike

variable {manager other : Manager Store} (agrees : manager.Agrees other)

include agrees

theorem packageGroup_alike (location : Location) :
    Inquiry.Alike (Inquiry.packageGroup manager location)
      (Inquiry.packageGroup other location) := by
  intro world otherWorld same
  unfold Inquiry.packageGroup
  cases location.isModuleOriented with
  | true => exact ⟨rfl, same⟩
  | false =>
      obtain ⟨sameEnding, sameState⟩ := agrees (.getPackageGroup location) world otherWorld same
      simp only [Bool.false_eq_true, if_false, Inquiry.lookUp]
      generalize manager (.getPackageGroup location) world = done at sameEnding sameState ⊢
      generalize other (.getPackageGroup location) otherWorld = otherDone
        at sameEnding sameState ⊢
      obtain ⟨ending, after⟩ := done
      obtain ⟨otherEnding, otherAfter⟩ := otherDone
      cases sameEnding
      cases ending with
      | returned group => exact ⟨rfl, sameState⟩
      | failed failure => exact ⟨rfl, sameState⟩
      | panicked text => exact ⟨rfl, sameState⟩

theorem pathsExist_alike (location : Location) (paths : List String) :
    Inquiry.Alike (pathsExist manager location paths) (pathsExist other location paths) := by
  intro world otherWorld same
  obtain ⟨sameVerdict, sameState⟩ := packageGroup_alike agrees location world otherWorld same
  unfold pathsExist
  generalize Inquiry.packageGroup manager location world = done at sameVerdict sameState ⊢
  generalize Inquiry.packageGroup other location otherWorld = otherDone
    at sameVerdict sameState ⊢
  obtain ⟨verdict, after⟩ := done
  obtain ⟨otherVerdict, otherAfter⟩ := otherDone
  cases sameVerdict
  cases verdict with
  | error complaint => exact ⟨rfl, sameState⟩
  | ok lookup =>
      -- The files are looked for in the state that the call left.
      have sameShelf : after.inner.shelf = otherAfter.inner.shelf := congrArg Store.shelf sameState
      exact ⟨congrArg (fun shelf => lookup.allFilesExist shelf paths) sameShelf, sameState⟩

theorem allPathsExist_alike (expected : List (Location × List String)) :
    Inquiry.Alike (allPathsExist manager expected) (allPathsExist other expected) := by
  induction expected with
  | nil => exact fun world otherWorld same => ⟨rfl, same⟩
  | cons first others inductionHypothesis =>
      intro world otherWorld same
      obtain ⟨sameVerdict, sameState⟩ :=
        pathsExist_alike agrees first.1 first.2 world otherWorld same
      unfold allPathsExist
      generalize pathsExist manager first.1 first.2 world = done at sameVerdict sameState ⊢
      generalize pathsExist other first.1 first.2 otherWorld = otherDone
        at sameVerdict sameState ⊢
      obtain ⟨verdict, after⟩ := done
      obtain ⟨otherVerdict, otherAfter⟩ := otherDone
      cases sameVerdict
      cases verdict with
      | error complaint => exact ⟨rfl, sameState⟩
      | ok passed => exact inductionHypothesis after otherAfter sameState

theorem outcome_alike
    (expectation : Expectation) (compilation : Compilation)
    (expected : List (Location × List String)) :
    Inquiry.Alike (outcome manager expectation compilation expected)
      (outcome other expectation compilation expected) := by
  intro world otherWorld same
  unfold outcome
  cases expectation.check compilation with
  | error complaint => exact ⟨rfl, same⟩
  | ok passed => exact allPathsExist_alike agrees expected world otherWorld same

end Alike

end Check

namespace Verifier

variable (verifier other : Verifier)

/-! ## One fixture -/

/-- The managers of two verifications cannot be told apart. -/
theorem managers_agree (number otherNumber : Nat) :
    (verifier.manager number).Agrees (other.manager otherNumber) :=
  (verifier.manager_agrees number).trans (other.manager_agrees otherNumber).symm

theorem conclude_eq
    (number otherNumber : Nat) (fixture : Fixture) (expected : List (Location × List String))
    {world otherWorld : World Store} (same : world.inner = otherWorld.inner) :
    (verifier.conclude number fixture expected world).1 =
      (other.conclude otherNumber fixture expected otherWorld).1 := by
  have agrees := verifier.managers_agree other number otherNumber
  obtain ⟨sameVerdict, sameState⟩ := Check.outcome_alike agrees fixture.expectation
    fixture.compilation expected world otherWorld same
  have sameClosing := (agrees .close _ _ sameState).1
  unfold conclude
  dsimp only
  rw [sameVerdict, sameClosing]
  cases (other.manager otherNumber .close _).1 with
  | returned value => rfl
  | failed failure => rfl
  | panicked text => rfl

/-- What becomes of a fixture does not depend on who verifies it, nor on what came before. -/
theorem verifyOne_eq
    (number otherNumber : Nat) (fixture : Fixture) (journal otherJournal : Log.Journal) :
    (verifier.verifyOne number fixture journal).1 =
      (other.verifyOne otherNumber fixture otherJournal).1 := by
  unfold verifyOne
  cases fixture.store with
  | error trouble => rfl
  | ok store =>
      cases fixture.expectedPaths with
      | error trouble => rfl
      | ok expected => exact verifier.conclude_eq other number otherNumber fixture expected rfl

/-- Verified alone, a fixture has the given answer, whatever its number is and whatever the journal
holds by then. -/
def Answers (fixture : Fixture) (answer : Except Trouble FixtureOutcome) : Prop :=
  ∀ number journal, (verifier.verifyOne number fixture journal).1 = answer

variable {other}

theorem answers_iff
    {number : Nat} {journal : Log.Journal} {fixture : Fixture}
    {answer : Except Trouble FixtureOutcome} :
    other.Answers fixture answer ↔ (verifier.verifyOne number fixture journal).1 = answer := by
  constructor
  · intro answers
    rw [verifier.verifyOne_eq other number number fixture journal journal]
    exact answers number journal
  · intro found otherNumber otherJournal
    rw [other.verifyOne_eq verifier otherNumber number fixture otherJournal journal]
    exact found

/-! ## Several fixtures -/

/-- A trouble is that of the first fixture that has one. -/
def FirstRefused (fixtures : List Fixture) (trouble : Trouble) : Prop :=
  ∃ before fixture after, fixtures = before ++ fixture :: after ∧
    (∀ earlier ∈ before, ∃ outcome, verifier.Answers earlier (.ok outcome)) ∧
      verifier.Answers fixture (.error trouble)

theorem firstRefused_cons_iff
    {fixture : Fixture} {others : List Fixture} {trouble : Trouble} :
    verifier.FirstRefused (fixture :: others) trouble ↔
      verifier.Answers fixture (.error trouble) ∨
        (∃ outcome, verifier.Answers fixture (.ok outcome)) ∧
          verifier.FirstRefused others trouble := by
  constructor
  · rintro ⟨before, refused, after, split, earlierPass, refusal⟩
    cases before with
    | nil =>
        cases split
        exact Or.inl refusal
    | cons first rest =>
        cases split
        have ⟨firstPasses, restPass⟩ := List.forall_mem_cons.1 earlierPass
        exact Or.inr ⟨firstPasses, rest, refused, after, rfl, restPass, refusal⟩
  · rintro (refusal | ⟨firstPasses, before, refused, after, rfl, earlierPass, refusal⟩)
    · exact ⟨[], fixture, others, rfl, List.forall_mem_nil _, refusal⟩
    · exact ⟨fixture :: before, refused, after, rfl,
        List.forall_mem_cons.2 ⟨firstPasses, earlierPass⟩, refusal⟩

/-- Fixtures are verified one after another as long as there is no trouble. -/
theorem verifyFrom_cons
    (number : Nat) (fixture : Fixture) (others : List Fixture) (journal : Log.Journal) :
    (verifier.verifyFrom number (fixture :: others) journal).1 =
      match (verifier.verifyOne number fixture journal).1 with
      | .error trouble => .error trouble
      | .ok outcome =>
        (verifier.verifyFrom (number + 1) others
          (verifier.verifyOne number fixture journal).2).1.map (outcome :: ·) := by
  rw [verifyFrom]
  rcases verifier.verifyOne number fixture journal with ⟨trouble | outcome, after⟩
  · rfl
  · dsimp only
    rcases verifier.verifyFrom (number + 1) others after with ⟨trouble | outcomes, last⟩
    · rfl
    · rfl

theorem verifyFrom_ok_iff
    {number : Nat} {fixtures : List Fixture} {journal : Log.Journal}
    {outcomes : List FixtureOutcome} :
    (verifier.verifyFrom number fixtures journal).1 = .ok outcomes ↔
      List.Forall₂ (fun fixture outcome => other.Answers fixture (.ok outcome)) fixtures
        outcomes := by
  induction fixtures generalizing number journal outcomes with
  | nil =>
      rw [List.forall₂_nil_left_iff, verifyFrom, Except.ok.injEq]
      exact eq_comm
  | cons fixture others inductionHypothesis =>
      have alone : ∀ answer, other.Answers fixture answer ↔
          (verifier.verifyOne number fixture journal).1 = answer := fun _ => verifier.answers_iff
      rw [verifyFrom_cons, List.forall₂_cons_left_iff]
      generalize verifier.verifyOne number fixture journal = first at alone ⊢
      have further : ∀ outcomes,
          (verifier.verifyFrom (number + 1) others first.2).1 = .ok outcomes ↔
            List.Forall₂ (fun fixture outcome => other.Answers fixture (.ok outcome)) others
              outcomes := fun _ => inductionHypothesis
      simp only [alone, ← further]
      cases first.1 with
      | error trouble => simp
      | ok outcome =>
          cases (verifier.verifyFrom (number + 1) others first.2).1 with
          | error trouble => simp [Except.map]
          | ok rest => simp [Except.map, eq_comm]

theorem verifyFrom_error_iff
    {number : Nat} {fixtures : List Fixture} {journal : Log.Journal} {trouble : Trouble} :
    (verifier.verifyFrom number fixtures journal).1 = .error trouble ↔
      other.FirstRefused fixtures trouble := by
  induction fixtures generalizing number journal with
  | nil => simp [verifyFrom, FirstRefused]
  | cons fixture others inductionHypothesis =>
      have alone : ∀ answer, other.Answers fixture answer ↔
          (verifier.verifyOne number fixture journal).1 = answer := fun _ => verifier.answers_iff
      rw [verifyFrom_cons, firstRefused_cons_iff]
      generalize verifier.verifyOne number fixture journal = first at alone ⊢
      have further : (verifier.verifyFrom (number + 1) others first.2).1 = .error trouble ↔
          other.FirstRefused others trouble := inductionHypothesis
      simp only [alone, ← further]
      cases first.1 with
      | error found => simp
      | ok outcome =>
          cases (verifier.verifyFrom (number + 1) others first.2).1 with
          | error found => simp [Except.map]
          | ok rest => simp [Except.map]

/-- **Logging changes no verification.** Verifications of one set of fixtures in any two modes, with
any two sinks and in any surroundings have the same result. They end with outcomes exactly if these
are, one for each fixture and in the order of the fixtures, the outcomes that each fixture has
alone; and they end with a trouble exactly if it is that of the first fixture that has one alone. -/
theorem logging_changes_no_verification (verifier other : Verifier) (set : FixtureSet) :
    (verifier.verify set).1 = (other.verify set).1 ∧
      (∀ outcomes, (verifier.verify set).1 = .ok outcomes ↔
        List.Forall₂ (fun fixture outcome => other.Answers fixture (.ok outcome)) set.fixtures
          outcomes) ∧
      ∀ trouble, (verifier.verify set).1 = .error trouble ↔
        other.FirstRefused set.fixtures trouble := by
  refine ⟨?_, fun outcomes => verifier.verifyFrom_ok_iff,
    fun trouble => verifier.verifyFrom_error_iff⟩
  cases result : (other.verify set).1 with
  | error trouble =>
      have refused : verifier.FirstRefused set.fixtures trouble :=
        other.verifyFrom_error_iff.1 result
      exact verifier.verifyFrom_error_iff.2 refused
  | ok outcomes =>
      have answered : List.Forall₂ (fun fixture outcome => verifier.Answers fixture (.ok outcome))
          set.fixtures outcomes := other.verifyFrom_ok_iff.1 result
      exact verifier.verifyFrom_ok_iff.2 answered

end Verifier

end CompilationChecks
