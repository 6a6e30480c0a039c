import CompilationChecks.LoggingMode
import CompilationChecks.Proofs.Delegate.Interception

/-!
# Delegates are transparent

A delegate asks the manager inside once, with the call it was given, and hands on what it gets.
Answers and panics come out as they are; what comes out for a failure is said by `ComesOutAs`,
constructor by constructor. A manager that does not read the journal cannot tell whether there is a
delegate around it, and its caller cannot tell either as long as its failures have no cause to be
unwrapped. The manager in memory is of this kind, so any number of delegates around it change no
answer and no state.
-/

namespace CompilationChecks

variable {σ : Type}

/-! ## What comes out of a delegate -/

/-- `failure.ComesOutAs other`: the caller of a delegate gets `other` where the manager inside fails
with `failure`. A fault comes out as it is. A failure that passes on a cause comes out as the cause,
with the wrapper, without its cause, as the last that is set aside. -/
inductive Failure.ComesOutAs : Failure → Failure → Prop where
  | raised (fault : Fault) (aside : List Failure) :
    ComesOutAs (.raised fault aside) (.raised fault aside)
  | unwrapped (operation : String) (fault : Fault) (inside aside : List Failure) :
    ComesOutAs (.forwarded operation (.raised fault inside) aside)
      (.raised fault (inside ++ [.raised (.dispatch operation) aside]))
  -- One step only: a cause that passes on a cause of its own keeps it.
  | unwrappedOnce (operation inner : String) (cause : Failure) (inside aside : List Failure) :
    ComesOutAs (.forwarded operation (.forwarded inner cause inside) aside)
      (.forwarded inner cause (inside ++ [.raised (.dispatch operation) aside]))

/-- `ending.ComesOutAs other`: the caller of a delegate gets `other` for the ending inside. -/
inductive Ending.ComesOutAs {α : Type} : Ending α → Ending α → Prop where
  | returned (value : α) : ComesOutAs (.returned value) (.returned value)
  | failed {failure other : Failure} (comesOut : failure.ComesOutAs other) :
    ComesOutAs (.failed failure) (.failed other)
  | panicked (text : String) : ComesOutAs (.panicked text) (.panicked text)

theorem Failure.comesOutAs_iff {failure other : Failure} :
    failure.ComesOutAs other ↔ other = failure.unwrap := by
  constructor
  · intro comesOut
    cases comesOut with
    | raised fault aside => rfl
    | unwrapped operation fault inside aside => rfl
    | unwrappedOnce operation inner cause inside aside => rfl
  · rintro rfl
    match failure with
    | .raised fault aside => exact .raised fault aside
    | .forwarded operation (.raised fault inside) aside =>
        exact .unwrapped operation fault inside aside
    | .forwarded operation (.forwarded inner cause inside) aside =>
        exact .unwrappedOnce operation inner cause inside aside

theorem Ending.comesOutAs_iff {α : Type} {ending other : Ending α} :
    ending.ComesOutAs other ↔ other = ending.passedOn := by
  constructor
  · intro comesOut
    cases comesOut with
    | returned value => rfl
    | failed comesOut => exact congrArg Ending.failed (Failure.comesOutAs_iff.1 comesOut)
    | panicked text => rfl
  · rintro rfl
    cases ending with
    | returned value => exact .returned value
    | failed failure => exact .failed (Failure.comesOutAs_iff.2 rfl)
    | panicked text => exact .panicked text

/-! ## Managers and their runs -/

namespace Manager

/-- The manager, with a note of every call that reaches it. -/
def noted (manager : Manager σ) : Manager (σ × List Call) := fun call world =>
  let done := manager call ⟨world.journal, world.inner.1⟩
  (done.1, ⟨done.2.journal, done.2.inner, world.inner.2 ++ [call]⟩)

/-- From the same state both managers end every call in the same way and leave the same state,
whatever the journals hold. A manager that agrees with itself does not read the journal. -/
def Agrees (manager other : Manager σ) : Prop :=
  ∀ (call : Call) (world otherWorld : World σ), world.inner = otherWorld.inner →
    (manager call world).1 = (other call otherWorld).1 ∧
      (manager call world).2.inner = (other call otherWorld).2.inner

/-- The manager never fails with a failure that passes on a cause. -/
def Settled (manager : Manager σ) : Prop :=
  ∀ (call : Call) (world : World σ), (manager call world).1.passedOn = (manager call world).1

/-- Several calls, made one after another whatever becomes of them, each with its ending. -/
def runAll (manager : Manager σ) :
    List Call → World σ → List ((call : Call) × Ending call.Answer) × World σ
  | [], world => ([], world)
  | call :: others, world =>
    let done := manager call world
    let rest := manager.runAll others done.2
    (⟨call, done.1⟩ :: rest.1, rest.2)

theorem Agrees.runAll_eq
    {manager other : Manager σ} (agrees : manager.Agrees other) (calls : List Call)
    {world otherWorld : World σ} (same : world.inner = otherWorld.inner) :
    (manager.runAll calls world).1 = (other.runAll calls otherWorld).1 ∧
      (manager.runAll calls world).2.inner = (other.runAll calls otherWorld).2.inner := by
  induction calls generalizing world otherWorld with
  | nil => exact ⟨rfl, same⟩
  | cons call others inductionHypothesis =>
      obtain ⟨sameEnding, sameState⟩ := agrees call world otherWorld same
      obtain ⟨sameEndings, sameLast⟩ := inductionHypothesis sameState
      simp only [runAll]
      exact ⟨by rw [sameEnding, sameEndings], sameLast⟩

end Manager

/-! ## Delegates -/

namespace Delegate

variable (delegate : Delegate) (surroundings : Log.Surroundings) (shelf : σ → Shelf)

/-- A call through a delegate ends as the one call inside ends, unwrapped by one step. -/
theorem around_eq (inner : Manager σ) (call : Call) (world : World σ) :
    let begun := delegate.opened surroundings call.operation
      (call.arguments (shelf world.inner)) world
    (delegate.around surroundings shelf inner call world).1 = (inner call begun).1.passedOn ∧
      (delegate.around surroundings shelf inner call world).2.inner =
        (inner call begun).2.inner := by
  rw [around_eq_pass]
  unfold pass
  rw [intercept_eq]
  exact ⟨rfl, rfl⟩

theorem agrees_around
    {manager bare : Manager σ} (agrees : manager.Agrees bare) (settled : bare.Settled) :
    Manager.Agrees (delegate.around surroundings shelf manager) bare := by
  intro call world otherWorld same
  obtain ⟨sameEnding, sameState⟩ :=
    agrees call
      (delegate.opened surroundings call.operation (call.arguments (shelf world.inner)) world)
      otherWorld same
  obtain ⟨ending, state⟩ := delegate.around_eq surroundings shelf manager call world
  constructor
  · rw [ending, sameEnding, settled]
  · rw [state, sameState]

theorem agrees_aroundAll
    (delegates : List Delegate) {bare : Manager σ} (agrees : bare.Agrees bare)
    (settled : bare.Settled) :
    Manager.Agrees (aroundAll delegates surroundings shelf bare) bare := by
  induction delegates with
  | nil => exact agrees
  | cons delegate others inductionHypothesis =>
      exact delegate.agrees_around surroundings shelf inductionHypothesis settled

end Delegate

/-- Something that is put around a manager: a delegate, or whatever a mode asks for. -/
inductive Wrapping where
  | delegate (delegate : Delegate)
  | mode (mode : LoggingMode) (number : Nat) (sink : Log.Sink)

/-- The delegates of a wrapping, outermost first. -/
def Wrapping.delegates : Wrapping → List Delegate
  | .delegate single => [single]
  | .mode chosen number sink => chosen.delegates number sink

/-! ## The manager in memory -/

namespace Store

/-- No operation of the manager in memory fails with a failure that passes on a cause. -/
theorem passedOn_perform (store : Store) (call : Call) :
    (Ending.ofExcept (store.perform call).1).passedOn = .ofExcept (store.perform call).1 := by
  cases call <;>
    simp only [perform, addContainer, addModuleContainer, createEmptyLocation, contains,
      getPackageGroup, getModuleGroup, getOutputGroup, getPackageGroups, list, getFileForInput,
      writeFile, read, inferBinaryName, flush, close, refuse, answer]
  all_goals repeat' split
  all_goals rfl

theorem manager_settled : Store.manager.Settled :=
  fun call world => passedOn_perform world.inner call

theorem manager_agrees : Store.manager.Agrees Store.manager := by
  intro call world otherWorld same
  simp only [manager, same, and_self]

/-- Behind any delegates the manager in memory does what it does without them. -/
theorem aroundAll_agrees (delegates : List Delegate) (surroundings : Log.Surroundings) :
    Manager.Agrees (Delegate.aroundAll delegates surroundings Store.shelf Store.manager)
      Store.manager :=
  Delegate.agrees_aroundAll surroundings Store.shelf delegates manager_agrees manager_settled

end Store

/-- **Delegates are transparent.** A call through a delegate makes exactly one call of the manager
inside, the same call on the same state; it leaves the state that this call leaves, and ends as it
ends, except that a failure that passes on a cause comes out as this cause with the wrapper set
aside. If the manager inside does not read the journal, that is what a call without the delegate
would have done. And any run of the manager in memory behind any wrappings gives the same endings,
and leaves the same state, as the same run without them. -/
theorem delegate_transparent :
    (∀ (σ : Type) (delegate : Delegate) (surroundings : Log.Surroundings) (shelf : σ → Shelf)
      (inner : Manager σ) (call : Call) (world : World (σ × List Call)),
      let done := delegate.around surroundings (fun state => shelf state.1) inner.noted call world
      let begun := delegate.opened surroundings call.operation
        (call.arguments (shelf world.inner.1)) world
      let served := inner call ⟨begun.journal, world.inner.1⟩
      let direct := inner call ⟨world.journal, world.inner.1⟩
      done.2.inner.2 = world.inner.2 ++ [call] ∧
        done.2.inner.1 = served.2.inner ∧
        served.1.ComesOutAs done.1 ∧
        (inner.Agrees inner → served.1 = direct.1 ∧ served.2.inner = direct.2.inner)) ∧
    (∀ (wrappings : List Wrapping) (surroundings : Log.Surroundings) (calls : List Call)
      (world : World Store),
      let wrapped := Delegate.aroundAll (wrappings.flatMap Wrapping.delegates) surroundings
        Store.shelf Store.manager
      (Manager.runAll wrapped calls world).1 = (Store.manager.runAll calls world).1 ∧
        (Manager.runAll wrapped calls world).2.inner =
          (Store.manager.runAll calls world).2.inner) := by
  constructor
  · intro σ delegate surroundings shelf inner call world done begun served direct
    obtain ⟨ending, state⟩ :=
      delegate.around_eq surroundings (fun state => shelf state.1) inner.noted call world
    refine ⟨?_, ?_, Ending.comesOutAs_iff.2 ending, ?_⟩
    · exact congrArg Prod.snd state
    · exact congrArg Prod.fst state
    · intro unread
      exact unread call ⟨begun.journal, world.inner.1⟩ ⟨world.journal, world.inner.1⟩ rfl
  · intro wrappings surroundings calls world wrapped
    exact (Store.aroundAll_agrees _ surroundings).runAll_eq calls rfl

/-- A failure of a failure comes out as the inner one, with the outer one set aside. -/
theorem delegate_transparent_wrapper :
    let inner : Manager Nat := fun _ world =>
      (.failed (.forwarded "read" (.forwarded "open" (.of .closed) [.of (.io "slow")]) []),
        { world with inner := world.inner + 1 })
    let delegate : Delegate := ⟨1, true, .memory .trace⟩
    let done :=
      delegate.around ⟨none, []⟩ (fun _ => .empty) inner.noted .flush ⟨.start, (3, [])⟩
    done.2.inner = (4, [.flush]) ∧
      done.1 =
        .failed (.forwarded "open" (.of .closed)
          [.of (.io "slow"), .raised (.dispatch "read") []]) := by
  intro inner delegate done
  obtain ⟨called, state, comesOut, -⟩ :=
    delegate_transparent.1 Nat delegate ⟨none, []⟩ (fun _ => .empty) inner .flush ⟨.start, (3, [])⟩
  exact ⟨Prod.ext state called, Ending.comesOutAs_iff.1 comesOut⟩

end CompilationChecks
