import CompilationChecks.Call
import CompilationChecks.Log.Journal

/-!
Activities: what a call does and how it ends. A call returns an answer, fails, or panics, and in
each case it leaves a world behind, which is the journal of the process and the state of whatever
answers the calls. A file manager is anything that makes every call an activity.
-/

namespace CompilationChecks

/-- How a call ends. -/
inductive Ending (α : Type) where
  /-- With an answer. -/
  | returned (value : α)
  /-- With a failure, which the caller may handle. -/
  | failed (failure : Failure)
  /-- Abandoned, with a text that says why. -/
  | panicked (text : String)
  deriving Repr

namespace Ending

/-- The ending of an operation that cannot panic. -/
def ofExcept {α : Type} : Except Failure α → Ending α
  | .ok value => .returned value
  | .error failure => .failed failure

/-- The same ending with another answer. -/
def map {α β : Type} (f : α → β) : Ending α → Ending β
  | .returned value => .returned (f value)
  | .failed failure => .failed failure
  | .panicked text => .panicked text

end Ending

/-- The journal of the process and the state behind a file manager. -/
structure World (σ : Type) where
  /-- The journal. -/
  journal : Log.Journal
  /-- The state that answers calls. -/
  inner : σ
  deriving Repr

/-- Something that changes the world and ends. -/
abbrev Activity (σ α : Type) := World σ → Ending α × World σ

namespace Activity

variable {σ α β : Type}

/-- Ends at once with an answer. -/
def done (value : α) : Activity σ α :=
  fun world => (.returned value, world)

/-- One activity, and if it returns, another that depends on its answer. -/
def andThen (first : Activity σ α) (next : α → Activity σ β) : Activity σ β :=
  fun world =>
    match first world with
    | (.returned value, after) => next value after
    | (.failed failure, after) => (.failed failure, after)
    | (.panicked text, after) => (.panicked text, after)

/-- The same activity with another answer. -/
def map (f : α → β) (activity : Activity σ α) : Activity σ β :=
  fun world => ((activity world).1.map f, (activity world).2)

end Activity

/-- Whatever answers calls. -/
abbrev Manager (σ : Type) := (call : Call) → Activity σ call.Answer

/-- The manager in memory, which leaves the journal alone. -/
def Store.manager : Manager Store :=
  fun call world =>
    (.ofExcept (world.inner.perform call).1, { world with inner := (world.inner.perform call).2 })

end CompilationChecks
