import CompilationChecks.Proofs.Delegate.Interception

/-!
# Managers that call back

A manager may call back through the delegate around it while it serves a call, as often and as
deeply as it likes. A service is what such a manager does for one call: a tree that branches on
the state it works on, on the number of calls it finds open, and on how the calls back ended.

A service can be performed behind a delegate, or executed on its own, where nothing is counted or
logged and the number of open calls is simply how deep the service is nested. Executing it gives
the tree of calls that were made, and a tree spells the word that its log should be.
-/

namespace CompilationChecks

/-- What a manager does to serve a call. -/
inductive Service (σ : Type) : Type → Type 1 where
  /-- The call ends. -/
  | finish {α : Type} (ending : Ending α) : Service σ α
  /-- The manager changes its own state and goes on as the new state demands. -/
  | work {α : Type} (change : σ → σ) (next : σ → Service σ α) : Service σ α
  /-- The manager asks the delegate how many calls are open. -/
  | countOpen {α : Type} (next : Nat → Service σ α) : Service σ α
  /-- The manager makes a call of its own, which is served in turn. It goes on with the ending of
  that call: a panic may be caught by going on, or passed up by finishing with it. -/
  | callBack {α : Type} (call : Call) (served : Service σ call.Answer)
      (next : Ending call.Answer → Service σ α) : Service σ α

/-- A call that was made, how the manager ended it, and the calls back, oldest first. -/
inductive CallTree where
  | node (call : Call) (ending : Ending call.Answer) (children : List CallTree)

/-- What became of a service. -/
structure Execution (σ α : Type) where
  /-- How the service ended. -/
  ending : Ending α
  /-- The state it left. -/
  state : σ
  /-- The calls back it made, oldest first. -/
  calls : List CallTree

namespace Service

variable {σ : Type}

/-- The service behind a delegate: every call back is passed through the delegate. -/
def perform (delegate : Delegate) (surroundings : Log.Surroundings) (shelf : σ → Shelf) :
    {α : Type} → Service σ α → Activity σ α
  | _, .finish ending, world => (ending, world)
  | _, .work change next, world =>
    (next (change world.inner)).perform delegate surroundings shelf
      { world with inner := change world.inner }
  | _, .countOpen next, world =>
    (next (world.journal.depth delegate.number)).perform delegate surroundings shelf world
  | _, .callBack call served next, world =>
    let done :=
      delegate.pass surroundings shelf call (served.perform delegate surroundings shelf) world
    (next done.1).perform delegate surroundings shelf done.2

/-- The service on its own, nested below the given number of open calls. -/
def execute : {α : Type} → Service σ α → Nat → σ → Execution σ α
  | _, .finish ending, _, state => ⟨ending, state, []⟩
  | _, .work change next, openCalls, state =>
    (next (change state)).execute openCalls (change state)
  | _, .countOpen next, openCalls, state => (next openCalls).execute openCalls state
  | _, .callBack call served next, openCalls, state =>
    let child := served.execute (openCalls + 1) state
    let rest := (next child.ending.passedOn).execute openCalls child.state
    { rest with calls := .node call child.ending child.calls :: rest.calls }

/-- The manager that serves every call as it is told, behind a delegate. -/
def manager (delegate : Delegate) (surroundings : Log.Surroundings) (shelf : σ → Shelf)
    (services : (call : Call) → Service σ call.Answer) : Manager σ :=
  fun call => (services call).perform delegate surroundings shelf

/-- `Makes … service world call served start`: performing the service from `world` makes the call
`call` in the world `start`, however deeply nested, and `served` is what serves it. -/
inductive Makes (delegate : Delegate) (surroundings : Log.Surroundings) (shelf : σ → Shelf) :
    {α : Type} → Service σ α → World σ → (call : Call) → Service σ call.Answer → World σ → Prop where
  | work {α : Type} {change : σ → σ} {next : σ → Service σ α} {world start : World σ}
      {call : Call} {served : Service σ call.Answer} :
      Makes delegate surroundings shelf (next (change world.inner))
        { world with inner := change world.inner } call served start →
      Makes delegate surroundings shelf (.work change next) world call served start
  | countOpen {α : Type} {next : Nat → Service σ α} {world start : World σ} {call : Call}
      {served : Service σ call.Answer} :
      Makes delegate surroundings shelf (next (world.journal.depth delegate.number)) world call
        served start →
      Makes delegate surroundings shelf (.countOpen next) world call served start
  /-- The service begins with the call. -/
  | here {α : Type} (call : Call) (served : Service σ call.Answer)
      (next : Ending call.Answer → Service σ α) (world : World σ) :
      Makes delegate surroundings shelf (.callBack call served next) world call served world
  /-- The call is made while another one is served. -/
  | inside {α : Type} {outer call : Call} {outerServed : Service σ outer.Answer}
      {served : Service σ call.Answer} {next : Ending outer.Answer → Service σ α}
      {world start : World σ} :
      Makes delegate surroundings shelf outerServed
        (delegate.opened surroundings outer.operation (outer.arguments (shelf world.inner)) world)
        call served start →
      Makes delegate surroundings shelf (.callBack outer outerServed next) world call served start
  /-- The call is made after another one is over. -/
  | beyond {α : Type} {earlier call : Call} {earlierServed : Service σ earlier.Answer}
      {served : Service σ call.Answer} {next : Ending earlier.Answer → Service σ α}
      {world start : World σ} :
      Makes delegate surroundings shelf
        (next (delegate.pass surroundings shelf earlier
          (earlierServed.perform delegate surroundings shelf) world).1)
        (delegate.pass surroundings shelf earlier
          (earlierServed.perform delegate surroundings shelf) world).2 call served start →
      Makes delegate surroundings shelf (.callBack earlier earlierServed next) world call served
        start

end Service

/-! ## Words -/

/-- What an event says apart from arguments, frames, answer and reason. -/
structure Log.Mark where
  moment : Log.Moment
  thread : UInt64
  depth : UInt32
  operation : String
  parameterTypes : String
  returnType : String
  deriving DecidableEq, Repr

def Log.Event.mark (event : Log.Event) : Log.Mark :=
  ⟨event.moment, event.thread, event.depth, event.operation, event.parameterTypes,
    event.returnType⟩

/-- What the log has to say of a moment of a call, made on a lane as the innermost of `depth` open
calls. -/
def Operation.mark (operation : Operation) (lane : Log.Lane) (depth : Nat) (moment : Log.Moment) :
    Log.Mark where
  moment := moment
  thread := lane.thread
  depth := UInt32.ofNat depth
  operation := operation.name
  parameterTypes := Inspection.commas operation.parameterTypes
  returnType := operation.returnType

/-- The moment that the exit of a call describes. -/
def Ending.moment {α : Type} (operation : Operation) : Ending α → Log.Moment
  | .returned _ => if operation.isVoid then .completed else .returned
  | .failed _ => .failed
  | .panicked _ => .failed

theorem Delegate.mark_exitEvent
    {α : Type} (operation : Operation) (lane : Log.Lane) (depth : Nat) (answerText : α → String)
    (ending : Ending α) :
    (Delegate.exitEvent operation lane depth answerText ending).mark =
      operation.mark lane depth (ending.moment operation) := by
  cases ending with
  | returned value =>
      by_cases void : operation.isVoid = true
      · simp only [exitEvent, returnEvent, Ending.moment, void, if_true]
        rfl
      · simp only [exitEvent, returnEvent, Ending.moment, void, Bool.false_eq_true, if_false]
        rfl
  | failed failure => rfl
  | panicked text => rfl

theorem Delegate.thread_exitEvent
    {α : Type} (operation : Operation) (lane : Log.Lane) (depth : Nat) (answerText : α → String)
    (ending : Ending α) :
    (Delegate.exitEvent operation lane depth answerText ending).thread = lane.thread :=
  congrArg Log.Mark.thread (mark_exitEvent operation lane depth answerText ending)

theorem Ending.moment_ne_entry
    {α : Type} (ending : Ending α) (operation : Operation) : ending.moment operation ≠ .entry := by
  cases ending with
  | returned value =>
      by_cases void : operation.isVoid = true
      · simp [moment, void]
      · simp [moment, void]
  | failed failure => exact Log.Moment.noConfusion
  | panicked text => exact Log.Moment.noConfusion

namespace CallTree

mutual

/-- What the log has to say of a call made while the given number of calls is open: its entry, all
about its calls back one level deeper, and one exit. -/
def word (lane : Log.Lane) : Nat → CallTree → List Log.Mark
  | openCalls, .node call ending children =>
    call.operation.mark lane (openCalls + 1) .entry ::
      (words lane (openCalls + 1) children ++
        [call.operation.mark lane (openCalls + 1) (ending.moment call.operation)])

/-- The words of several calls, one call after another. -/
def words (lane : Log.Lane) : Nat → List CallTree → List Log.Mark
  | _, [] => []
  | openCalls, tree :: others => word lane openCalls tree ++ words lane openCalls others

end

end CallTree

namespace Service

variable {σ : Type}

/-- A service that makes the given calls back, whatever becomes of each, and then ends. -/
def script {α : Type} : List CallTree → Ending α → Service σ α
  | [], ending => .finish ending
  | .node call childEnding children :: others, ending =>
    .callBack call (script children childEnding) fun _ => script others ending

/-- Every list of call trees is made by some service, so every call tree is one that can happen. -/
theorem execute_script
    {α : Type} (calls : List CallTree) (ending : Ending α) (openCalls : Nat) (state : σ) :
    (script calls ending : Service σ α).execute openCalls state = ⟨ending, state, calls⟩ := by
  fun_induction script calls ending generalizing openCalls state with
  | case1 => rfl
  | case2 _ call childEnding children others ending childHypothesis othersHypothesis =>
      simp only [execute, childHypothesis, othersHypothesis]

end Service

end CompilationChecks
