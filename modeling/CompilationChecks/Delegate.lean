import CompilationChecks.Activity

/-!
Delegates: file managers that log every call and pass it on to another manager. A delegate counts
its open calls, logs the beginning of a call, lets the other manager do the work, logs the end,
and forgets the call again, however it ends. Answers and panics go through untouched; a failure
that passes on a cause is unwrapped by one step before it is logged and handed to the caller.
-/

namespace CompilationChecks

/-- A manager that logs the calls it passes on. -/
structure Delegate where
  /-- The number that tells the delegates of a process apart. -/
  number : Nat
  /-- Whether beginnings of calls are logged with the frames that led to them. -/
  stackTraces : Bool
  /-- Where the events go. -/
  sink : Log.Sink
  deriving DecidableEq, Repr

namespace Delegate

variable {σ α : Type}

/-- An event of a call that began on the given lane at the given depth, without details. -/
def event (operation : Operation) (lane : Log.Lane) (depth : Nat) (moment : Log.Moment) :
    Log.Event where
  moment := moment
  thread := lane.thread
  depth := UInt32.ofNat depth
  returnType := operation.returnType
  operation := operation.name
  parameterTypes := operation.parameterList
  arguments := none
  stackTrace := none
  result := none
  error := none

/-- The event for the beginning of a call. -/
def entryEvent (delegate : Delegate) (surroundings : Log.Surroundings) (operation : Operation)
    (lane : Log.Lane) (depth : Nat) (arguments : List String) : Log.Event :=
  { event operation lane depth .entry with
    arguments := some (Inspection.commas arguments)
    stackTrace := if delegate.stackTraces then some surroundings.stackTrace else none }

/-- The event for a call that returned. An answer that says nothing is not shown. -/
def returnEvent (operation : Operation) (lane : Log.Lane) (depth : Nat) (answer : String) :
    Log.Event :=
  if operation.isVoid then event operation lane depth .completed
  else { event operation lane depth .returned with result := some answer }

/-- The event for a call that failed or was abandoned. -/
def failureEvent (operation : Operation) (lane : Log.Lane) (depth : Nat) (reason : String) :
    Log.Event :=
  { event operation lane depth .failed with error := some reason }

/-- The reason that is logged for a call that was abandoned. -/
def panicReason (operation : Operation) : String :=
  "panicked in `" ++ operation.name ++ "`"

/-- Counts a call of the running thread as open. -/
def enter (delegate : Delegate) (world : World σ) : World σ :=
  { world with journal :=
    { world.journal with
      depths := world.journal.depths.enter (world.journal.lane delegate.number) } }

/-- Counts a call of the running thread as ended. -/
def leave (delegate : Delegate) (world : World σ) : World σ :=
  { world with journal :=
    { world.journal with
      depths := world.journal.depths.leave (world.journal.lane delegate.number) } }

/-- Hands an event to the sink. -/
def record (delegate : Delegate) (surroundings : Log.Surroundings) (event : Log.Event)
    (world : World σ) : World σ :=
  { world with
    journal := world.journal.record surroundings delegate.number delegate.sink event }

/-- Logs the beginning and the end of an activity that is done for an operation. The arguments
are shown as they are when the activity begins, the answer as it is when it ends. -/
def intercept (delegate : Delegate) (surroundings : Log.Surroundings) (operation : Operation)
    (arguments : σ → List String) (answerText : σ → α → String) (body : Activity σ α) :
    Activity σ α := fun world =>
  let entered := delegate.enter world
  let lane := entered.journal.lane delegate.number
  let depth := entered.journal.depth delegate.number
  let begun := delegate.record surroundings
    (delegate.entryEvent surroundings operation lane depth (arguments entered.inner)) entered
  match body begun with
  | (.returned value, after) =>
    let event := returnEvent operation lane depth (answerText after.inner value)
    (.returned value, delegate.leave (delegate.record surroundings event after))
  | (.failed failure, after) =>
    let event := failureEvent operation lane depth failure.unwrap.message
    (.failed failure.unwrap, delegate.leave (delegate.record surroundings event after))
  | (.panicked text, after) =>
    let event := failureEvent operation lane depth (panicReason operation)
    (.panicked text, delegate.leave (delegate.record surroundings event after))

/-- The manager that logs every call and passes it on. `shelf` tells where the state behind the
manager keeps its containers. -/
def around (delegate : Delegate) (surroundings : Log.Surroundings) (shelf : σ → Shelf)
    (inner : Manager σ) : Manager σ := fun call =>
  delegate.intercept surroundings call.operation (fun state => call.arguments (shelf state))
    (fun state answer => call.answerText (shelf state) answer) (inner call)

/-- The manager behind several delegates, the first of them outermost. -/
def aroundAll (delegates : List Delegate) (surroundings : Log.Surroundings) (shelf : σ → Shelf)
    (inner : Manager σ) : Manager σ :=
  delegates.foldr (fun delegate manager => delegate.around surroundings shelf manager) inner

/-- The identity of a delegate around a manager with the given identity. -/
def display (delegate : Delegate) (inner : String) : String :=
  "LoggingFileManager\x7binner=" ++ inner ++ ", stackTraces=" ++
    Inspection.flag delegate.stackTraces ++ "\x7d"

/-- The identity of a manager behind several delegates, the first of them outermost. -/
def displayAll (delegates : List Delegate) (inner : String) : String :=
  delegates.foldr display inner

/-- The state of a delegate around a manager with the given state. -/
def inspect (delegate : Delegate) (inner : String) : String :=
  Inspection.partialRecord "LoggingFileManager"
    [("inner", inner), ("stack_traces", Inspection.flag delegate.stackTraces)]

/-- The state of a manager behind several delegates, the first of them outermost. -/
def inspectAll (delegates : List Delegate) (inner : String) : String :=
  delegates.foldr inspect inner

end Delegate

end CompilationChecks
