import CompilationChecks.Log.Depth
import CompilationChecks.Log.Notice

/-!
The journal of a process: which thread runs, how many calls are open, what the sinks have kept
and what the subscriber of the trace has seen. A sink keeps an event only if its level passes the
limit of the sink. The subscriber watches the first thread of the process and no other one.
-/

namespace CompilationChecks.Log

/-- Where the events of a delegate go. -/
inductive Sink where
  /-- Kept as they are. -/
  | memory (limit : Level)
  /-- Written as one line of text each. -/
  | lines (limit : Level)
  /-- Handed to a writer that fails every time. -/
  | broken (limit : Level)
  /-- Sent to the subscriber of the trace. -/
  | subscriber
  deriving DecidableEq, Repr

/-- What a process finds around it and does not change. -/
structure Surroundings where
  /-- The limit of the subscriber of the trace, if there is a subscriber. -/
  subscriber : Option Level
  /-- The frames that lead to every call, outermost last. -/
  frames : List String
  deriving DecidableEq, Repr

namespace Surroundings

/-- Whether a subscriber would see a notice of the given level. -/
def notices (surroundings : Surroundings) (level : Level) : Bool :=
  surroundings.subscriber.any level.within

/-- The frames as an event carries them, each on a line of its own behind a tab. -/
def stackTrace (surroundings : Surroundings) : String :=
  String.join (surroundings.frames.map fun frame => "\n\t" ++ frame)

end Surroundings

/-- Whether a sink records events of a level. -/
def Sink.accepts (sink : Sink) (surroundings : Surroundings) (level : Level) : Bool :=
  match sink with
  | .memory limit => level.within limit
  | .lines limit => level.within limit
  | .broken limit => level.within limit
  | .subscriber => surroundings.notices level

/-- An event together with the number of the delegate whose sink kept it. -/
structure Record where
  /-- The number of the delegate. -/
  delegate : Nat
  /-- The event. -/
  event : Event
  deriving DecidableEq, Repr

/-- The journal of a process. -/
structure Journal where
  /-- The number of the thread that runs. -/
  thread : UInt64
  /-- The open calls. -/
  depths : Depths
  /-- What the sinks have kept, oldest first. -/
  records : List Record
  /-- What the subscriber has seen, oldest first. -/
  notices : List Notice
  deriving DecidableEq, Repr

namespace Journal

/-- The journal of a process that has just begun. -/
def start : Journal :=
  ⟨1, .empty, [], []⟩

/-- Whether the subscriber watches the running thread. -/
def isWatched (journal : Journal) : Bool :=
  journal.thread == start.thread

/-- Shows a notice to the subscriber, if there is one that watches and cares. -/
def notice (journal : Journal) (surroundings : Surroundings) (notice : Notice) : Journal :=
  if journal.isWatched && surroundings.notices notice.level then
    { journal with notices := journal.notices ++ [notice] }
  else journal

/-- Hands an event to the sink of a delegate. -/
def record (journal : Journal) (surroundings : Surroundings) (delegate : Nat) (sink : Sink)
    (event : Event) : Journal :=
  if sink.accepts surroundings event.level then
    match sink with
    | .memory _ => { journal with records := journal.records ++ [⟨delegate, event⟩] }
    | .lines _ => { journal with records := journal.records ++ [⟨delegate, event⟩] }
    | .broken _ => journal.notice surroundings .writerBroken
    | .subscriber => journal.notice surroundings (.call event)
  else journal

/-- The lane of the running thread through a delegate. -/
def lane (journal : Journal) (delegate : Nat) : Lane :=
  ⟨journal.thread, delegate⟩

/-- How many calls of the running thread through a delegate are open. -/
def depth (journal : Journal) (delegate : Nat) : Nat :=
  journal.depths.count (journal.lane delegate)

end Journal

end CompilationChecks.Log
