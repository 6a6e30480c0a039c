import CompilationChecks.Proofs.Delegate.Service
import Mathlib.Logic.Function.Basic

/-!
# Threads do not disturb each other

Several threads make calls through several delegates. Each thread ends its own calls in the reverse
order in which it began them, and otherwise the threads take their turns in any order. A lane, that
is a thread together with a delegate, behaves as if it were alone: `Solo` replays the turns of one
lane, and `Mirrors` says that all that concerns the lane is as in the replay. One turn keeps it, for
the lane whose turn it is and for all others, and so does every run.
-/

namespace CompilationChecks

variable {σ : Type}

/-! ## Turns -/

/-- A call that is open. -/
structure Frame where
  /-- The thread that made it, and the number of the delegate it goes through. -/
  lane : Log.Lane
  operation : Operation
  /-- The depth at which it was logged. -/
  depth : Nat
  deriving DecidableEq, Repr

/-- What a thread does when it is its turn. -/
inductive Turn (σ : Type) where
  /-- A call begins. -/
  | begin (lane : Log.Lane) (operation : Operation) (arguments : List String)
  /-- The innermost call of the thread ends. An answer is given by the text that is logged. -/
  | finish (lane : Log.Lane) (ending : Ending String)
  /-- A manager inside works on its own state. -/
  | work (change : σ → σ)

def Turn.isOn (lane : Log.Lane) : Turn σ → Bool
  | .begin own _ _ => own = lane
  | .finish own _ => own = lane
  | .work _ => false

/-- The delegates of a process, each known by its number, and what surrounds the process. -/
structure Fleet where
  surroundings : Log.Surroundings
  stackTraces : Nat → Bool
  sink : Nat → Log.Sink

def Fleet.delegate (fleet : Fleet) (number : Nat) : Delegate :=
  ⟨number, fleet.stackTraces number, fleet.sink number⟩

/-- The world, and for each thread its open calls, innermost first. -/
structure Traffic (σ : Type) where
  world : World σ
  calls : UInt64 → List Frame

/-- The world when another thread runs. -/
def World.onThread (world : World σ) (thread : UInt64) : World σ :=
  { world with journal := { world.journal with thread := thread } }

namespace Traffic

def start (inner : σ) : Traffic σ :=
  ⟨⟨.start, inner⟩, fun _ => []⟩

variable (fleet : Fleet) (traffic : Traffic σ)

/-- A thread begins a call: the first half of what a delegate does around a call. -/
def begun (lane : Log.Lane) (operation : Operation) (arguments : List String) : Traffic σ :=
  let world := traffic.world.onThread lane.thread
  ⟨(fleet.delegate lane.delegate).opened fleet.surroundings operation arguments world,
    Function.update traffic.calls lane.thread
      (⟨lane, operation, world.journal.depth lane.delegate + 1⟩ :: traffic.calls lane.thread)⟩

/-- A thread ends a call, which leaves it with some outer calls: the second half. -/
def ended (frame : Frame) (outer : List Frame) (ending : Ending String) : Traffic σ :=
  ⟨(fleet.delegate frame.lane.delegate).closed fleet.surroundings
      (Delegate.exitEvent frame.operation frame.lane frame.depth id ending)
      (traffic.world.onThread frame.lane.thread),
    Function.update traffic.calls frame.lane.thread outer⟩

/-- The traffic after a turn, if the turn is possible: only the innermost call of a thread ends. -/
def take? : Turn σ → Option (Traffic σ)
  | .begin lane operation arguments => some (traffic.begun fleet lane operation arguments)
  | .finish lane ending =>
    match traffic.calls lane.thread with
    | [] => none
    | frame :: outer =>
      if frame.lane = lane then some (traffic.ended fleet frame outer ending) else none
  | .work change =>
    some { traffic with world := { traffic.world with inner := change traffic.world.inner } }

/-- The traffic after several turns. -/
def run? (turns : List (Turn σ)) : Option (Traffic σ) :=
  turns.foldlM (fun reached turn => reached.take? fleet turn) traffic

/-- The open calls of a lane, innermost first. -/
def openCalls (lane : Log.Lane) : List Frame :=
  (traffic.calls lane.thread).filter fun frame => frame.lane = lane

end Traffic

/-- The lane that a kept event belongs to. -/
def Log.Record.lane (record : Log.Record) : Log.Lane :=
  ⟨record.event.thread, record.delegate⟩

/-- The events of a lane that were kept, oldest first. -/
def Log.Journal.eventsOf (journal : Log.Journal) (lane : Log.Lane) : List Log.Event :=
  (journal.records.filter fun record => record.lane = lane).map Log.Record.event

/-! ## Balanced events -/

/-- The events of complete calls of a lane, one call after another, each one level deeper than the
calls around it: an entry, the events of the calls inside, and one exit of the same operation. -/
inductive Balanced (lane : Log.Lane) : Nat → List Log.Event → Prop where
  | nil (around : Nat) : Balanced lane around []
  | call {around : Nat} {operation : Operation} {moment : Log.Moment} {entry exit : Log.Event}
      {inside others : List Log.Event}
      (entered : entry.mark = operation.mark lane (around + 1) .entry)
      (inner : Balanced lane (around + 1) inside)
      (left : exit.mark = operation.mark lane (around + 1) moment)
      (isExit : moment ≠ .entry)
      (rest : Balanced lane around others) :
      Balanced lane around (entry :: (inside ++ exit :: others))

/-- The events of a lane while calls are open, whose operations are given, innermost first. -/
inductive Unfinished (lane : Log.Lane) : List Operation → List Log.Event → Prop where
  | none {events : List Log.Event} (complete : Balanced lane 0 events) : Unfinished lane [] events
  | inside {operation : Operation} {outer : List Operation} {entry : Log.Event}
      {before events : List Log.Event} (around : Unfinished lane outer before)
      (entered : entry.mark = operation.mark lane (outer.length + 1) .entry)
      (complete : Balanced lane (outer.length + 1) events) :
      Unfinished lane (operation :: outer) (before ++ entry :: events)

namespace Balanced

variable {lane : Log.Lane} {around : Nat} {front back : List Log.Event}

theorem append (first : Balanced lane around front) (second : Balanced lane around back) :
    Balanced lane around (front ++ back) := by
  induction first with
  | nil => exact second
  | call entered inner left isExit _ _ restHypothesis =>
      have joined := Balanced.call entered inner left isExit (restHypothesis second)
      simpa using joined

end Balanced

namespace Unfinished

variable {lane : Log.Lane} {outer : List Operation} {before : List Log.Event}

theorem append
    {events : List Log.Event} (unfinished : Unfinished lane outer before)
    (complete : Balanced lane outer.length events) :
    Unfinished lane outer (before ++ events) := by
  cases unfinished with
  | none first => exact .none (first.append complete)
  | inside around entered first =>
      rw [List.append_assoc, List.cons_append]
      exact .inside around entered (first.append complete)

theorem enter
    {operation : Operation} {entry : Log.Event} (unfinished : Unfinished lane outer before)
    (entered : entry.mark = operation.mark lane (outer.length + 1) .entry) :
    Unfinished lane (operation :: outer) (before ++ [entry]) :=
  .inside unfinished entered (.nil _)

theorem leave
    {operation : Operation} {moment : Log.Moment} {exit : Log.Event}
    (unfinished : Unfinished lane (operation :: outer) before)
    (left : exit.mark = operation.mark lane (outer.length + 1) moment)
    (isExit : moment ≠ .entry) :
    Unfinished lane outer (before ++ [exit]) := by
  cases unfinished with
  | inside around entered complete =>
      have wholeCall := Balanced.call entered complete left isExit (.nil outer.length)
      have joined := around.append wholeCall
      simpa using joined

end Unfinished

/-! ## One lane on its own -/

/-- A lane that nobody else is seen beside: its open operations, innermost first, and its events. -/
structure Solo where
  operations : List Operation
  events : List Log.Event

namespace Solo

variable (fleet : Fleet) (lane : Log.Lane)

def start : Solo :=
  ⟨[], []⟩

def next (solo : Solo) : Turn σ → Solo
  | .begin _ operation arguments =>
    ⟨operation :: solo.operations,
      solo.events ++ [(fleet.delegate lane.delegate).entryEvent fleet.surroundings operation lane
        (solo.operations.length + 1) arguments]⟩
  | .finish _ ending =>
    match solo.operations with
    | [] => solo
    | operation :: outer =>
      ⟨outer, solo.events ++ [Delegate.exitEvent operation lane (outer.length + 1) id ending]⟩
  | .work _ => solo

/-- The frames of open calls with the given operations. -/
def frames : List Operation → List Frame
  | [] => []
  | operation :: outer => ⟨lane, operation, outer.length + 1⟩ :: frames outer

@[simp]
theorem map_operation_frames (operations : List Operation) :
    (frames lane operations).map Frame.operation = operations := by
  induction operations with
  | nil => rfl
  | cons operation outer inductionHypothesis =>
      simp [frames, inductionHypothesis]

@[simp]
theorem length_frames (operations : List Operation) :
    (frames lane operations).length = operations.length := by
  rw [← List.length_map Frame.operation, map_operation_frames]

end Solo

/-! ## Recording on a lane -/

namespace Log.Journal

variable (journal : Journal) (surroundings : Surroundings) (sink : Sink)

theorem eventsOf_record_self
    {lane : Lane} {event : Event} (own : event.thread = lane.thread) :
    (journal.record surroundings lane.delegate sink event).eventsOf lane =
      journal.eventsOf lane ++ [event].filter fun event => sink.keeps event.level := by
  have sameLane : Record.lane ⟨lane.delegate, event⟩ = lane := by
    rw [Record.lane, own]
  unfold eventsOf
  rw [records_record]
  by_cases kept : sink.keeps event.level = true
  · simp [kept, sameLane]
  · simp [kept]

theorem eventsOf_record_of_ne
    {lane other : Lane} {event : Event} (own : event.thread = lane.thread)
    (different : other ≠ lane) :
    (journal.record surroundings lane.delegate sink event).eventsOf other =
      journal.eventsOf other := by
  have otherLane : Record.lane ⟨lane.delegate, event⟩ ≠ other := by
    rw [Record.lane, own]
    exact different.symm
  unfold eventsOf
  rw [records_record]
  by_cases kept : sink.keeps event.level = true
  · simp [kept, otherLane]
  · simp [kept]

end Log.Journal

/-! ## The traffic of one lane -/

/-- Whatever concerns the lane is as if the lane were on its own. -/
structure Mirrors (fleet : Fleet) (traffic : Traffic σ) (lane : Log.Lane) (solo : Solo) : Prop where
  openCalls : traffic.openCalls lane = Solo.frames lane solo.operations
  depth : traffic.world.journal.depths.find? lane =
    if solo.operations.length = 0 then none else some solo.operations.length
  events : traffic.world.journal.eventsOf lane =
    solo.events.filter fun event => (fleet.sink lane.delegate).keeps event.level
  nested : Unfinished lane solo.operations solo.events

namespace Mirrors

variable {fleet : Fleet} {traffic : Traffic σ} {lane other : Log.Lane} {solo : Solo}

theorem start (inner : σ) : Mirrors fleet (.start inner) lane .start :=
  ⟨rfl, rfl, rfl, .none (.nil 0)⟩

theorem count (mirrors : Mirrors fleet traffic lane solo) :
    traffic.world.journal.depths.count lane = solo.operations.length := by
  rw [Log.Depths.count, mirrors.depth]
  split
  · rename_i noneOpen
    exact noneOpen.symm
  · rfl

/-- A lane does not notice what leaves its calls, its count and its events alone. -/
theorem of_eq
    {next : Traffic σ} (mirrors : Mirrors fleet traffic lane solo)
    (openCalls : next.openCalls lane = traffic.openCalls lane)
    (depth : next.world.journal.depths.find? lane = traffic.world.journal.depths.find? lane)
    (events : next.world.journal.eventsOf lane = traffic.world.journal.eventsOf lane) :
    Mirrors fleet next lane solo :=
  ⟨openCalls.trans mirrors.openCalls, depth.trans mirrors.depth, events.trans mirrors.events,
    mirrors.nested⟩

/-! ### A call begins -/

theorem begun
    (mirrors : Mirrors fleet traffic lane solo) (operation : Operation)
    (arguments : List String) :
    Mirrors fleet (traffic.begun fleet lane operation arguments) lane
      (solo.next fleet lane (.begin lane operation arguments : Turn σ)) := by
  have count : (traffic.world.onThread lane.thread).journal.depth lane.delegate =
      solo.operations.length := mirrors.count
  refine ⟨?_, ?_, ?_, ?_⟩
  · have calls := mirrors.openCalls
    simp only [Traffic.openCalls] at calls
    simp [Traffic.openCalls, Traffic.begun, Solo.next, Solo.frames, count, calls]
  · have entered := @Log.Depths.find?_enter_self traffic.world.journal.depths lane
    rw [mirrors.count] at entered
    simp only [Traffic.begun, Delegate.depths_opened, Solo.next, List.length_cons]
    exact entered
  · simp only [Traffic.begun, Solo.next, List.filter_append, ← mirrors.events, ← count]
    exact Log.Journal.eventsOf_record_self _ _ _ rfl
  · exact mirrors.nested.enter rfl

theorem begun_of_ne
    (mirrors : Mirrors fleet traffic other solo) (different : other ≠ lane)
    (operation : Operation) (arguments : List String) :
    Mirrors fleet (traffic.begun fleet lane operation arguments) other solo := by
  refine mirrors.of_eq ?_ ?_ ?_
  · by_cases sameThread : other.thread = lane.thread
    · simp [Traffic.openCalls, Traffic.begun, sameThread, different.symm]
    · simp [Traffic.openCalls, Traffic.begun, sameThread]
  · simp only [Traffic.begun, Delegate.depths_opened]
    exact Log.Depths.find?_enter_of_ne _ different
  · exact Log.Journal.eventsOf_record_of_ne _ _ _ rfl different

/-! ### A call ends -/

theorem ended
    {frame : Frame} {outer : List Frame} (mirrors : Mirrors fleet traffic lane solo)
    (innermost : traffic.calls lane.thread = frame :: outer) (own : frame.lane = lane)
    (ending : Ending String) :
    Mirrors fleet (traffic.ended fleet frame outer ending) lane
      (solo.next fleet lane (.finish lane ending : Turn σ)) := by
  have calls := mirrors.openCalls
  simp only [Traffic.openCalls, innermost] at calls
  cases shape : solo.operations with
  | nil =>
      -- The innermost call is one of the lane, so the lane has an open call.
      simp [shape, own, Solo.frames] at calls
  | cons operation operations =>
      simp only [shape, own, decide_true, List.filter_cons_of_pos, Solo.frames,
        List.cons.injEq] at calls
      obtain ⟨rfl, others⟩ := calls
      have count : traffic.world.journal.depths.count lane = operations.length + 1 := by
        rw [mirrors.count, shape, List.length_cons]
      let exit :=
        Delegate.exitEvent operation lane (operations.length + 1) (id : String → String) ending
      have exitMark : exit.mark =
          operation.mark lane (operations.length + 1) (ending.moment operation) :=
        Delegate.mark_exitEvent operation lane (operations.length + 1) id ending
      have exitThread : exit.thread = lane.thread :=
        Delegate.thread_exitEvent operation lane (operations.length + 1) id ending
      have soloNext :
          solo.next fleet lane (.finish lane ending : Turn σ) =
            ⟨operations, solo.events ++ [exit]⟩ := by
        simp only [Solo.next, shape]
        rfl
      rw [soloNext]
      refine ⟨?_, ?_, ?_, ?_⟩
      · simp [Traffic.openCalls, Traffic.ended, others]
      · have left := @Log.Depths.find?_leave_self traffic.world.journal.depths lane
        rw [count] at left
        simp only [Traffic.ended, Delegate.depths_closed]
        refine left.trans ?_
        cases operations with
        | nil => rfl
        | cons => simp
      · simp only [List.filter_append, ← mirrors.events]
        exact Log.Journal.eventsOf_record_self _ _ _ exitThread
      · have nested := mirrors.nested
        rw [shape] at nested
        exact nested.leave exitMark (ending.moment_ne_entry operation)

theorem ended_of_ne
    {frame : Frame} {outer : List Frame} (mirrors : Mirrors fleet traffic other solo)
    (innermost : traffic.calls frame.lane.thread = frame :: outer)
    (different : other ≠ frame.lane) (ending : Ending String) :
    Mirrors fleet (traffic.ended fleet frame outer ending) other solo := by
  refine mirrors.of_eq ?_ ?_ ?_
  · by_cases sameThread : other.thread = frame.lane.thread
    · simp [Traffic.openCalls, Traffic.ended, sameThread, innermost, different.symm]
    · simp [Traffic.openCalls, Traffic.ended, sameThread]
  · simp only [Traffic.ended, Delegate.depths_closed]
    exact Log.Depths.find?_leave_of_ne _ different
  · have exitThread :=
      Delegate.thread_exitEvent frame.operation frame.lane frame.depth id ending
    exact Log.Journal.eventsOf_record_of_ne _ _ _ exitThread different

/-! ### Turns and runs -/

theorem take?
    {turn : Turn σ} {next : Traffic σ} (mirrors : Mirrors fleet traffic lane solo)
    (taken : traffic.take? fleet turn = some next) :
    Mirrors fleet next lane (if turn.isOn lane then solo.next fleet lane turn else solo) := by
  cases turn with
  | begin own operation arguments =>
      obtain rfl := Option.some.inj taken
      by_cases same : own = lane
      · subst same
        simpa [Turn.isOn] using mirrors.begun operation arguments
      · simpa [Turn.isOn, same] using mirrors.begun_of_ne (Ne.symm same) operation arguments
  | finish own ending =>
      simp only [Traffic.take?] at taken
      cases innermost : traffic.calls own.thread with
      | nil => simp [innermost] at taken
      | cons frame outer =>
          by_cases belongs : frame.lane = own
          · subst belongs
            simp only [innermost, if_true, Option.some.injEq] at taken
            subst taken
            by_cases same : frame.lane = lane
            · subst same
              simpa [Turn.isOn] using mirrors.ended innermost rfl ending
            · simpa [Turn.isOn, same] using
                mirrors.ended_of_ne innermost (Ne.symm same) ending
          · simp [innermost, belongs] at taken
  | work change =>
      obtain rfl := Option.some.inj taken
      exact mirrors.of_eq rfl rfl rfl

/-- After a run, all that concerns a lane is as after the replay of the turns on that lane. -/
theorem run?
    {turns : List (Turn σ)} {reached : Traffic σ} (mirrors : Mirrors fleet traffic lane solo)
    (run : traffic.run? fleet turns = some reached) :
    Mirrors fleet reached lane ((turns.filter (Turn.isOn lane)).foldl (Solo.next fleet lane) solo) := by
  induction turns generalizing traffic solo with
  | nil =>
      obtain rfl := Option.some.inj run
      exact mirrors
  | cons turn others inductionHypothesis =>
      simp only [Traffic.run?, List.foldlM_cons, Option.bind_eq_bind,
        Option.bind_eq_some_iff] at run
      obtain ⟨next, taken, rest⟩ := run
      have reachedLater := inductionHypothesis (mirrors.take? taken) rest
      by_cases on : turn.isOn lane = true
      · simpa [on] using reachedLater
      · simpa [on] using reachedLater

end Mirrors

/-! ## What delegates do is traffic -/

namespace Traffic

variable {fleet : Fleet} {α : Type}

/-- An activity that nobody interrupts does what some turns of the running thread do, and ends every
call that it begins. -/
structure Performs (fleet : Fleet) (activity : Activity σ α) (turns : List (Turn σ))
    (before after : Traffic σ) : Prop where
  run : before.run? fleet turns = some after
  world : after.world = (activity before.world).2
  calls : after.calls = before.calls
  thread : after.world.journal.thread = before.world.journal.thread

theorem run?_append
    {first second : List (Turn σ)} {before middle : Traffic σ}
    (reached : before.run? fleet first = some middle) :
    before.run? fleet (first ++ second) = middle.run? fleet second := by
  unfold run? at reached ⊢
  rw [List.foldlM_append, reached]
  rfl

/-- A call through a delegate begins, whatever is inside takes its turns, and the call ends. -/
theorem performs_intercept
    {number : Nat} {operation : Operation} {arguments : σ → List String}
    {answerText : σ → α → String} {body : Activity σ α} {turns : List (Turn σ)}
    {before middle : Traffic σ}
    (inside :
      let lane := before.world.journal.lane number
      Performs fleet body turns
        (before.begun fleet lane operation (arguments before.world.inner)) middle) :
    let lane := before.world.journal.lane number
    let begun := before.begun fleet lane operation (arguments before.world.inner)
    let served := body begun.world
    ∃ after, Performs fleet
      ((fleet.delegate number).intercept fleet.surroundings operation arguments answerText body)
      (.begin lane operation (arguments before.world.inner) ::
        (turns ++ [.finish lane (served.1.map (answerText served.2.inner))]))
      before after := by
  intro lane begun served
  let frame : Frame := ⟨lane, operation, before.world.journal.depth number + 1⟩
  let outer := before.calls lane.thread
  let ending := served.1.map (answerText served.2.inner)
  have begunCalls : begun.calls = Function.update before.calls lane.thread (frame :: outer) := rfl
  have middleCalls : middle.calls = begun.calls := inside.calls
  have innermost : middle.calls lane.thread = frame :: outer := by
    rw [middleCalls, begunCalls, Function.update_self]
  have middleThread : middle.world.journal.thread = lane.thread := by
    rw [inside.thread]
    exact Delegate.thread_opened _ _ _ _ _
  have sameThread : middle.world.onThread lane.thread = served.2 := by
    rw [← middleThread]
    exact inside.world
  refine ⟨middle.ended fleet frame outer ending, ?_, ?_, ?_, ?_⟩
  · have begin_ : before.run? fleet
        [.begin lane operation (arguments before.world.inner)] = some begun := rfl
    have finish :
        middle.run? fleet [.finish lane ending] =
          some (middle.ended fleet frame outer ending) := by
      simp only [run?, List.foldlM_cons, List.foldlM_nil, take?, innermost, frame, if_true]
      rfl
    rw [← List.singleton_append, run?_append begin_, run?_append inside.run, finish]
  · rw [Delegate.intercept_eq]
    have sameExit :
        Delegate.exitEvent operation lane (before.world.journal.depth number + 1) id
            (served.1.map (answerText served.2.inner)) =
          Delegate.exitEvent operation lane (before.world.journal.depth number + 1)
            (answerText served.2.inner) served.1 :=
      Delegate.exitEvent_map operation lane _ _ (fun _ => rfl) served.1
    simp only [Traffic.ended, frame, sameThread, ending, sameExit]
    rfl
  · have endedCalls :
        (middle.ended fleet frame outer ending).calls =
          Function.update middle.calls lane.thread outer := rfl
    rw [endedCalls, middleCalls, begunCalls, Function.update_idem]
    exact Function.update_eq_self lane.thread before.calls
  · exact Delegate.thread_closed _ _ _ _

end Traffic

/-- **Threads and delegates count and log apart.** Let threads make calls through the delegates of a
fleet, each thread ending its own calls in the reverse order in which they began, in any order of
turns and with any endings. At every moment the depth that is stored for a thread and a delegate is
the number of calls that the thread has open through the delegate, and nothing is stored when there
are none. If the sink of the delegate keeps everything, then the events of the thread and the
delegate are balanced but for the open calls, and balanced from depth one on if there are none.
Whatever the other threads and delegates do in between, the events are the same. And a call through
a delegate is such traffic: it begins, what is inside takes its turns, and it ends. -/
theorem lanes_count_and_log_apart
    (fleet : Fleet) (inner : σ) (turns : List (Turn σ)) (reached : Traffic σ)
    (run : (Traffic.start inner).run? fleet turns = some reached) :
    (∀ lane : Log.Lane,
      let openCalls := reached.openCalls lane
      let events := reached.world.journal.eventsOf lane
      reached.world.journal.depths.find? lane =
          (if openCalls.length = 0 then none else some openCalls.length) ∧
        ((∀ level, (fleet.sink lane.delegate).keeps level = true) →
          Unfinished lane (openCalls.map Frame.operation) events ∧
            (openCalls = [] → Balanced lane 0 events)) ∧
        ∀ (otherInner : σ) (otherTurns : List (Turn σ)) (other : Traffic σ),
          (Traffic.start otherInner).run? fleet otherTurns = some other →
          otherTurns.filter (Turn.isOn lane) = turns.filter (Turn.isOn lane) →
            other.world.journal.eventsOf lane = events) ∧
    ∀ (α : Type) (number : Nat) (operation : Operation) (arguments : σ → List String)
      (answerText : σ → α → String) (body : Activity σ α) (inside : List (Turn σ))
      (before middle : Traffic σ),
      let lane := before.world.journal.lane number
      let begun := before.begun fleet lane operation (arguments before.world.inner)
      let served := body begun.world
      Traffic.Performs fleet body inside begun middle →
        ∃ after, Traffic.Performs fleet
          ((fleet.delegate number).intercept fleet.surroundings operation arguments answerText
            body)
          (.begin lane operation (arguments before.world.inner) ::
            (inside ++ [.finish lane (served.1.map (answerText served.2.inner))]))
          before after := by
  refine ⟨?_, fun _ _ _ _ _ _ _ _ _ => Traffic.performs_intercept⟩
  intro lane openCalls events
  have mirrors : Mirrors fleet reached lane _ := (Mirrors.start inner).run? run
  have operations : openCalls.map Frame.operation = _ :=
    (congrArg (List.map Frame.operation) mirrors.openCalls).trans
      (Solo.map_operation_frames lane _)
  have count := congrArg List.length mirrors.openCalls
  rw [Solo.length_frames] at count
  refine ⟨?_, ?_, ?_⟩
  · rw [mirrors.depth, ← count]
  · intro keepsAll
    have all : events = _ := mirrors.events.trans (List.filter_eq_self.2 fun _ _ => keepsAll _)
    have nested : Unfinished lane (openCalls.map Frame.operation) events := by
      rw [operations, all]
      exact mirrors.nested
    refine ⟨nested, fun noneOpen => ?_⟩
    rw [noneOpen] at nested
    cases nested with
    | none complete => exact complete
  · intro otherInner otherTurns other otherRun sameTurns
    have otherMirrors : Mirrors fleet other lane _ := (Mirrors.start otherInner).run? otherRun
    rw [otherMirrors.events, sameTurns]
    exact mirrors.events.symm

/-- Two threads and two delegates, the second one called from inside the first. The other thread has
ended its call by a panic; the first one still has three calls open, two of them through the first
delegate. -/
def crossingTurns : List (Turn Unit) :=
  [.begin ⟨1, 7⟩ Call.getPackageGroups.operation [],
    .begin ⟨2, 7⟩ Call.flush.operation [],
    .begin ⟨1, 8⟩ Call.getPackageGroups.operation [],
    .begin ⟨1, 7⟩ Call.close.operation [],
    .finish ⟨2, 7⟩ (.panicked "gone"),
    .finish ⟨1, 7⟩ (.failed (.of .closed)),
    .work id,
    .begin ⟨1, 7⟩ Call.effectiveRelease.operation []]

theorem lanes_count_and_log_apart_crossing :
    let fleet : Fleet := ⟨⟨none, []⟩, fun _ => false, fun _ => .memory .trace⟩
    ∃ reached : Traffic Unit,
      (Traffic.start ()).run? fleet crossingTurns = some reached ∧
        reached.world.journal.depths.find? ⟨1, 7⟩ = some 2 ∧
        reached.world.journal.depths.find? ⟨1, 8⟩ = some 1 ∧
        reached.world.journal.depths.find? ⟨2, 7⟩ = none ∧
        (reached.world.journal.eventsOf ⟨1, 7⟩).map Log.Event.mark =
          [⟨.entry, 1, 1, "get_package_container_groups", "", "Vec<PackageContainerGroup>"⟩,
            ⟨.entry, 1, 2, "close", "", "()"⟩,
            ⟨.failed, 1, 2, "close", "", "()"⟩,
            ⟨.entry, 1, 2, "effective_release", "", "String"⟩] ∧
        (reached.world.journal.eventsOf ⟨1, 8⟩).map Log.Event.mark =
          [⟨.entry, 1, 1, "get_package_container_groups", "", "Vec<PackageContainerGroup>"⟩] ∧
        (reached.world.journal.eventsOf ⟨2, 7⟩).map Log.Event.mark =
          [⟨.entry, 2, 1, "flush", "", "()"⟩, ⟨.failed, 2, 1, "flush", "", "()"⟩] ∧
        Balanced ⟨2, 7⟩ 0 (reached.world.journal.eventsOf ⟨2, 7⟩) := by
  intro fleet
  have possible : ((Traffic.start ()).run? fleet crossingTurns).isSome = true := rfl
  let reached := ((Traffic.start ()).run? fleet crossingTurns).get possible
  have run : (Traffic.start ()).run? fleet crossingTurns = some reached :=
    (Option.some_get possible).symm
  have lanes := (lanes_count_and_log_apart fleet () crossingTurns reached run).1
  exact ⟨reached, run, (lanes ⟨1, 7⟩).1, (lanes ⟨1, 8⟩).1, (lanes ⟨2, 7⟩).1, rfl, rfl, rfl,
    ((lanes ⟨2, 7⟩).2.1 Log.Sink.keeps_memory_trace).2 rfl⟩

end CompilationChecks
