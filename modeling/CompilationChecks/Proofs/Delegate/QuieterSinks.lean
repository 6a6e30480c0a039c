import CompilationChecks.Proofs.Delegate.Discretion
import CompilationChecks.Proofs.Delegate.Service

/-!
# A quieter sink hears the louder part

A sink decides about each event on its own, and a delegate counts, answers and passes on without
asking what its sink has kept. So two runs of one service, behind delegates that differ in their
sinks only, go through worlds that match but for what was kept. In such worlds a delegate hands the
same events to its sink, so the limit of the sink cuts the quieter log out of the louder one.
-/

namespace CompilationChecks

variable {σ α : Type}

/-! ## Worlds that differ in their logs -/

/-- The two worlds differ at most in what sinks have kept and the subscriber has seen. -/
structure World.Matches (world other : World σ) : Prop where
  inner : other.inner = world.inner
  thread : other.journal.thread = world.journal.thread
  depths : other.journal.depths = world.journal.depths

namespace World.Matches

variable {world other : World σ}

theorem refl (world : World σ) : world.Matches world :=
  ⟨rfl, rfl, rfl⟩

theorem lane (matched : world.Matches other) (number : Nat) :
    other.journal.lane number = world.journal.lane number := by
  simp only [Log.Journal.lane, matched.thread]

theorem depth (matched : world.Matches other) (number : Nat) :
    other.journal.depth number = world.journal.depth number := by
  simp only [Log.Journal.depth, matched.lane, matched.depths]

end World.Matches

/-- Two runs ended in the same way and left worlds that match. -/
def EndAlike (done other : Ending α × World σ) : Prop :=
  other.1 = done.1 ∧ done.2.Matches other.2

section Pairs

variable {left right : Delegate} {world other : World σ} (sameNumber : right.number = left.number)
  (surroundings otherSurroundings : Log.Surroundings) (shelf : σ → Shelf)

namespace Delegate

include sameNumber in
theorem matches_opened
    (matched : world.Matches other) (operation : Operation) (arguments : List String) :
    (left.opened surroundings operation arguments world).Matches
      (right.opened otherSurroundings operation arguments other) where
  inner := matched.inner
  thread := by rw [thread_opened, thread_opened, matched.thread]
  depths := by rw [depths_opened, depths_opened, sameNumber, matched.lane, matched.depths]

include sameNumber in
theorem matches_closed (matched : world.Matches other) (event otherEvent : Log.Event) :
    (left.closed surroundings event world).Matches
      (right.closed otherSurroundings otherEvent other) where
  inner := matched.inner
  thread := by rw [thread_closed, thread_closed, matched.thread]
  depths := by rw [depths_closed, depths_closed, sameNumber, matched.lane, matched.depths]

include sameNumber in
theorem endAlike_pass
    {call : Call} {body otherBody : Activity σ call.Answer}
    (served : ∀ {begun otherBegun : World σ}, begun.Matches otherBegun →
      EndAlike (body begun) (otherBody otherBegun))
    (matched : world.Matches other) :
    EndAlike (left.pass surroundings shelf call body world)
      (right.pass otherSurroundings shelf call otherBody other) := by
  obtain ⟨sameEnding, matchedAfter⟩ :=
    served (matches_opened sameNumber surroundings otherSurroundings matched call.operation
      (call.arguments (shelf world.inner)))
  rw [pass_eq, pass_eq, matched.inner]
  exact ⟨congrArg Ending.passedOn sameEnding,
    matches_closed sameNumber surroundings otherSurroundings matchedAfter _ _⟩

end Delegate

namespace Service

include sameNumber in
/-- The sinks have no influence on what a service does. -/
theorem endAlike_perform (service : Service σ α) (matched : world.Matches other) :
    EndAlike (service.perform left surroundings shelf world)
      (service.perform right otherSurroundings shelf other) := by
  induction service generalizing world other with
  | finish ending => exact ⟨rfl, matched⟩
  | work change next inductionHypothesis =>
      simp only [perform, matched.inner]
      exact inductionHypothesis _ ⟨rfl, matched.thread, matched.depths⟩
  | countOpen next inductionHypothesis =>
      simp only [perform, sameNumber, matched.depth]
      exact inductionHypothesis _ matched
  | callBack call served next servedHypothesis nextHypothesis =>
      obtain ⟨sameEnding, matchedAfter⟩ :=
        Delegate.endAlike_pass sameNumber surroundings otherSurroundings shelf servedHypothesis
          matched
      simp only [perform, sameEnding]
      exact nextHypothesis _ matchedAfter

include sameNumber in
/-- The sinks have no influence on which calls are made, and where. -/
theorem Makes.match
    {service : Service σ α} {call : Call} {served : Service σ call.Answer} {start : World σ}
    (made : service.Makes left surroundings shelf world call served start)
    (matched : world.Matches other) :
    ∃ otherStart : World σ,
      service.Makes right otherSurroundings shelf other call served otherStart ∧
        start.Matches otherStart := by
  induction made generalizing other with
  | @work _ change _ world _ _ _ _ inductionHypothesis =>
      have matchedAfter :
          World.Matches { world with inner := change world.inner }
            { other with inner := change world.inner } :=
        ⟨rfl, matched.thread, matched.depths⟩
      obtain ⟨otherStart, made, matchedStart⟩ := inductionHypothesis matchedAfter
      refine ⟨otherStart, .work ?_, matchedStart⟩
      rw [matched.inner]
      exact made
  | countOpen _ inductionHypothesis =>
      obtain ⟨otherStart, made, matchedStart⟩ := inductionHypothesis matched
      refine ⟨otherStart, .countOpen ?_, matchedStart⟩
      rw [sameNumber, matched.depth]
      exact made
  | here call served next world => exact ⟨other, .here call served next other, matched⟩
  | @inside _ outer _ _ _ _ world _ _ inductionHypothesis =>
      obtain ⟨otherStart, made, matchedStart⟩ :=
        inductionHypothesis
          (Delegate.matches_opened sameNumber surroundings otherSurroundings matched
            outer.operation (outer.arguments (shelf world.inner)))
      refine ⟨otherStart, .inside ?_, matchedStart⟩
      rw [matched.inner]
      exact made
  | @beyond _ earlier _ earlierServed _ _ _ _ _ inductionHypothesis =>
      obtain ⟨sameEnding, matchedAfter⟩ :=
        Delegate.endAlike_pass sameNumber surroundings otherSurroundings shelf
          (endAlike_perform sameNumber surroundings otherSurroundings shelf earlierServed) matched
      obtain ⟨otherStart, made, matchedStart⟩ := inductionHypothesis matchedAfter
      refine ⟨otherStart, .beyond ?_, matchedStart⟩
      rw [sameEnding]
      exact made

/-- Each call that the service makes behind the left delegate it makes behind the right one as
well, in a world that matches, and its caller sees it end alike. -/
def CallsAlike
    (left right : Delegate) (surroundings otherSurroundings : Log.Surroundings)
    (shelf : σ → Shelf) (service : Service σ α) (world : World σ) : Prop :=
  ∀ (call : Call) (served : Service σ call.Answer) (start : World σ),
    service.Makes left surroundings shelf world call served start →
      ∃ otherStart : World σ,
        service.Makes right otherSurroundings shelf world call served otherStart ∧
          start.Matches otherStart ∧
          EndAlike
            (left.pass surroundings shelf call (served.perform left surroundings shelf) start)
            (right.pass otherSurroundings shelf call (served.perform right otherSurroundings shelf)
              otherStart)

include sameNumber in
theorem callsAlike (service : Service σ α) (world : World σ) :
    service.CallsAlike left right surroundings otherSurroundings shelf world := by
  intro call served start made
  obtain ⟨otherStart, otherMade, matched⟩ :=
    made.match sameNumber surroundings otherSurroundings shelf (.refl world)
  refine ⟨otherStart, otherMade, matched, ?_⟩
  exact Delegate.endAlike_pass sameNumber surroundings otherSurroundings shelf
    (endAlike_perform sameNumber surroundings otherSurroundings shelf served) matched

end Service

end Pairs

/-! ## Events that pass a limit -/

namespace Log

/-- The quieter events are the louder ones that pass a limit, but for texts of stack traces. -/
def Overheard (limit : Level) (quieter louder : List Event) : Prop :=
  quieter.map Event.traceless =
    (louder.filter fun event => event.level.within limit).map Event.traceless

namespace Overheard

variable {limit : Level} {quieter louder otherQuieter otherLouder : List Event}

theorem append
    (first : Overheard limit quieter louder) (second : Overheard limit otherQuieter otherLouder) :
    Overheard limit (quieter ++ otherQuieter) (louder ++ otherLouder) := by
  unfold Overheard at *
  rw [List.map_append, first, second, List.filter_append, List.map_append]

theorem single {event other : Event} (same : event.traceless = other.traceless) :
    Overheard limit (if event.level.within limit then [event] else []) [other] := by
  have sameTraceless : event.traceless.level = other.traceless.level := congrArg Event.level same
  have sameLevel : event.level = other.level := sameTraceless
  unfold Overheard
  rw [sameLevel]
  by_cases kept : other.level.within limit = true
  · simp [kept, same]
  · simp [kept]

end Overheard

/-- The event tells that a call began, or that it was not answered. -/
def Event.isSevere (event : Event) : Bool :=
  event.moment == .entry || event.moment == .failed

theorem Event.level_eq (event : Event) :
    event.level = if event.isSevere then .info else .debug := by
  unfold level isSevere
  cases event.moment <;> rfl

namespace Overheard

variable {limit : Level} {quieter louder : List Event}

/-- Beginnings of calls and failures are all kept if the limit lets them through. -/
theorem severe_eq
    (overheard : Overheard limit quieter louder) (wide : Level.info.within limit = true) :
    (quieter.filter Event.isSevere).map Event.traceless =
      (louder.filter Event.isSevere).map Event.traceless := by
  have passes : ∀ event : Event, event.isSevere = true → event.level.within limit = true := by
    intro event severe
    rw [event.level_eq, severe]
    exact wide
  calc
    (quieter.filter Event.isSevere).map Event.traceless =
        (quieter.map Event.traceless).filter Event.isSevere := by
      rw [List.filter_map]
      rfl
    _ = ((louder.filter fun event => event.level.within limit).map Event.traceless).filter
          Event.isSevere := by rw [overheard]
    _ = ((louder.filter fun event => event.level.within limit).filter Event.isSevere).map
          Event.traceless := by
      rw [List.filter_map]
      rfl
    _ = (louder.filter Event.isSevere).map Event.traceless := by
      rw [List.filter_filter]
      congr 2
      funext event
      by_cases severe : event.isSevere = true
      · simp [severe, passes event severe]
      · simp [severe]

/-- Nothing is kept if the limit does not let beginnings of calls through. -/
theorem eq_nil
    (overheard : Overheard limit quieter louder) (narrow : Level.info.within limit = false) :
    quieter = [] := by
  have blocked : ∀ event : Event, event.level.within limit = false := by
    intro event
    rw [event.level_eq]
    cases limit <;> cases event.isSevere <;> first | rfl | cases narrow
  unfold Overheard at overheard
  simp only [blocked, List.filter_false, List.map_nil, List.map_eq_nil_iff] at overheard
  exact overheard

end Overheard

end Log

/-! ## Two runs, one of them quieter -/

/-- From the first two worlds to the last two both logs have grown by events of one delegate, and
the quieter log has only those that pass the limit. -/
def GrewOverheard
    (number : Nat) (limit : Log.Level) (quiet loud quietAfter loudAfter : World σ) : Prop :=
  ∃ quieter louder : List Log.Event,
    quietAfter.journal.records =
        quiet.journal.records ++ quieter.map (Log.Record.mk number) ∧
      loudAfter.journal.records =
        loud.journal.records ++ louder.map (Log.Record.mk number) ∧
      Log.Overheard limit quieter louder

namespace GrewOverheard

variable {number : Nat} {limit : Log.Level}
  {quiet loud quietThen loudThen quietAfter loudAfter : World σ}

theorem refl : GrewOverheard number limit quiet loud quiet loud :=
  ⟨[], [], (List.append_nil _).symm, (List.append_nil _).symm, rfl⟩

theorem trans
    (first : GrewOverheard number limit quiet loud quietThen loudThen)
    (second : GrewOverheard number limit quietThen loudThen quietAfter loudAfter) :
    GrewOverheard number limit quiet loud quietAfter loudAfter := by
  obtain ⟨quieter, louder, quietRecords, loudRecords, overheard⟩ := first
  obtain ⟨otherQuieter, otherLouder, quietRest, loudRest, overheardRest⟩ := second
  refine ⟨quieter ++ otherQuieter, louder ++ otherLouder, ?_, ?_, overheard.append overheardRest⟩
  · rw [quietRest, quietRecords, List.map_append, List.append_assoc]
  · rw [loudRest, loudRecords, List.map_append, List.append_assoc]

/-- Each of the two delegates hands one event to its sink. -/
theorem single
    {event other : Log.Event} (same : event.traceless = other.traceless)
    (quietRecords :
      quietAfter.journal.records =
        quiet.journal.records ++
          if (Log.Sink.memory limit).keeps event.level then [⟨number, event⟩] else [])
    (loudRecords :
      loudAfter.journal.records =
        loud.journal.records ++
          if (Log.Sink.memory .trace).keeps other.level then [⟨number, other⟩] else []) :
    GrewOverheard number limit quiet loud quietAfter loudAfter := by
  refine ⟨if event.level.within limit then [event] else [], [other], ?_, ?_, .single same⟩
  · rw [quietRecords, apply_ite (List.map (Log.Record.mk number))]
    rfl
  · rw [loudRecords, Log.Sink.keeps_memory_trace, if_pos rfl]
    rfl

end GrewOverheard

namespace Delegate

/-- The delegate with a number that keeps the events within a limit in memory. -/
def recordingWithin (number : Nat) (stackTraces : Bool) (limit : Log.Level) : Delegate :=
  ⟨number, stackTraces, .memory limit⟩

variable {number : Nat} {stackTraces : Bool} {limit : Log.Level} {world other : World σ}
  (surroundings otherSurroundings : Log.Surroundings) (shelf : σ → Shelf)

theorem traceless_entryEvent_eq
    (operation : Operation) (lane : Log.Lane) (depth : Nat) (arguments : List String) :
    ((recordingWithin number stackTraces limit).entryEvent surroundings operation lane depth
        arguments).traceless =
      ((recordingWithin number stackTraces .trace).entryEvent otherSurroundings operation lane depth
        arguments).traceless := by
  rw [traceless_entryEvent, traceless_entryEvent]
  rfl

theorem grewOverheard_pass
    (matched : world.Matches other) {call : Call} {body otherBody : Activity σ call.Answer}
    (served : ∀ {begun otherBegun : World σ}, begun.Matches otherBegun →
      EndAlike (body begun) (otherBody otherBegun) ∧
        GrewOverheard number limit begun otherBegun (body begun).2 (otherBody otherBegun).2) :
    GrewOverheard number limit world other
      ((recordingWithin number stackTraces limit).pass surroundings shelf call body world).2
      ((recordingWithin number stackTraces .trace).pass otherSurroundings shelf call otherBody
        other).2 := by
  let quiet := recordingWithin number stackTraces limit
  let loud := recordingWithin number stackTraces .trace
  have sameNumber : loud.number = quiet.number := rfl
  let arguments := call.arguments (shelf world.inner)
  let begun := quiet.opened surroundings call.operation arguments world
  let otherBegun := loud.opened otherSurroundings call.operation arguments other
  have matchedBegun : begun.Matches otherBegun :=
    matches_opened sameNumber surroundings otherSurroundings matched call.operation arguments
  let done := body begun
  let otherDone := otherBody otherBegun
  let exit :=
    exitEvent call.operation (world.journal.lane number) (world.journal.depth number + 1)
      (call.answerText (shelf done.2.inner)) done.1
  let otherExit :=
    exitEvent call.operation (other.journal.lane number) (other.journal.depth number + 1)
      (call.answerText (shelf otherDone.2.inner)) otherDone.1
  obtain ⟨⟨sameEnding, matchedAfter⟩, grew⟩ := served matchedBegun
  have sameExit : exit = otherExit := by
    simp only [exit, otherExit, matched.lane, matched.depth]
    rw [sameEnding, matchedAfter.inner]
  have passed :
      quiet.pass surroundings shelf call body world =
        (done.1.passedOn, quiet.closed surroundings exit done.2) :=
    quiet.pass_eq surroundings shelf call body world
  have otherPassed :
      loud.pass otherSurroundings shelf call otherBody other =
        (otherDone.1.passedOn, loud.closed otherSurroundings otherExit otherDone.2) := by
    rw [pass_eq, matched.inner]
    rfl
  -- Both logs grow in three steps: by an entry, by what serves the call, and by an exit.
  have opening : GrewOverheard number limit world other begun otherBegun := by
    refine .single ?_ (quiet.records_opened surroundings world call.operation arguments)
      (loud.records_opened otherSurroundings other call.operation arguments)
    rw [matched.lane, matched.depth]
    exact traceless_entryEvent_eq surroundings otherSurroundings call.operation _ _ arguments
  have closing :
      GrewOverheard number limit done.2 otherDone.2 (quiet.closed surroundings exit done.2)
        (loud.closed otherSurroundings otherExit otherDone.2) :=
    .single (congrArg Log.Event.traceless sameExit)
      (quiet.records_closed surroundings done.2 exit)
      (loud.records_closed otherSurroundings otherDone.2 otherExit)
  rw [passed, otherPassed]
  exact (opening.trans grew).trans closing

end Delegate

namespace Service

/-- The quieter run of a service logs the part of the louder one that passes its limit. -/
theorem grewOverheard_perform
    {number : Nat} {stackTraces : Bool} {limit : Log.Level}
    (surroundings otherSurroundings : Log.Surroundings) (shelf : σ → Shelf) (service : Service σ α)
    {world other : World σ} (matched : world.Matches other) :
    GrewOverheard number limit world other
      (service.perform (.recordingWithin number stackTraces limit) surroundings shelf world).2
      (service.perform (.recordingWithin number stackTraces .trace) otherSurroundings shelf
        other).2 := by
  induction service generalizing world other with
  | finish ending => exact .refl
  | work change next inductionHypothesis =>
      have matchedAfter :
          World.Matches { world with inner := change world.inner }
            { other with inner := change world.inner } :=
        ⟨rfl, matched.thread, matched.depths⟩
      simp only [perform, matched.inner]
      exact inductionHypothesis _ matchedAfter
  | countOpen next inductionHypothesis =>
      have sameDepth := matched.depth number
      simp only [perform, Delegate.recordingWithin, sameDepth]
      exact inductionHypothesis _ matched
  | callBack call served next servedHypothesis nextHypothesis =>
      let quiet := Delegate.recordingWithin number stackTraces limit
      let loud := Delegate.recordingWithin number stackTraces .trace
      have sameNumber : loud.number = quiet.number := rfl
      have alike {begun otherBegun : World σ} (matchedBegun : begun.Matches otherBegun) :
          EndAlike (served.perform quiet surroundings shelf begun)
            (served.perform loud otherSurroundings shelf otherBegun) :=
        endAlike_perform sameNumber surroundings otherSurroundings shelf served matchedBegun
      obtain ⟨sameEnding, matchedAfter⟩ :=
        Delegate.endAlike_pass sameNumber surroundings otherSurroundings shelf alike matched
      have called :
          GrewOverheard number limit world other
            (quiet.pass surroundings shelf call (served.perform quiet surroundings shelf) world).2
            (loud.pass otherSurroundings shelf call (served.perform loud otherSurroundings shelf)
              other).2 :=
        Delegate.grewOverheard_pass surroundings otherSurroundings shelf matched
          fun matchedBegun => ⟨alike matchedBegun, servedHypothesis matchedBegun⟩
      refine called.trans ?_
      simp only [perform]
      rw [sameEnding]
      exact nextHypothesis _ matchedAfter

end Service

/-- **A quieter sink hears the louder part.** Let the same service be performed behind two delegates
that keep events in memory, one of them up to a limit and the other one up to the last level. What
the first one keeps is what the second one keeps, less the events that do not pass the limit: in the
same order, and equal but for the texts of stack traces. Entries and failures are kept all together
or, with everything else, not at all. Both runs end in the same way, by an answer, a failure or a
panic, and leave the same state and the same counts; and each call on the way is made in both runs
from the same state, and ends in both as the caller sees it in the same way. -/
theorem quieter_log_is_louder_part
    (number : Nat) (stackTraces : Bool) (limit : Log.Level)
    (surroundings otherSurroundings : Log.Surroundings) (shelf : σ → Shelf) (service : Service σ α)
    (world : World σ) :
    let quiet := Delegate.recordingWithin number stackTraces limit
    let loud := Delegate.recordingWithin number stackTraces .trace
    let quietRun := service.perform quiet surroundings shelf world
    let loudRun := service.perform loud otherSurroundings shelf world
    (∃ quieter louder : List Log.Event,
      quietRun.2.journal.records =
          world.journal.records ++ quieter.map (Log.Record.mk number) ∧
        loudRun.2.journal.records =
          world.journal.records ++ louder.map (Log.Record.mk number) ∧
        Log.Overheard limit quieter louder ∧
        if Log.Level.info.within limit then
          (quieter.filter Log.Event.isSevere).map Log.Event.traceless =
            (louder.filter Log.Event.isSevere).map Log.Event.traceless
        else quieter = []) ∧
      EndAlike quietRun loudRun ∧
      service.CallsAlike quiet loud surroundings otherSurroundings shelf world ∧
      service.CallsAlike loud quiet otherSurroundings surroundings shelf world := by
  intro quiet loud quietRun loudRun
  have sameNumber : loud.number = quiet.number := rfl
  refine ⟨?_, ?_, ?_, ?_⟩
  · obtain ⟨quieter, louder, quietRecords, loudRecords, overheard⟩ :=
      service.grewOverheard_perform surroundings otherSurroundings shelf (.refl world)
    refine ⟨quieter, louder, quietRecords, loudRecords, overheard, ?_⟩
    by_cases wide : Log.Level.info.within limit = true
    · rw [if_pos wide]
      exact overheard.severe_eq wide
    · rw [if_neg wide]
      exact overheard.eq_nil (Bool.eq_false_iff.2 wide)
  · exact service.endAlike_perform sameNumber surroundings otherSurroundings shelf (.refl world)
  · exact service.callsAlike sameNumber surroundings otherSurroundings shelf world
  · exact service.callsAlike sameNumber.symm otherSurroundings surroundings shelf world

/-- The ordinary end of a call is all that a limit of `info` drops. -/
example :
    let closing : Service Unit Unit :=
      .callBack .close (.finish (.panicked "")) fun _ => .finish (.returned ())
    let service : Service Unit Unit := .callBack .flush closing .finish
    let moments := fun limit =>
      (service.perform (.recordingWithin 0 false limit) ⟨none, []⟩ (fun _ => .empty)
        ⟨.start, ()⟩).2.journal.records.map fun record => record.event.moment
    moments .trace = [.entry, .entry, .failed, .completed] ∧
      moments .info = [.entry, .entry, .failed] ∧ moments .warn = [] := by
  decide

end CompilationChecks
