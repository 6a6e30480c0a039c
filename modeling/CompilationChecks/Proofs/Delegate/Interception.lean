import CompilationChecks.Delegate
import CompilationChecks.Proofs.Tables

/-!
# What a delegate does around a call

A delegate handles a call in three parts: it opens the call, it lets an activity do the work, and
it closes the call with an event that depends only on how the activity ended. `intercept_eq` says
so in one equation for all endings; everything else about delegates follows from it and from what
opening and closing do to the world.
-/

namespace CompilationChecks

/-- The ending as the caller of a delegate gets it: a failure is unwrapped by one step. -/
def Ending.passedOn {α : Type} : Ending α → Ending α
  | .returned value => .returned value
  | .failed failure => .failed failure.unwrap
  | .panicked text => .panicked text

/-! ## Counting open calls -/

namespace Log.Depths

variable (depths : Depths) {lane other : Lane}

theorem find?_enter_self :
    (depths.enter lane).find? lane = some (depths.count lane + 1) :=
  SortedTable.find?_update_self _ _ _

theorem find?_enter_of_ne (different : other ≠ lane) :
    (depths.enter lane).find? other = depths.find? other :=
  SortedTable.find?_update_of_ne depths _ different

theorem find?_leave_self :
    (depths.leave lane).find? lane =
      if depths.count lane ≤ 1 then none else some (depths.count lane - 1) := by
  unfold leave count
  cases stored : depths.find? lane with
  | none => simp [stored]
  | some open_ =>
      by_cases last : open_ ≤ 1
      · simp [last]
      · simp [last]

theorem find?_leave_of_ne (different : other ≠ lane) :
    (depths.leave lane).find? other = depths.find? other := by
  unfold leave
  cases depths.find? lane with
  | none => rfl
  | some open_ =>
      by_cases last : open_ ≤ 1
      · simp only [last, if_true]
        exact SortedTable.find?_erase_of_ne depths different
      · simp only [last, if_false]
        exact SortedTable.find?_insert_of_ne depths _ different

theorem count_enter_self : (depths.enter lane).count lane = depths.count lane + 1 := by
  rw [count, find?_enter_self, Option.getD_some]

theorem count_enter_of_ne (different : other ≠ lane) :
    (depths.enter lane).count other = depths.count other := by
  rw [count, find?_enter_of_ne depths different, count]

theorem count_leave_self : (depths.leave lane).count lane = depths.count lane - 1 := by
  rw [count, find?_leave_self]
  split
  · rename_i last
    rw [Option.getD_none]
    omega
  · rfl

theorem count_leave_of_ne (different : other ≠ lane) :
    (depths.leave lane).count other = depths.count other := by
  rw [count, find?_leave_of_ne depths different, count]

end Log.Depths

/-! ## Recording -/

/-- Whether a sink keeps events of a level, to be read back later. -/
def Log.Sink.keeps : Log.Sink → Log.Level → Bool
  | .memory limit, level => level.within limit
  | .lines limit, level => level.within limit
  | .broken _, _ => false
  | .subscriber, _ => false

@[simp]
theorem Log.Sink.keeps_memory_trace (level : Level) : (memory .trace).keeps level = true := by
  cases level <;> rfl

namespace Log.Journal

variable (journal : Journal) (surroundings : Surroundings) (delegate : Nat)

@[simp]
theorem thread_record (sink : Sink) (event : Event) :
    (journal.record surroundings delegate sink event).thread = journal.thread := by
  unfold record notice
  repeat' split
  all_goals rfl

@[simp]
theorem depths_record (sink : Sink) (event : Event) :
    (journal.record surroundings delegate sink event).depths = journal.depths := by
  unfold record notice
  repeat' split
  all_goals rfl

@[simp]
theorem records_notice (notice : Notice) :
    (journal.notice surroundings notice).records = journal.records := by
  unfold Journal.notice
  split
  all_goals rfl

theorem records_record (sink : Sink) (event : Event) :
    (journal.record surroundings delegate sink event).records =
      journal.records ++ if sink.keeps event.level then [⟨delegate, event⟩] else [] := by
  unfold record
  by_cases accepted : sink.accepts surroundings event.level = true
  · cases sink <;> simp_all [Sink.accepts, Sink.keeps]
  · cases sink <;> simp_all [Sink.accepts, Sink.keeps]

end Log.Journal

namespace Delegate

variable {σ α : Type}

/-! ## Opening and closing a call -/

/-- The world in which the work for a call begins: the call is counted and its entry logged. -/
def opened (delegate : Delegate) (surroundings : Log.Surroundings) (operation : Operation)
    (arguments : List String) (world : World σ) : World σ :=
  delegate.record surroundings
    (delegate.entryEvent surroundings operation (world.journal.lane delegate.number)
      (world.journal.depth delegate.number + 1) arguments)
    (delegate.enter world)

/-- The world after a call: its exit is logged and it is no longer counted. -/
def closed (delegate : Delegate) (surroundings : Log.Surroundings) (event : Log.Event)
    (world : World σ) : World σ :=
  delegate.leave (delegate.record surroundings event world)

/-- The event with which a delegate logs an ending. -/
def exitEvent (operation : Operation) (lane : Log.Lane) (depth : Nat) (answerText : α → String) :
    Ending α → Log.Event
  | .returned value => returnEvent operation lane depth (answerText value)
  | .failed failure => failureEvent operation lane depth failure.unwrap.message
  | .panicked _ => failureEvent operation lane depth (panicReason operation)

/-- An ending is logged alike if its answer is shown alike. -/
theorem exitEvent_map
    {β : Type} (operation : Operation) (lane : Log.Lane) (depth : Nat) (change : α → β)
    {answerText : α → String} {otherText : β → String}
    (shownAlike : ∀ value, otherText (change value) = answerText value) (ending : Ending α) :
    exitEvent operation lane depth otherText (ending.map change) =
      exitEvent operation lane depth answerText ending := by
  cases ending with
  | returned value => simp only [Ending.map, exitEvent, shownAlike]
  | failed failure => rfl
  | panicked text => rfl

/-- A call that an activity does the work for. -/
def pass (delegate : Delegate) (surroundings : Log.Surroundings) (shelf : σ → Shelf) (call : Call)
    (body : Activity σ call.Answer) : Activity σ call.Answer :=
  delegate.intercept surroundings call.operation (fun state => call.arguments (shelf state))
    (fun state answer => call.answerText (shelf state) answer) body

theorem around_eq_pass
    (delegate : Delegate) (surroundings : Log.Surroundings) (shelf : σ → Shelf)
    (inner : Manager σ) (call : Call) :
    delegate.around surroundings shelf inner call =
      delegate.pass surroundings shelf call (inner call) := rfl

/-- Intercepting is opening the call, doing the work once, and closing the call. -/
theorem intercept_eq
    (delegate : Delegate) (surroundings : Log.Surroundings) (operation : Operation)
    (arguments : σ → List String) (answerText : σ → α → String) (body : Activity σ α)
    (world : World σ) :
    delegate.intercept surroundings operation arguments answerText body world =
      let done := body (delegate.opened surroundings operation (arguments world.inner) world)
      (done.1.passedOn,
        delegate.closed surroundings
          (exitEvent operation (world.journal.lane delegate.number)
            (world.journal.depth delegate.number + 1) (answerText done.2.inner) done.1)
          done.2) := by
  have depth :
      (delegate.enter world).journal.depth delegate.number =
        world.journal.depth delegate.number + 1 :=
    Log.Depths.count_enter_self world.journal.depths
  have lane :
      (delegate.enter world).journal.lane delegate.number =
        world.journal.lane delegate.number := rfl
  have inner : (delegate.enter world).inner = world.inner := rfl
  simp only [intercept, depth, lane, inner, opened]
  split <;> rename_i ended <;> simp only [ended] <;> rfl

theorem pass_eq
    (delegate : Delegate) (surroundings : Log.Surroundings) (shelf : σ → Shelf) (call : Call)
    (body : Activity σ call.Answer) (world : World σ) :
    delegate.pass surroundings shelf call body world =
      let done := body
        (delegate.opened surroundings call.operation (call.arguments (shelf world.inner)) world)
      (done.1.passedOn,
        delegate.closed surroundings
          (exitEvent call.operation (world.journal.lane delegate.number)
            (world.journal.depth delegate.number + 1) (call.answerText (shelf done.2.inner)) done.1)
          done.2) :=
  intercept_eq delegate surroundings call.operation _ _ body world

/-! ### What opening changes -/

section Changes

variable (delegate : Delegate) (surroundings : Log.Surroundings) (world : World σ)

@[simp]
theorem thread_opened (operation : Operation) (arguments : List String) :
    (delegate.opened surroundings operation arguments world).journal.thread =
      world.journal.thread :=
  Log.Journal.thread_record _ _ _ _ _

theorem depths_opened (operation : Operation) (arguments : List String) :
    (delegate.opened surroundings operation arguments world).journal.depths =
      world.journal.depths.enter (world.journal.lane delegate.number) :=
  Log.Journal.depths_record _ _ _ _ _

theorem records_opened (operation : Operation) (arguments : List String) :
    let entry := delegate.entryEvent surroundings operation (world.journal.lane delegate.number)
      (world.journal.depth delegate.number + 1) arguments
    (delegate.opened surroundings operation arguments world).journal.records =
      world.journal.records ++
        if delegate.sink.keeps entry.level then [⟨delegate.number, entry⟩] else [] :=
  Log.Journal.records_record _ _ _ _ _

@[simp]
theorem thread_closed (event : Log.Event) :
    (delegate.closed surroundings event world).journal.thread = world.journal.thread :=
  Log.Journal.thread_record _ _ _ _ _

theorem depths_closed (event : Log.Event) :
    (delegate.closed surroundings event world).journal.depths =
      world.journal.depths.leave (world.journal.lane delegate.number) := by
  simp [closed, leave, record, Log.Journal.lane]

theorem records_closed (event : Log.Event) :
    (delegate.closed surroundings event world).journal.records =
      world.journal.records ++
        if delegate.sink.keeps event.level then [⟨delegate.number, event⟩] else [] :=
  Log.Journal.records_record _ _ _ _ _

end Changes

/-- A call that is opened and closed around something that keeps all counts keeps all counts. -/
theorem count_closed_of_count_opened
    (delegate : Delegate) (surroundings : Log.Surroundings) (operation : Operation)
    (arguments : List String) (event : Log.Event) {before after : World σ}
    (thread : after.journal.thread = before.journal.thread)
    (kept : ∀ lane, after.journal.depths.count lane =
      (delegate.opened surroundings operation arguments before).journal.depths.count lane)
    (lane : Log.Lane) :
    (delegate.closed surroundings event after).journal.depths.count lane =
      before.journal.depths.count lane := by
  have sameLane :
      after.journal.lane delegate.number = before.journal.lane delegate.number := by
    simp [Log.Journal.lane, thread]
  rw [depths_closed, sameLane]
  by_cases own : lane = before.journal.lane delegate.number
  · subst own
    rw [Log.Depths.count_leave_self, kept, depths_opened, Log.Depths.count_enter_self]
    rfl
  · rw [Log.Depths.count_leave_of_ne _ own, kept, depths_opened,
      Log.Depths.count_enter_of_ne _ own]

end Delegate

end CompilationChecks
