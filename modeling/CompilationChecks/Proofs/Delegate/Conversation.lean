import CompilationChecks.Proofs.Delegate.Service
import CompilationChecks.Proofs.Delegate.Transparency

/-!
# What a delegate logs of several calls

The manager in memory makes no calls of its own. So if several calls are made one after another
through a delegate around it, the log is the conversation: for each call its entry and its exit,
all at the same depth, with arguments and answers as the store has them at that point.
-/

namespace CompilationChecks

namespace Delegate

variable (delegate : Delegate) (surroundings : Log.Surroundings)

/-- The events of several calls that are made one after another on a store. -/
def conversation (lane : Log.Lane) (depth : Nat) : List Call → Store → List Log.Event
  | [], _ => []
  | call :: others, store =>
    let done := store.perform call
    delegate.entryEvent surroundings call.operation lane depth (call.arguments store.shelf) ::
      exitEvent call.operation lane depth (call.answerText done.2.shelf) (.ofExcept done.1) ::
      conversation lane depth others done.2

/-- Each event of a conversation is about the operation of one of its calls. -/
theorem operation_conversation
    {lane : Log.Lane} {depth : Nat} {calls : List Call} {store : Store} {event : Log.Event}
    (mem : event ∈ delegate.conversation surroundings lane depth calls store) :
    ∃ call ∈ calls, event.operation = call.operation.name := by
  induction calls generalizing store with
  | nil => cases mem
  | cons call others inductionHypothesis =>
      simp only [conversation, List.mem_cons] at mem
      rcases mem with rfl | rfl | mem
      · exact ⟨call, List.mem_cons_self, rfl⟩
      · exact ⟨call, List.mem_cons_self, congrArg Log.Mark.operation
          (mark_exitEvent call.operation lane depth _ _)⟩
      · obtain ⟨other, inOthers, same⟩ := inductionHypothesis mem
        exact ⟨other, List.mem_cons_of_mem _ inOthers, same⟩

/-- Calls that leave the store alone are logged as if each were the only one. -/
theorem conversation_append
    {lane : Log.Lane} {depth : Nat} {calls : List Call} {store : Store}
    (unchanged : ∀ call ∈ calls, (store.perform call).2 = store) (others : List Call) :
    delegate.conversation surroundings lane depth (calls ++ others) store =
      calls.flatMap
          (fun call => delegate.conversation surroundings lane depth [call] store) ++
        delegate.conversation surroundings lane depth others store := by
  induction calls with
  | nil => rfl
  | cons call rest inductionHypothesis =>
      obtain ⟨firstUnchanged, restUnchanged⟩ := List.forall_mem_cons.1 unchanged
      have further := inductionHypothesis restUnchanged
      simp only [List.cons_append, conversation, firstUnchanged, List.flatMap_cons,
        List.nil_append]
      rw [further]
      rfl

/-- One call changes the store as the call does without a delegate, and leaves all counts as they
were. -/
theorem around_manager (call : Call) (world : World Store) :
    let after := (delegate.around surroundings Store.shelf Store.manager call world).2
    after.inner = (world.inner.perform call).2 ∧
      after.journal.thread = world.journal.thread ∧
      ∀ lane, after.journal.depths.count lane = world.journal.depths.count lane := by
  intro after
  let arguments := call.arguments world.inner.shelf
  let begun := delegate.opened surroundings call.operation arguments world
  let served := Store.manager call begun
  have begunThread : begun.journal.thread = world.journal.thread :=
    thread_opened delegate surroundings world call.operation arguments
  have afterEq : after = delegate.closed surroundings _ served.2 :=
    congrArg Prod.snd (delegate.pass_eq surroundings Store.shelf call (Store.manager call) world)
  rw [afterEq]
  refine ⟨rfl, ?_, ?_⟩
  · rw [thread_closed]
    exact begunThread
  · exact count_closed_of_count_opened delegate surroundings call.operation arguments _
      begunThread (fun _ => rfl)

/-- One call adds its entry and its exit to a log that keeps everything. -/
theorem records_around_manager
    (keepsAll : ∀ level, delegate.sink.keeps level = true) (call : Call) (world : World Store) :
    (delegate.around surroundings Store.shelf Store.manager call world).2.journal.records =
      world.journal.records ++
        (delegate.conversation surroundings (world.journal.lane delegate.number)
          (world.journal.depth delegate.number + 1) [call] world.inner).map
            (Log.Record.mk delegate.number) := by
  let begun :=
    delegate.opened surroundings call.operation (call.arguments world.inner.shelf) world
  have servedRecords :
      (Store.manager call begun).2.journal.records = _ :=
    delegate.records_opened surroundings world call.operation (call.arguments world.inner.shelf)
  rw [around_eq_pass, pass_eq, records_closed, servedRecords, keepsAll, keepsAll, if_pos rfl,
    if_pos rfl, List.append_assoc]
  rfl

section Runs

variable (calls : List Call) (world : World Store)

/-- Several calls leave all counts as they were. -/
theorem runAll_around_manager :
    let after :=
      (Manager.runAll (delegate.around surroundings Store.shelf Store.manager) calls world).2
    after.journal.thread = world.journal.thread ∧
      ∀ lane, after.journal.depths.count lane = world.journal.depths.count lane := by
  induction calls generalizing world with
  | nil => exact ⟨rfl, fun _ => rfl⟩
  | cons call others inductionHypothesis =>
      obtain ⟨_, thread, counts⟩ := delegate.around_manager surroundings call world
      obtain ⟨restThread, restCounts⟩ := inductionHypothesis
        (delegate.around surroundings Store.shelf Store.manager call world).2
      exact ⟨restThread.trans thread, fun lane => (restCounts lane).trans (counts lane)⟩

/-- Several calls add their conversation to a log that keeps everything. -/
theorem records_runAll_around_manager (keepsAll : ∀ level, delegate.sink.keeps level = true) :
    (Manager.runAll (delegate.around surroundings Store.shelf Store.manager) calls
        world).2.journal.records =
      world.journal.records ++
        (delegate.conversation surroundings (world.journal.lane delegate.number)
          (world.journal.depth delegate.number + 1) calls world.inner).map
            (Log.Record.mk delegate.number) := by
  induction calls generalizing world with
  | nil => exact (List.append_nil _).symm
  | cons call others inductionHypothesis =>
      let after := (delegate.around surroundings Store.shelf Store.manager call world).2
      obtain ⟨state, thread, counts⟩ := delegate.around_manager surroundings call world
      have records : after.journal.records = _ :=
        delegate.records_around_manager surroundings keepsAll call world
      have sameLane :
          after.journal.lane delegate.number = world.journal.lane delegate.number := by
        simp only [after, Log.Journal.lane, thread]
      have sameDepth :
          after.journal.depth delegate.number = world.journal.depth delegate.number := by
        simp only [Log.Journal.depth, sameLane]
        exact counts _
      refine (inductionHypothesis after).trans ?_
      rw [records, sameLane, sameDepth, state, List.append_assoc, ← List.map_append]
      rfl

end Runs

end Delegate

/-- Without a delegate nothing is logged. -/
theorem Store.journal_runAll (calls : List Call) (world : World Store) :
    (Store.manager.runAll calls world).2.journal = world.journal := by
  induction calls generalizing world with
  | nil => rfl
  | cons call others inductionHypothesis =>
      exact inductionHypothesis (Store.manager call world).2

end CompilationChecks
