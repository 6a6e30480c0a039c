import CompilationChecks.Proofs.Delegate.Interception
import CompilationChecks.Proofs.Failures

/-!
# Failures behind several delegates

A failure comes out through the delegates around a manager from the inside. Each of them unwraps it
by one step, logs the text of what it has then, and passes that on. So the delegate in place `i`,
counted from the inside, logs the failure unwrapped `i` times, and the caller gets it unwrapped as
often as there are delegates.
-/

namespace CompilationChecks

variable {σ : Type}

namespace Delegate

/-- The world in which a manager behind several delegates gets a call. The first delegate is the
outermost one, so it opens the call first. -/
def openedAll (delegates : List Delegate) (surroundings : Log.Surroundings) (operation : Operation)
    (arguments : List String) (world : World σ) : World σ :=
  delegates.foldl
    (fun entered delegate => delegate.opened surroundings operation arguments entered) world

/-- The world after several delegates closed a call, each with an event of its own. -/
def closedAll (exits : List (Delegate × Log.Event)) (surroundings : Log.Surroundings)
    (world : World σ) : World σ :=
  exits.foldl (fun left exit => exit.1.closed surroundings exit.2 left) world

/-- Of the events with which a call is closed those stay that some sink keeps. -/
theorem records_closedAll
    (exits : List (Delegate × Log.Event)) (surroundings : Log.Surroundings) (world : World σ) :
    (closedAll exits surroundings world).journal.records =
      world.journal.records ++
        (exits.filter fun exit => exit.1.sink.keeps exit.2.level).map
          fun exit => ⟨exit.1.number, exit.2⟩ := by
  induction exits generalizing world with
  | nil => simp [closedAll]
  | cons exit others inductionHypothesis =>
      have rest := inductionHypothesis (exit.1.closed surroundings exit.2 world)
      rw [records_closed, List.append_assoc] at rest
      refine Eq.trans rest ?_
      by_cases kept : exit.1.sink.keeps exit.2.level = true
      · simp [kept]
      · simp [kept]

/-- What the log says of the exits of a call that failed, from the inside out. -/
def failureTexts (operation : Operation) (failure : Failure) (count : Nat) :
    List (Log.Moment × String × Option String) :=
  (List.range count).map fun place =>
    (.failed, operation.name, some (Failure.unwrap^[place + 1] failure).message)

/-- A failure passes through the delegates around a manager from the inside out. -/
theorem aroundAll_of_failed
    (delegates : List Delegate) (surroundings : Log.Surroundings) (shelf : σ → Shelf)
    (inner : Manager σ) (call : Call) (world : World σ) (failure : Failure)
    (failed :
      (inner call (openedAll delegates surroundings call.operation
        (call.arguments (shelf world.inner)) world)).1 = .failed failure) :
    ∃ exits : List Log.Event,
      exits.length = delegates.length ∧
        exits.map (fun exit => (exit.moment, exit.operation, exit.error)) =
          failureTexts call.operation failure delegates.length ∧
        aroundAll delegates surroundings shelf inner call world =
          (.failed (Failure.unwrap^[delegates.length] failure),
            closedAll (delegates.reverse.zip exits) surroundings
              (inner call (openedAll delegates surroundings call.operation
                (call.arguments (shelf world.inner)) world)).2) := by
  induction delegates generalizing world with
  | nil => exact ⟨[], rfl, rfl, Prod.ext failed rfl⟩
  | cons delegate others inductionHypothesis =>
      let arguments := call.arguments (shelf world.inner)
      let entered := delegate.opened surroundings call.operation arguments world
      obtain ⟨exits, count, texts, done⟩ := inductionHypothesis entered failed
      let unwrapped := Failure.unwrap^[others.length] failure
      let exit :=
        failureEvent call.operation (world.journal.lane delegate.number)
          (world.journal.depth delegate.number + 1) unwrapped.unwrap.message
      refine ⟨exits ++ [exit], ?_, ?_, ?_⟩
      · simp [count]
      · have oneMore :
            failureTexts call.operation failure (others.length + 1) =
              failureTexts call.operation failure others.length ++
                [(.failed, call.operation.name,
                  some (Failure.unwrap^[others.length + 1] failure).message)] := by
          simp [failureTexts, List.range_succ]
        rw [List.map_append, texts, List.length_cons, oneMore, Function.iterate_succ_apply']
        rfl
      · have zipped :
            (delegate :: others).reverse.zip (exits ++ [exit]) =
              others.reverse.zip exits ++ [(delegate, exit)] := by
          rw [List.reverse_cons, List.zip_append (by simp [count])]
          rfl
        have passed :
            aroundAll (delegate :: others) surroundings shelf inner call world =
              delegate.pass surroundings shelf call
                (aroundAll others surroundings shelf inner call) world := rfl
        rw [passed, zipped, closedAll, List.foldl_append, List.length_cons,
          Function.iterate_succ_apply']
        unfold pass
        rw [intercept_eq]
        simp only [entered, arguments] at done
        rw [done]
        rfl

end Delegate

/-- **Unwrapping loses nothing and settles.** A failure that passes on a cause becomes that cause,
with one failure more set aside: the wrapper without its cause. Any other failure stays as it is.
The faults of the tree stay the same. After as many steps as there are causes at the head, and after
any more steps, the failure is its innermost cause with at most one failure more set aside. And if a
manager behind several delegates fails, its caller gets the failure unwrapped as often as there are
delegates, each of which hands its sink the text of what it has unwrapped, from the inside out. -/
theorem unwrapping_loses_nothing_and_settles :
    (∀ (operation : String) (cause : Failure) (suppressed : List Failure),
      let wrapper := Failure.forwarded operation cause suppressed
      wrapper.unwrap.fault = cause.fault ∧
        wrapper.unwrap.cause? = cause.cause? ∧
        wrapper.unwrap.suppressed =
          cause.suppressed ++ [.raised (.dispatch operation) suppressed] ∧
        wrapper.unwrap.message =
          cause.message ++ " (suppressed: " ++ wrapper.message ++ ")") ∧
    (∀ (fault : Fault) (suppressed : List Failure),
      (Failure.raised fault suppressed).unwrap = .raised fault suppressed) ∧
    (∀ failure : Failure, failure.unwrap.faults = failure.faults) ∧
    (∀ (failure : Failure) (more : Nat), ∃ aside : List Failure,
      Failure.unwrap^[failure.causeCount + more] failure =
          .raised failure.innermost.fault (failure.innermost.suppressed ++ aside) ∧
        aside.length = min failure.causeCount 1 ∧
        Failure.unwrap^[failure.causeCount + more] failure =
          Failure.unwrap^[failure.causeCount] failure) ∧
    (∀ (σ : Type) (delegates : List Delegate) (surroundings : Log.Surroundings)
      (shelf : σ → Shelf) (inner : Manager σ) (call : Call) (world : World σ) (failure : Failure),
      let served := inner call (Delegate.openedAll delegates surroundings call.operation
        (call.arguments (shelf world.inner)) world)
      let done := Delegate.aroundAll delegates surroundings shelf inner call world
      served.1 = .failed failure →
        done.1 = .failed (Failure.unwrap^[delegates.length] failure) ∧
          ∃ exits : List Log.Event,
            exits.map (fun exit => (exit.moment, exit.operation, exit.error)) =
                (List.range delegates.length).map (fun place =>
                  (.failed, call.operation.name,
                    some (Failure.unwrap^[place + 1] failure).message)) ∧
              done.2 = Delegate.closedAll (delegates.reverse.zip exits) surroundings served.2 ∧
              done.2.journal.records =
                served.2.journal.records ++
                  ((delegates.reverse.zip exits).filter fun exit =>
                    exit.1.sink.keeps exit.2.level).map fun exit => ⟨exit.1.number, exit.2⟩) := by
  refine ⟨?_, fun _ _ => rfl, Failure.faults_unwrap, ?_, ?_⟩
  · intro operation cause suppressed wrapper
    have unwrapped : wrapper.unwrap = cause.suppress wrapper.withoutCause :=
      Failure.unwrap_forwarded operation cause suppressed
    rw [unwrapped]
    refine ⟨Failure.fault_suppress _ _, Failure.cause?_suppress _ _,
      Failure.suppressed_suppress _ _, ?_⟩
    rw [Failure.message_suppress, Failure.message_withoutCause]
  · intro failure more
    obtain ⟨aside, settled, atMostOne⟩ := failure.iterate_unwrap_eq
    have same := failure.iterate_unwrap_add more
    exact ⟨aside, same.trans settled, atMostOne, same⟩
  · intro σ delegates surroundings shelf inner call world failure served done failed
    obtain ⟨exits, -, texts, passed⟩ :=
      Delegate.aroundAll_of_failed delegates surroundings shelf inner call world failure failed
    refine ⟨congrArg Prod.fst passed, exits, texts, congrArg Prod.snd passed, ?_⟩
    have records := Delegate.records_closedAll (delegates.reverse.zip exits) surroundings served.2
    rw [← records]
    exact congrArg (fun ended => ended.2.journal.records) passed

/-- A failure that was passed on twice reaches the caller behind two delegates as its innermost
cause. The inner delegate logs one step of the way, the outer one the end of it. -/
theorem unwrapping_loses_nothing_and_settles_twoDelegates :
    let failure := Failure.forwarded "read" (.forwarded "open" (.of .closed) [.of (.io "slow")]) []
    let delegates : List Delegate := [⟨1, false, .memory .trace⟩, ⟨2, false, .lines .info⟩]
    let inner : Manager Unit := fun _ world => (.failed failure, world)
    let world : World Unit := ⟨.start, ()⟩
    let done := Delegate.aroundAll delegates ⟨none, []⟩ (fun _ => .empty) inner .flush world
    (inner .flush (Delegate.openedAll delegates ⟨none, []⟩ Call.flush.operation [] world)).1 =
        .failed failure ∧
      done.1 =
        .failed (.raised .closed
          [.raised (.dispatch "open") [.of (.io "slow"), .raised (.dispatch "read") []]]) ∧
      ∃ exits : List Log.Event,
        exits.map (fun exit => (exit.moment, exit.operation, exit.error)) =
          [(.failed, "flush", some
            ("dispatch of `open` failed (suppressed: io: slow)" ++
              " (suppressed: dispatch of `read` failed)")),
            (.failed, "flush", some
              ("file manager has been closed (suppressed: dispatch of `open` failed" ++
                " (suppressed: io: slow) (suppressed: dispatch of `read` failed))"))] := by
  intro failure delegates inner world done
  obtain ⟨ending, exits, texts, -, -⟩ :=
    unwrapping_loses_nothing_and_settles.2.2.2.2 Unit delegates ⟨none, []⟩ (fun _ => .empty) inner
      .flush world failure rfl
  exact ⟨rfl, ending, exits, texts⟩

end CompilationChecks
