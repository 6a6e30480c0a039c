import CompilationChecks.Proofs.Blanking
import CompilationChecks.Proofs.Delegate.Interception
import Mathlib.Data.List.Forall2

/-!
# Contents do not reach the log

A delegate shows a content by its size, and the manager in memory does not look at contents. So a
run on blanked contents is the blanked run: it logs the same events and ends its calls in the same
way, and only what was read is blanked. Two runs that are the same when blanked therefore cannot be
told apart by their logs, however much the sinks keep. Stack traces are left out of the comparison,
because they are texts that the process finds around it.
-/

namespace CompilationChecks

/-! ## Logs without stack traces -/

namespace Log

/-- The surroundings of a process that does not know what leads to its calls. -/
def Surroundings.frameless (surroundings : Surroundings) : Surroundings :=
  { surroundings with frames := [] }

/-- The event with the text of its stack trace left out, but not the fact that it has one. -/
def Event.traceless (event : Event) : Event :=
  { event with stackTrace := event.stackTrace.map fun _ => "" }

def Record.traceless (record : Record) : Record :=
  { record with event := record.event.traceless }

def Notice.traceless : Notice → Notice
  | .call event => .call event.traceless
  | other => other

namespace Journal

def traceless (journal : Journal) : Journal :=
  { journal with
    records := journal.records.map Record.traceless
    notices := journal.notices.map Notice.traceless }

variable (journal : Journal) (surroundings : Surroundings)

theorem traceless_notice (notice : Notice) :
    (journal.notice surroundings notice).traceless =
      journal.traceless.notice surroundings.frameless notice.traceless := by
  have sameLevel : notice.traceless.level = notice.level := by
    cases notice <;> rfl
  have sameNotices :
      surroundings.frameless.notices notice.traceless.level =
        surroundings.notices notice.level := by
    rw [sameLevel]
    rfl
  have sameWatch : journal.traceless.isWatched = journal.isWatched := rfl
  unfold Journal.notice
  rw [sameNotices, sameWatch]
  by_cases seen : (journal.isWatched && surroundings.notices notice.level) = true
  · simp [seen, traceless]
  · simp [seen]

theorem traceless_record (delegate : Nat) (sink : Sink) (event : Event) :
    (journal.record surroundings delegate sink event).traceless =
      journal.traceless.record surroundings.frameless delegate sink event.traceless := by
  have sameAccepts :
      sink.accepts surroundings.frameless event.traceless.level =
        sink.accepts surroundings event.level := by
    cases sink <;> rfl
  unfold record
  rw [sameAccepts]
  by_cases accepted : sink.accepts surroundings event.level = true
  · simp only [accepted, if_true]
    cases sink with
    | memory limit => simp [traceless, Record.traceless]
    | lines limit => simp [traceless, Record.traceless]
    | broken limit => exact journal.traceless_notice surroundings .writerBroken
    | subscriber => exact journal.traceless_notice surroundings (.call event)
  · simp only [accepted, if_false, Bool.false_eq_true]

end Journal

end Log

/-! ## Answered calls -/

/-- The ending of a call together with the call. -/
abbrev Answered := (call : Call) × Ending call.Answer

/-- The ending of a call with the contents on both sides blanked. -/
def Answered.blanked (answered : Answered) : Answered :=
  ⟨answered.1.blanked, answered.2.map answered.1.blankAnswer⟩

/-- Two answered calls that differ in contents only, which have the same size on both sides. -/
inductive Answered.Alike : Answered → Answered → Prop where
  | same (answered : Answered) : Alike answered answered
  | wrote {location : Location} {packageName relativeName : String} {content other : Bytes}
      (sizes : content.length = other.length) (ending : Ending FileRef) :
      Alike ⟨.writeFile location packageName relativeName content, ending⟩
        ⟨.writeFile location packageName relativeName other, ending⟩
  | read {file : FileRef} {content other : Bytes} (sizes : content.length = other.length) :
      Alike ⟨.read file, .returned content⟩ ⟨.read file, .returned other⟩

theorem Ending.eq_or_returned_of_map_eq
    {α β : Type} {change : α → β} {ending other : Ending α}
    (same : ending.map change = other.map change) :
    ending = other ∨
      ∃ value otherValue,
        ending = .returned value ∧ other = .returned otherValue ∧
          change value = change otherValue := by
  cases ending with
  | returned value =>
      cases other with
      | returned otherValue =>
          exact Or.inr ⟨value, otherValue, rfl, rfl, Ending.returned.inj same⟩
      | failed failure => cases same
      | panicked text => cases same
  | failed failure =>
      cases other with
      | returned otherValue => cases same
      | failed otherFailure => exact Or.inl (congrArg Ending.failed (Ending.failed.inj same))
      | panicked text => cases same
  | panicked text =>
      cases other with
      | returned otherValue => cases same
      | failed failure => cases same
      | panicked otherText => exact Or.inl (congrArg Ending.panicked (Ending.panicked.inj same))

theorem Answered.alike_of_blanked_eq {left right : Answered} (same : left.blanked = right.blanked) :
    left.Alike right := by
  obtain ⟨call, ending⟩ := left
  obtain ⟨other, otherEnding⟩ := right
  obtain ⟨sameCalls, sameEndings⟩ := Sigma.mk.inj same
  rcases Call.eq_or_writeFile_of_blanked_eq sameCalls with
    rfl | ⟨_, _, _, content, otherContent, rfl, rfl, sizes⟩
  · have mapped : ending.map call.blankAnswer = otherEnding.map call.blankAnswer :=
      eq_of_heq sameEndings
    rcases Ending.eq_or_returned_of_map_eq mapped with
      rfl | ⟨value, otherValue, rfl, rfl, sameValue⟩
    · exact .same _
    · rcases call.blankAnswer_injective_or_read with injective | ⟨file, rfl⟩
      · obtain rfl := injective sameValue
        exact .same _
      · exact .read (blank_eq_blank_iff.1 sameValue)
  · have mapped :
        ending.map (fun file : FileRef => file) = otherEnding.map fun file : FileRef => file :=
      eq_of_heq sameEndings
    rcases Ending.eq_or_returned_of_map_eq mapped with rfl | ⟨_, _, rfl, rfl, rfl⟩
    · exact .wrote sizes _
    · exact .wrote sizes _

/-- The world with blanked contents and without stack traces. -/
def World.blanked (world : World Store) : World Store :=
  ⟨world.journal.traceless, world.inner.blanked⟩

/-! ## Delegates around the manager in memory -/

namespace Delegate

variable {α : Type} (delegate : Delegate) (surroundings : Log.Surroundings)
variable (operation : Operation) (lane : Log.Lane) (depth : Nat)

theorem traceless_entryEvent (arguments : List String) :
    (delegate.entryEvent surroundings operation lane depth arguments).traceless =
      delegate.entryEvent surroundings.frameless operation lane depth arguments := by
  unfold entryEvent
  by_cases traced : delegate.stackTraces = true
  · simp [traced, Log.Event.traceless, Log.Surroundings.stackTrace, Log.Surroundings.frameless]
  · simp [traced, Log.Event.traceless]

theorem traceless_exitEvent (answerText : α → String) (ending : Ending α) :
    (exitEvent operation lane depth answerText ending).traceless =
      exitEvent operation lane depth answerText ending := by
  cases ending with
  | returned value =>
      unfold exitEvent returnEvent
      by_cases void : operation.isVoid = true
      · simp [void, Log.Event.traceless, event]
      · simp [void, Log.Event.traceless, event]
  | failed failure => rfl
  | panicked text => rfl

theorem blanked_opened (arguments : List String) (world : World Store) :
    (delegate.opened surroundings operation arguments world).blanked =
      delegate.opened surroundings.frameless operation arguments world.blanked := by
  simp only [World.blanked, opened, record, Log.Journal.traceless_record, traceless_entryEvent]
  rfl

theorem blanked_closed (event : Log.Event) (world : World Store) :
    (delegate.closed surroundings event world).blanked =
      delegate.closed surroundings.frameless event.traceless world.blanked := by
  simp only [World.blanked, closed, leave, record]
  rw [← Log.Journal.traceless_record]
  rfl

end Delegate

theorem Ending.passedOn_map {α β : Type} (change : α → β) (ending : Ending α) :
    (ending.map change).passedOn = ending.passedOn.map change := by
  cases ending <;> rfl

/-- Whatever the manager does with a call, the other one does with the blanked call on the blanked
world, with blanked results. -/
def Manager.BlanksTo (manager blind : Manager Store) : Prop :=
  ∀ (call : Call) (world : World Store),
    blind call.blanked world.blanked =
      ((manager call world).1.map call.blankAnswer, (manager call world).2.blanked)

theorem Store.manager_blanksTo : Store.manager.BlanksTo Store.manager := by
  intro call world
  have step := world.inner.perform_blanked call
  have sameInner : world.blanked.inner = world.inner.blanked := rfl
  simp only [manager, sameInner, step, blankStep]
  cases (world.inner.perform call).1 with
  | ok value => rfl
  | error failure => rfl

namespace Delegate

/-- A delegate keeps the log free of contents: it logs a blanked call as the call itself. -/
theorem blanksTo_around
    (delegate : Delegate) (surroundings : Log.Surroundings) {manager blind : Manager Store}
    (inside : manager.BlanksTo blind) :
    Manager.BlanksTo (delegate.around surroundings Store.shelf manager)
      (delegate.around surroundings.frameless Store.shelf blind) := by
  intro call world
  let begun :=
    delegate.opened surroundings call.operation (call.arguments world.inner.shelf) world
  let done := manager call begun
  have sameArguments :
      call.blanked.arguments world.blanked.inner.shelf = call.arguments world.inner.shelf :=
    call.arguments_blanked world.inner.shelf
  have served :
      blind call.blanked
          (delegate.opened surroundings.frameless call.operation
            (call.arguments world.inner.shelf) world.blanked) =
        (done.1.map call.blankAnswer, done.2.blanked) := by
    rw [← blanked_opened]
    exact inside call begun
  have sameExit :=
    exitEvent_map call.operation (world.journal.lane delegate.number)
      (world.journal.depth delegate.number + 1) call.blankAnswer
      (call.answerText_blanked done.2.inner.shelf) done.1
  rw [around_eq_pass, around_eq_pass]
  unfold pass
  rw [intercept_eq, intercept_eq]
  simp only [sameArguments, Call.operation_blanked, served, Ending.passedOn_map, blanked_closed,
    traceless_exitEvent]
  exact congrArg
    (fun event => ((done.1.passedOn).map call.blankAnswer,
      delegate.closed surroundings.frameless event done.2.blanked)) sameExit

theorem blanksTo_aroundAll (delegates : List Delegate) (surroundings : Log.Surroundings) :
    Manager.BlanksTo (aroundAll delegates surroundings Store.shelf Store.manager)
      (aroundAll delegates surroundings.frameless Store.shelf Store.manager) := by
  induction delegates with
  | nil => exact Store.manager_blanksTo
  | cons delegate others inductionHypothesis =>
      exact delegate.blanksTo_around surroundings inductionHypothesis

end Delegate

/-! ## Runs -/

/-- What a process does that has one manager in memory behind some delegates. -/
inductive Deed where
  /-- It calls the manager, and the given frames have led to the call. -/
  | ask (frames : List String) (call : Call)
  /-- It makes an empty container, to register it later. -/
  | make (name : String)
  /-- It writes a file into a container without asking the manager. -/
  | fill (id : ContainerId) (path : String) (content : Bytes)
  deriving DecidableEq

namespace Deed

/-- The deed with its content blanked, if it has one, and without what led to it. -/
def blanked : Deed → Deed
  | .ask _ call => .ask [] call.blanked
  | .make name => .make name
  | .fill id path content => .fill id path (blank content)

section Runs

variable (delegates : List Delegate) (subscriber : Option Log.Level)

/-- What a deed is answered, if it is a call, and the world it leaves. -/
def perform (world : World Store) : Deed → Option Answered × World Store
  | .ask frames call =>
    let manager := Delegate.aroundAll delegates ⟨subscriber, frames⟩ Store.shelf Store.manager
    let done := manager call world
    (some ⟨call, done.1⟩, done.2)
  | .make name => (none, { world with inner := world.inner.place (.new name) })
  | .fill id path content => (none, { world with inner := world.inner.writeInto id path content })

/-- The answers to the calls among several deeds, and the world that is left. -/
def performAll : List Deed → World Store → List Answered × World Store
  | [], world => ([], world)
  | deed :: others, world =>
    let done := deed.perform delegates subscriber world
    let rest := performAll others done.2
    (done.1.toList ++ rest.1, rest.2)

/-- A blanked deed does to the blanked world, blanked, what the deed does to the world. -/
theorem perform_blanked (deed : Deed) (world : World Store) :
    deed.blanked.perform delegates subscriber world.blanked =
      ((deed.perform delegates subscriber world).1.map Answered.blanked,
        (deed.perform delegates subscriber world).2.blanked) := by
  cases deed with
  | ask frames call =>
      have step := Delegate.blanksTo_aroundAll delegates ⟨subscriber, frames⟩ call world
      have noFrames :
          Log.Surroundings.frameless ⟨subscriber, frames⟩ = ⟨subscriber, []⟩ := rfl
      rw [noFrames] at step
      simp only [blanked, perform, step]
      rfl
  | make name =>
      have placed := world.inner.blanked_place (.new name)
      simp only [perform, blanked, World.blanked, placed]
      rfl
  | fill id path content =>
      have written := world.inner.blanked_writeInto id path content
      simp only [perform, blanked, World.blanked, written]
      rfl

/-- A run of blanked deeds from a blanked world is the blanked run. -/
theorem performAll_blanked (deeds : List Deed) (world : World Store) :
    performAll delegates subscriber (deeds.map blanked) world.blanked =
      ((performAll delegates subscriber deeds world).1.map Answered.blanked,
        (performAll delegates subscriber deeds world).2.blanked) := by
  induction deeds generalizing world with
  | nil => rfl
  | cons deed others inductionHypothesis =>
      simp only [List.map_cons, performAll, perform_blanked, inductionHypothesis, List.map_append,
        Option.toList_map]

end Runs

end Deed

/-- **Contents do not reach the log.** Of two runs behind the same delegates, let the deeds of both
and the worlds they begin in be the same but for contents, sizes being equal, and for the frames
that led to calls. Then, whatever the sinks keep, the two journals are the same but for the texts of
stack traces; every call ends in the same way, and the answers are the same but for contents that
were read, which have the same size. The containers that are left look the same through every group,
and what can be read through it has the same size. -/
theorem contents_never_reach_the_log
    (delegates : List Delegate) (subscriber : Option Log.Level)
    {deeds otherDeeds : List Deed} {world otherWorld : World Store}
    (sameDeeds : deeds.map Deed.blanked = otherDeeds.map Deed.blanked)
    (sameWorld : world.blanked = otherWorld.blanked) :
    let run := Deed.performAll delegates subscriber deeds world
    let otherRun := Deed.performAll delegates subscriber otherDeeds otherWorld
    let shelf := run.2.inner.shelf
    let otherShelf := otherRun.2.inner.shelf
    run.2.journal.traceless = otherRun.2.journal.traceless ∧
      List.Forall₂ Answered.Alike run.1 otherRun.1 ∧
      ∀ group : PackageGroup,
        group.inspect shelf = group.inspect otherShelf ∧
          (∀ packageName kinds recurse,
            group.list shelf packageName kinds recurse =
              group.list otherShelf packageName kinds recurse) ∧
          ∀ path,
            group.contains shelf path = group.contains otherShelf path ∧
              group.file? shelf path = group.file? otherShelf path ∧
              (group.read shelf path).map List.length =
                (group.read otherShelf path).map List.length := by
  intro run otherRun shelf otherShelf
  have sameRuns :
      (run.1.map Answered.blanked, run.2.blanked) =
        (otherRun.1.map Answered.blanked, otherRun.2.blanked) := by
    rw [← Deed.performAll_blanked, ← Deed.performAll_blanked, sameDeeds, sameWorld]
  obtain ⟨sameAnswers, sameWorlds⟩ := Prod.mk.inj sameRuns
  have sameShelves : shelf.blanked = otherShelf.blanked :=
    congrArg (fun left : World Store => left.inner.shelf) sameWorlds
  refine ⟨congrArg World.journal sameWorlds, ?_, fun group => ⟨?_, ?_, ?_⟩⟩
  · rw [← List.forall₂_eq_eq_eq, List.forall₂_map_left_iff, List.forall₂_map_right_iff]
      at sameAnswers
    exact sameAnswers.imp fun _ _ => Answered.alike_of_blanked_eq
  · rw [← group.inspect_blanked shelf, sameShelves, group.inspect_blanked]
  · intro packageName kinds recurse
    rw [← group.list_blanked shelf, sameShelves, group.list_blanked]
  · intro path
    refine ⟨?_, ?_, ?_⟩
    · rw [← group.contains_blanked shelf, sameShelves, group.contains_blanked]
    · rw [← group.file?_blanked shelf, sameShelves, group.file?_blanked]
    · rw [← group.size_read_blanked shelf, sameShelves, group.size_read_blanked]

/-- A run that registers a container with a content, writes the content a second time, and reads
both files. -/
def copyingDeeds (frames : List String) (content : Bytes) : List Deed :=
  [.make "inputs", .fill 0 "keys/Key.txt" content,
    .ask frames (.addContainer (.standard .sourcePath) 0),
    .ask frames (.writeFile (.standard .classOutput) "keys" "Copy.txt" content),
    .ask frames (.read (.locate (.standard .sourcePath) "inputs" "keys/Key.txt")),
    .ask frames (.read (.locate (.standard .classOutput) "CLASS_OUTPUT" "keys/Copy.txt"))]

/-- Two contents of three bytes each leave the same log, though the sink keeps every level. -/
theorem contents_never_reach_the_log_copied :
    let delegates : List Delegate := [⟨1, true, .memory .trace⟩]
    let deeds := copyingDeeds ["main"] [1, 2, 3]
    let otherDeeds := copyingDeeds ["run", "main"] [7, 8, 9]
    let run := Deed.performAll delegates none deeds ⟨.start, .new "17"⟩
    let otherRun := Deed.performAll delegates none otherDeeds ⟨.start, .new "17"⟩
    deeds ≠ otherDeeds ∧
      deeds.map Deed.blanked = otherDeeds.map Deed.blanked ∧
      run.2.journal.traceless = otherRun.2.journal.traceless ∧
      List.Forall₂ Answered.Alike run.1 otherRun.1 := by
  intro delegates deeds otherDeeds run otherRun
  have sameDeeds : deeds.map Deed.blanked = otherDeeds.map Deed.blanked := rfl
  have sameWorld :
      (⟨.start, .new "17"⟩ : World Store).blanked = World.blanked ⟨.start, .new "17"⟩ := rfl
  obtain ⟨sameJournal, alike, _⟩ :=
    contents_never_reach_the_log delegates none sameDeeds sameWorld
  exact ⟨by decide, sameDeeds, sameJournal, alike⟩

end CompilationChecks
