import CompilationChecks.Proofs.Delegate.Service

/-!
# The log tells what the caller sees

The arguments of a call are values of a few types, and so are answers. Each of these types has one
name in the log and one way for its values to appear there, and nothing else enters the two events
of a call: neither what the manager inside did, nor how it named its failures before they were
unwrapped. So each call that a service makes leaves its own two events in the log, true to what it
was given and to what its caller got, and the log of the service has no other events.
-/

namespace CompilationChecks

/-! ## Arguments and answers by their types -/

/-- One argument of a call, by its type. -/
inductive Argument where
  | location (value : Location)
  | text (value : String)
  | container (id : ContainerId)
  | kinds (values : List FileKind)
  | flag (value : Bool)
  | content (bytes : Bytes)
  | file (value : FileRef)

namespace Argument

/-- The name of the type of an argument. -/
def typeName : Argument → String
  | .location _ => "&Location"
  | .text _ => "&str"
  | .container _ => "Arc<Container>"
  | .kinds _ => "&[FileKind]"
  | .flag _ => "bool"
  | .content _ => "&[u8]"
  | .file _ => "&FileObject"

/-- The way an argument appears in the log. Of a content only the size appears. -/
def shown (shelf : Shelf) : Argument → String
  | .location value => value.name
  | .text value => Text.quoted value
  | .container id => (shelf.get id).inspect
  | .kinds values => Inspection.list (values.map FileKind.inspect)
  | .flag value => Inspection.flag value
  | .content bytes => "<" ++ toString bytes.length ++ " bytes>"
  | .file value => value.display

end Argument

/-- A type of answers: its name, and the way its values appear in the log. -/
class Shown (α : Type) where
  typeName : String
  text : Shelf → α → String

namespace Shown

instance : Shown Unit :=
  ⟨"()", fun _ _ => "()"⟩

instance : Shown Bool :=
  ⟨"bool", fun _ flag => Inspection.flag flag⟩

instance : Shown String :=
  ⟨"String", fun _ text => Text.quoted text⟩

instance : Shown FileRef :=
  ⟨"FileObject", fun _ file => file.inspect⟩

instance : Shown PackageGroup :=
  ⟨"PackageContainerGroup", fun shelf group => group.inspect shelf⟩

instance : Shown ModuleGroup :=
  ⟨"ModuleContainerGroup", fun shelf group => group.inspect shelf⟩

instance : Shown OutputGroup :=
  ⟨"OutputContainerGroup", fun shelf group => group.inspect shelf⟩

instance {α : Type} [Shown α] : Shown (Option α) :=
  ⟨"Option<" ++ typeName α ++ ">", fun shelf value => Inspection.option (value.map (text shelf))⟩

instance {α : Type} [Shown α] : Shown (List α) :=
  ⟨"Vec<" ++ typeName α ++ ">", fun shelf values => Inspection.list (values.map (text shelf))⟩

/-- Of a content only the size appears. -/
instance : Shown Bytes :=
  ⟨"Vec<u8>", fun _ content => "<" ++ toString content.length ++ " bytes>"⟩

end Shown

namespace Call

/-- The arguments of a call in the order in which it declares them. -/
def given : Call → List Argument
  | .addContainer location id => [.location location, .container id]
  | .addModuleContainer location moduleName id =>
    [.location location, .text moduleName, .container id]
  | .createEmptyLocation location => [.location location]
  | .hasLocation location => [.location location]
  | .contains location path => [.location location, .text path]
  | .getPackageGroup location => [.location location]
  | .getModuleGroup location => [.location location]
  | .getOutputGroup location => [.location location]
  | .getPackageGroups => []
  | .list location packageName kinds recurse =>
    [.location location, .text packageName, .kinds kinds, .flag recurse]
  | .getFileForInput location packageName relativeName =>
    [.location location, .text packageName, .text relativeName]
  | .writeFile location packageName relativeName content =>
    [.location location, .text packageName, .text relativeName, .content content]
  | .read file => [.file file]
  | .inferBinaryName location file => [.location location, .file file]
  | .effectiveRelease => []
  | .flush => []
  | .close => []

instance shownAnswer : (call : Call) → Shown call.Answer
  | .addContainer .. => inferInstanceAs (Shown Unit)
  | .addModuleContainer .. => inferInstanceAs (Shown Unit)
  | .createEmptyLocation .. => inferInstanceAs (Shown Unit)
  | .hasLocation .. => inferInstanceAs (Shown Bool)
  | .contains .. => inferInstanceAs (Shown Bool)
  | .getPackageGroup .. => inferInstanceAs (Shown (Option PackageGroup))
  | .getModuleGroup .. => inferInstanceAs (Shown (Option ModuleGroup))
  | .getOutputGroup .. => inferInstanceAs (Shown (Option OutputGroup))
  | .getPackageGroups => inferInstanceAs (Shown (List PackageGroup))
  | .list .. => inferInstanceAs (Shown (List FileRef))
  | .getFileForInput .. => inferInstanceAs (Shown (Option FileRef))
  | .writeFile .. => inferInstanceAs (Shown FileRef)
  | .read .. => inferInstanceAs (Shown Bytes)
  | .inferBinaryName .. => inferInstanceAs (Shown (Option String))
  | .effectiveRelease => inferInstanceAs (Shown String)
  | .flush => inferInstanceAs (Shown Unit)
  | .close => inferInstanceAs (Shown Unit)

theorem parameterTypes_eq (call : Call) :
    call.operation.parameterTypes = call.given.map Argument.typeName := by
  cases call <;> rfl

theorem returnType_eq (call : Call) :
    call.operation.returnType = Shown.typeName call.Answer := by
  cases call <;> rfl

theorem arguments_eq (shelf : Shelf) (call : Call) :
    call.arguments shelf = call.given.map (Argument.shown shelf) := by
  cases call <;> rfl

theorem answerText_eq (shelf : Shelf) (call : Call) (answer : call.Answer) :
    call.answerText shelf answer = Shown.text shelf answer := by
  cases call <;> rfl

/-- What the log shows as the result of an ending: the answer, unless its type says nothing. -/
def result? (call : Call) (shelf : Shelf) : Ending call.Answer → Option String
  | .returned value =>
    if Shown.typeName call.Answer = "()" then none else some (Shown.text shelf value)
  | .failed _ => none
  | .panicked _ => none

end Call

/-- What the log shows as the reason of an ending: the text of the failure that the caller gets, or
the name of the operation that was abandoned. -/
def Ending.reason? {α : Type} (operationName : String) : Ending α → Option String
  | .returned _ => none
  | .failed failure => some failure.message
  | .panicked _ => some ("panicked in `" ++ operationName ++ "`")

/-- Each detail of an event is there exactly at the moment that it belongs to. -/
structure Log.Event.Proper (stackTraces : Bool) (event : Log.Event) : Prop where
  arguments : event.arguments.isSome = true ↔ event.moment = .entry
  stackTrace : event.stackTrace.isSome = true ↔ event.moment = .entry ∧ stackTraces = true
  result : event.result.isSome = true ↔ event.moment = .returned
  error : event.error.isSome = true ↔ event.moment = .failed

variable {σ : Type}

/-- Two events tell of a call that was made in a world: the entry tells what the call was given, and
the exit how its caller saw it end. -/
structure Delegate.Tells
    (delegate : Delegate) (surroundings : Log.Surroundings) (shelf : σ → Shelf) (call : Call)
    (world : World σ) (done : Ending call.Answer × World σ) (entry exit : Log.Event) : Prop where
  entry_eq : entry =
    { moment := .entry
      thread := world.journal.thread
      depth := UInt32.ofNat (world.journal.depth delegate.number + 1)
      returnType := Shown.typeName call.Answer
      operation := call.operation.name
      parameterTypes := Inspection.commas (call.given.map Argument.typeName)
      arguments := some (Inspection.commas (call.given.map (Argument.shown (shelf world.inner))))
      stackTrace := if delegate.stackTraces then some surroundings.stackTrace else none
      result := none
      error := none }
  exit_eq : exit =
    { entry with
      moment := done.1.moment call.operation
      arguments := none
      stackTrace := none
      result := call.result? (shelf done.2.inner) done.1
      error := done.1.reason? call.operation.name }

namespace Delegate

variable {delegate : Delegate} {surroundings : Log.Surroundings} {shelf : σ → Shelf}

/-! ## One call -/

theorem isVoid_operation (call : Call) :
    call.operation.isVoid = true ↔ Shown.typeName call.Answer = "()" := by
  simp only [Operation.isVoid, Operation.nothing, Call.returnType_eq, beq_iff_eq]

section Telling

variable {call : Call} {world : World σ} {done : Ending call.Answer × World σ}
  {entry exit : Log.Event}

theorem Tells.proper_entry (tells : delegate.Tells surroundings shelf call world done entry exit) :
    entry.Proper delegate.stackTraces := by
  rw [tells.entry_eq]
  constructor <;> simp

theorem Tells.proper_exit (tells : delegate.Tells surroundings shelf call world done entry exit) :
    exit.Proper delegate.stackTraces := by
  rw [tells.exit_eq]
  cases done.1 with
  | returned value =>
      by_cases void : Shown.typeName call.Answer = "()"
      · constructor <;>
          simp [Ending.moment, Call.result?, Ending.reason?, isVoid_operation, void]
      · constructor <;>
          simp [Ending.moment, Call.result?, Ending.reason?, isVoid_operation, void]
  | failed failure => constructor <;> simp [Ending.moment, Call.result?, Ending.reason?]
  | panicked text => constructor <;> simp [Ending.moment, Call.result?, Ending.reason?]

end Telling

/-- The exit of a call in terms of the ending that the caller gets. -/
theorem exitEvent_eq
    (call : Call) (lane : Log.Lane) (depth : Nat) (shelf : Shelf) (ending : Ending call.Answer) :
    exitEvent call.operation lane depth (call.answerText shelf) ending =
      { event call.operation lane depth (ending.passedOn.moment call.operation) with
        result := call.result? shelf ending.passedOn
        error := ending.passedOn.reason? call.operation.name } := by
  cases ending with
  | returned value =>
      by_cases void : call.operation.isVoid = true
      · have silent := (isVoid_operation call).1 void
        simp [exitEvent, returnEvent, Ending.passedOn, Ending.moment, Ending.reason?, Call.result?,
          void, silent, event]
      · have telling := mt (isVoid_operation call).2 void
        simp [exitEvent, returnEvent, Ending.passedOn, Ending.moment, Ending.reason?, Call.result?,
          Call.answerText_eq, void, telling, event]
  | failed failure => rfl
  | panicked text => rfl

/-- The events of a call tell of it, whatever does the work for the call and whatever the sink
does with them. -/
theorem tells_pass
    (delegate : Delegate) (surroundings : Log.Surroundings) (shelf : σ → Shelf) (call : Call)
    (body : Activity σ call.Answer) (world : World σ) :
    let begun := delegate.opened surroundings call.operation
      (call.arguments (shelf world.inner)) world
    let done := delegate.pass surroundings shelf call body world
    ∃ entry exit : Log.Event,
      begun = delegate.record surroundings entry (delegate.enter world) ∧
        done.2 = delegate.leave (delegate.record surroundings exit (body begun).2) ∧
        delegate.Tells surroundings shelf call world done entry exit := by
  intro begun done
  let lane := world.journal.lane delegate.number
  let depth := world.journal.depth delegate.number + 1
  let served := body begun
  let entry :=
    delegate.entryEvent surroundings call.operation lane depth (call.arguments (shelf world.inner))
  let exit :=
    exitEvent call.operation lane depth (call.answerText (shelf served.2.inner)) served.1
  have passed : done = (served.1.passedOn, delegate.closed surroundings exit served.2) :=
    delegate.pass_eq surroundings shelf call body world
  have entryEq :
      entry =
        { event call.operation lane depth .entry with
          arguments :=
            some (Inspection.commas (call.given.map (Argument.shown (shelf world.inner))))
          stackTrace := if delegate.stackTraces then some surroundings.stackTrace else none } := by
    rw [← Call.arguments_eq]
    rfl
  refine ⟨entry, exit, rfl, congrArg Prod.snd passed, ?_, ?_⟩
  · rw [entryEq, ← Call.returnType_eq, ← Call.parameterTypes_eq]
    rfl
  · rw [entryEq, passed]
    exact exitEvent_eq call lane depth (shelf served.2.inner) served.1

theorem records_record_of_keepsAll
    (keepsAll : ∀ level, delegate.sink.keeps level = true) (event : Log.Event) (world : World σ) :
    (delegate.record surroundings event world).journal.records =
      world.journal.records ++ [⟨delegate.number, event⟩] := by
  have recorded :=
    world.journal.records_record surroundings delegate.number delegate.sink event
  rw [keepsAll, if_pos rfl] at recorded
  exact recorded

end Delegate

/-! ## Whole services -/

namespace Service

variable {α : Type}

/-- The entry and the exit tell of a call that was made in a world and served by a service. -/
def Told
    (delegate : Delegate) (surroundings : Log.Surroundings) (shelf : σ → Shelf) (call : Call)
    (served : Service σ call.Answer) (start : World σ) (entry exit : Log.Event) : Prop :=
  delegate.Tells surroundings shelf call start
    (delegate.pass surroundings shelf call (served.perform delegate surroundings shelf) start)
    entry exit

/-- The events that a service adds to the log tell of the calls that it makes and of nothing else:
each of them is the entry or the exit of such a call, and each such call has its entry where the log
stood when the call was made, and its exit behind whatever the call added. -/
structure Chronicle
    (delegate : Delegate) (surroundings : Log.Surroundings) (shelf : σ → Shelf)
    (service : Service σ α) (world : World σ) (events : List Log.Event) : Prop where
  records :
    (service.perform delegate surroundings shelf world).2.journal.records =
      world.journal.records ++ events.map (Log.Record.mk delegate.number)
  proper : ∀ event ∈ events, event.Proper delegate.stackTraces
  origin : ∀ event ∈ events,
    ∃ (call : Call) (served : Service σ call.Answer) (start : World σ) (entry exit : Log.Event),
      service.Makes delegate surroundings shelf world call served start ∧
        Told delegate surroundings shelf call served start entry exit ∧
        (event = entry ∨ event = exit)
  placed : ∀ (call : Call) (served : Service σ call.Answer) (start : World σ),
    service.Makes delegate surroundings shelf world call served start →
      ∃ (front between back : List Log.Event) (entry exit : Log.Event),
        events = front ++ entry :: (between ++ exit :: back) ∧
          Told delegate surroundings shelf call served start entry exit ∧
          start.journal.records =
            world.journal.records ++ front.map (Log.Record.mk delegate.number) ∧
          (served.perform delegate surroundings shelf
              (delegate.opened surroundings call.operation (call.arguments (shelf start.inner))
                start)).2.journal.records =
            start.journal.records ++ (entry :: between).map (Log.Record.mk delegate.number)

namespace Chronicle

variable {delegate : Delegate} {surroundings : Log.Surroundings} {shelf : σ → Shelf}

theorem finish (ending : Ending α) (world : World σ) :
    Chronicle delegate surroundings shelf (.finish ending) world [] where
  records := (List.append_nil _).symm
  proper _ mem := absurd mem List.not_mem_nil
  origin _ mem := absurd mem List.not_mem_nil
  placed _ _ _ made := by cases made

theorem work
    {change : σ → σ} {next : σ → Service σ α} {world : World σ} {events : List Log.Event}
    (rest : Chronicle delegate surroundings shelf (next (change world.inner))
      { world with inner := change world.inner } events) :
    Chronicle delegate surroundings shelf (.work change next) world events where
  records := rest.records
  proper := rest.proper
  origin event mem := by
    obtain ⟨call, served, start, entry, exit, made, told⟩ := rest.origin event mem
    exact ⟨call, served, start, entry, exit, .work made, told⟩
  placed call served start made := by
    cases made with
    | work made => exact rest.placed call served start made

theorem countOpen
    {next : Nat → Service σ α} {world : World σ} {events : List Log.Event}
    (rest : Chronicle delegate surroundings shelf (next (world.journal.depth delegate.number)) world
      events) :
    Chronicle delegate surroundings shelf (.countOpen next) world events where
  records := rest.records
  proper := rest.proper
  origin event mem := by
    obtain ⟨call, served, start, entry, exit, made, told⟩ := rest.origin event mem
    exact ⟨call, served, start, entry, exit, .countOpen made, told⟩
  placed call served start made := by
    cases made with
    | countOpen made => exact rest.placed call served start made

/-- A call back puts its entry before the events of what serves it, and its exit between them and
the events of what follows. -/
theorem callBack
    {call : Call} {served : Service σ call.Answer} {next : Ending call.Answer → Service σ α}
    {world : World σ} {during after : List Log.Event}
    (keepsAll : ∀ level, delegate.sink.keeps level = true)
    (inner : Chronicle delegate surroundings shelf served
      (delegate.opened surroundings call.operation (call.arguments (shelf world.inner)) world)
      during)
    (rest :
      let done := delegate.pass surroundings shelf call
        (served.perform delegate surroundings shelf) world
      Chronicle delegate surroundings shelf (next done.1) done.2 after) :
    ∃ entry exit : Log.Event,
      Chronicle delegate surroundings shelf (.callBack call served next) world
        (entry :: (during ++ exit :: after)) := by
  let begun :=
    delegate.opened surroundings call.operation (call.arguments (shelf world.inner)) world
  let done :=
    delegate.pass surroundings shelf call (served.perform delegate surroundings shelf) world
  obtain ⟨entry, exit, begunEq, doneEq, told⟩ :=
    delegate.tells_pass surroundings shelf call (served.perform delegate surroundings shelf) world
  have begunRecords :
      begun.journal.records = world.journal.records ++ [⟨delegate.number, entry⟩] :=
    (congrArg (fun moment => moment.journal.records) begunEq).trans
      (Delegate.records_record_of_keepsAll keepsAll entry (delegate.enter world))
  have doneRecords :
      done.2.journal.records =
        (served.perform delegate surroundings shelf begun).2.journal.records ++
          [⟨delegate.number, exit⟩] :=
    (congrArg (fun moment => moment.journal.records) doneEq).trans
      (Delegate.records_record_of_keepsAll keepsAll exit _)
  have servedRecords :
      (served.perform delegate surroundings shelf begun).2.journal.records =
        world.journal.records ++ (entry :: during).map (Log.Record.mk delegate.number) := by
    rw [inner.records, begunRecords]
    simp
  have afterwards :
      done.2.journal.records =
        world.journal.records ++
          (entry :: (during ++ [exit])).map (Log.Record.mk delegate.number) := by
    rw [doneRecords, servedRecords]
    simp
  -- An event is that of this call, or of one that serves it, or of one that follows; so is a call.
  refine ⟨entry, exit, ?_, ?_, ?_, ?_⟩
  · refine rest.records.trans ?_
    rw [afterwards]
    simp
  · intro event mem
    simp only [List.mem_cons, List.mem_append] at mem
    rcases mem with rfl | mem | rfl | mem
    · exact told.proper_entry
    · exact inner.proper event mem
    · exact told.proper_exit
    · exact rest.proper event mem
  · intro event mem
    simp only [List.mem_cons, List.mem_append] at mem
    rcases mem with rfl | mem | rfl | mem
    · exact ⟨call, served, world, _, _, .here call served next world, told, Or.inl rfl⟩
    · obtain ⟨other, otherServed, start, otherEntry, otherExit, made, others⟩ :=
        inner.origin event mem
      exact ⟨other, otherServed, start, otherEntry, otherExit, .inside made, others⟩
    · exact ⟨call, served, world, _, _, .here call served next world, told, Or.inr rfl⟩
    · obtain ⟨other, otherServed, start, otherEntry, otherExit, made, others⟩ :=
        rest.origin event mem
      exact ⟨other, otherServed, start, otherEntry, otherExit, .beyond made, others⟩
  · intro other otherServed start made
    cases made with
    | here =>
        exact ⟨[], during, after, entry, exit, rfl, told, (List.append_nil _).symm, servedRecords⟩
    | inside made =>
        obtain ⟨front, between, back, otherEntry, otherExit, split, others, stood, added⟩ :=
          inner.placed other otherServed start made
        refine ⟨entry :: front, between, back ++ exit :: after, otherEntry, otherExit, ?_, others,
          ?_, added⟩
        · rw [split]
          simp
        · rw [stood, begunRecords]
          simp
    | beyond made =>
        obtain ⟨front, between, back, otherEntry, otherExit, split, others, stood, added⟩ :=
          rest.placed other otherServed start made
        refine ⟨entry :: (during ++ exit :: front), between, back, otherEntry, otherExit, ?_,
          others, ?_, added⟩
        · rw [split]
          simp
        · rw [stood, afterwards]
          simp

end Chronicle

theorem chronicle_perform
    (delegate : Delegate) (surroundings : Log.Surroundings) (shelf : σ → Shelf)
    (keepsAll : ∀ level, delegate.sink.keeps level = true) (service : Service σ α)
    (world : World σ) :
    ∃ events : List Log.Event, Chronicle delegate surroundings shelf service world events := by
  induction service generalizing world with
  | finish ending => exact ⟨[], .finish ending world⟩
  | work change next inductionHypothesis =>
      obtain ⟨events, rest⟩ :=
        inductionHypothesis (change world.inner) { world with inner := change world.inner }
      exact ⟨events, rest.work⟩
  | countOpen next inductionHypothesis =>
      obtain ⟨events, rest⟩ := inductionHypothesis (world.journal.depth delegate.number) world
      exact ⟨events, rest.countOpen⟩
  | callBack call served next servedHypothesis nextHypothesis =>
      obtain ⟨during, inner⟩ := servedHypothesis
        (delegate.opened surroundings call.operation (call.arguments (shelf world.inner)) world)
      let done :=
        delegate.pass surroundings shelf call (served.perform delegate surroundings shelf) world
      obtain ⟨after, rest⟩ := nextHypothesis done.1 done.2
      obtain ⟨entry, exit, chronicle⟩ := inner.callBack keepsAll rest
      exact ⟨entry :: (during ++ exit :: after), chronicle⟩

end Service

end CompilationChecks
