import CompilationChecks.Proofs.Delegate.Truth
import CompilationChecks.Proofs.OneLine

/-!
# Calls and lines of the log

The line for an event is put together from descriptions, numbers, and views of arguments and
answers. Texts inside of answers are quoted, and so are texts that are arguments themselves. But
locations and files that are arguments appear by their names, in which the name of a module, the
name of a container and a path stand as they are. These are the only places where a line of the log
can be broken.
-/

namespace CompilationChecks

open Text

/-! ## Texts that stand as they are -/

/-- The texts that stand in the name of a location as they are. -/
def Location.rawTexts : Location → List String
  | .standard _ => []
  | .module _ moduleName => [moduleName]

/-- The texts that stand as they are where the log shows an argument. -/
def Argument.rawTexts : Argument → List String
  | .location value => value.rawTexts
  | .file value => value.location.rawTexts ++ [value.container, value.path]
  | _ => []

/-- The texts that stand as they are where the log shows the arguments of a call. -/
def Call.rawTexts (call : Call) : List String :=
  call.given.flatMap Argument.rawTexts

theorem Location.oneLine_name_iff (location : Location) :
    OneLine location.name ↔ ∀ text ∈ location.rawTexts, OneLine text := by
  cases location with
  | standard root => exact iff_of_true root.oneLine_name (List.forall_mem_nil _)
  | module parent moduleName =>
      have opening : OneLine "[" := by
        decide
      have closing : OneLine "]" := by
        decide
      simp only [name, rawTexts, OneLine.append_iff, parent.oneLine_name, opening, closing,
        true_and, and_true, List.forall_mem_singleton]

theorem FileRef.oneLine_display_iff (file : FileRef) :
    OneLine file.display ↔
      ∀ text ∈ file.location.rawTexts ++ [file.container, file.path], OneLine text := by
  have colon : OneLine ":" := by
    decide
  have slash : OneLine "/" := by
    decide
  simp only [display, OneLine.append_iff, file.location.oneLine_name_iff, colon, slash, and_true,
    List.forall_mem_append, List.forall_mem_cons, List.not_mem_nil, false_implies, implies_true,
    and_assoc]

theorem Argument.oneLine_shown_iff (shelf : Shelf) (argument : Argument) :
    OneLine (argument.shown shelf) ↔ ∀ text ∈ argument.rawTexts, OneLine text := by
  cases argument with
  | location value => exact value.oneLine_name_iff
  | file value => exact value.oneLine_display_iff
  | text value => exact iff_of_true (.of_quoted value) (List.forall_mem_nil _)
  | container id => exact iff_of_true (shelf.get id).oneLine_inspect (List.forall_mem_nil _)
  | kinds values =>
      exact iff_of_true (Inspection.oneLine_list FileKind.oneLine_inspect values)
        (List.forall_mem_nil _)
  | flag value => exact iff_of_true (Inspection.oneLine_flag value) (List.forall_mem_nil _)
  | content bytes =>
      have size : OneLine ("<" ++ toString bytes.length ++ " bytes>") :=
        .append (.append (by decide) (.of_nat _)) (by decide)
      exact iff_of_true size (List.forall_mem_nil _)

theorem Call.oneLine_arguments_iff (shelf : Shelf) (call : Call) :
    OneLine (Inspection.commas (call.given.map (Argument.shown shelf))) ↔
      ∀ text ∈ call.rawTexts, OneLine text := by
  simp only [Inspection.oneLine_commas_iff, List.forall_mem_map, Argument.oneLine_shown_iff,
    rawTexts, List.forall_mem_flatMap]

/-! ## Answers -/

/-- Whatever a call answers, the log shows it on one line. -/
theorem Call.oneLine_answerText (shelf : Shelf) (call : Call) (answer : call.Answer) :
    OneLine (call.answerText shelf answer) := by
  cases call
  case hasLocation | contains => exact Inspection.oneLine_flag answer
  case getPackageGroup =>
    exact Inspection.oneLine_option (fun group => group.oneLine_inspect shelf) answer
  case getModuleGroup =>
    exact Inspection.oneLine_option (fun group => group.oneLine_inspect shelf) answer
  case getOutputGroup =>
    exact Inspection.oneLine_option (fun group => group.oneLine_inspect shelf) answer
  case getPackageGroups =>
    exact Inspection.oneLine_list (fun group => group.oneLine_inspect shelf) answer
  case list => exact Inspection.oneLine_list FileRef.oneLine_inspect answer
  case getFileForInput => exact Inspection.oneLine_option FileRef.oneLine_inspect answer
  case writeFile => exact FileRef.oneLine_inspect answer
  case read => exact .append (.append (by decide) (.of_nat _)) (by decide)
  case inferBinaryName => exact Inspection.oneLine_option OneLine.of_quoted answer
  case effectiveRelease => exact .of_quoted answer
  all_goals exact (by decide : OneLine Operation.nothing)

theorem Call.oneLine_result?
    {call : Call} {shelf : Shelf} {ending : Ending call.Answer} {text : String}
    (shown : text ∈ call.result? shelf ending) : OneLine text := by
  cases ending with
  | returned value =>
      dsimp only [result?] at shown
      split at shown
      · cases shown
      · cases shown
        rw [← call.answerText_eq]
        exact call.oneLine_answerText shelf value
  | failed failure => cases shown
  | panicked reason => cases shown

/-! ## Events -/

theorem Call.oneLine_operation (call : Call) :
    OneLine (Shown.typeName call.Answer) ∧ OneLine call.operation.name ∧
      OneLine (Inspection.commas (call.given.map Argument.typeName)) := by
  rw [← call.returnType_eq, ← call.parameterTypes_eq]
  cases call
  all_goals
    dsimp only [operation, Operation.void]
    decide

theorem Log.Event.oneLine_signature
    {event : Log.Event} (returnType : OneLine event.returnType)
    (operation : OneLine event.operation) (parameterTypes : OneLine event.parameterTypes) :
    OneLine event.signature := by
  have place : OneLine
      ("[thread=" ++ toString event.thread ++ ", depth=" ++ toString event.depth ++ "] ") :=
    .append (.append (.append (.append (by decide) (.of_wide _)) (by decide)) (.of_narrow _))
      (by decide)
  exact .append (.append (.append (.append (.append (.append place returnType) (by decide))
    operation) (by decide)) parameterTypes) (by decide)

namespace Delegate.Tells

variable {σ : Type} {delegate : Delegate} {surroundings : Log.Surroundings} {shelf : σ → Shelf}
  {call : Call} {world : World σ} {done : Ending call.Answer × World σ} {entry exit : Log.Event}
  (tells : delegate.Tells surroundings shelf call world done entry exit)

include tells

theorem oneLine_signature_entry : OneLine entry.signature := by
  obtain ⟨returnType, operation, parameterTypes⟩ := call.oneLine_operation
  rw [tells.entry_eq]
  exact Log.Event.oneLine_signature returnType operation parameterTypes

theorem oneLine_signature_exit : OneLine exit.signature := by
  have sameSignature : exit.signature = entry.signature := by
    rw [tells.exit_eq]
    rfl
  rw [sameSignature]
  exact tells.oneLine_signature_entry

/-- Without frames the line for an entry is broken only by texts that stand in it as they are. -/
theorem oneLine_entry_iff (frameless : delegate.stackTraces = false) :
    OneLine entry.message ↔ ∀ text ∈ call.rawTexts, OneLine text := by
  have message :
      entry.message =
        ">>> " ++ entry.signature ++ " called with (" ++
          Inspection.commas (call.given.map (Argument.shown (shelf world.inner))) ++ ")" ++ "" := by
    rw [tells.entry_eq, frameless]
    rfl
  have front : OneLine (">>> " ++ entry.signature ++ " called with (") :=
    .append (.append (by decide) tells.oneLine_signature_entry) (by decide)
  have closing : OneLine ")" := by
    decide
  have nothing : OneLine "" := by
    decide
  rw [message, OneLine.append_iff, OneLine.append_iff, OneLine.append_iff,
    call.oneLine_arguments_iff]
  simp only [front, closing, nothing, true_and, and_true]

theorem oneLine_result (text : String) (shown : text ∈ exit.result) : OneLine text := by
  rw [tells.exit_eq] at shown
  exact Call.oneLine_result? shown

/-- The line for an exit is never broken. -/
theorem oneLine_exit : OneLine exit.message := by
  have signature : OneLine exit.signature := tells.oneLine_signature_exit
  have notEntry : exit.moment ≠ .entry := by
    rw [tells.exit_eq]
    exact done.1.moment_ne_entry call.operation
  cases moment : exit.moment with
  | entry => exact absurd moment notEntry
  | completed =>
      rw [Log.Event.message, moment]
      exact .append (.append (by decide) signature) (by decide)
  | failed =>
      rw [Log.Event.message, moment]
      exact .append (.append (by decide) signature) (by decide)
  | returned =>
      have answer : OneLine (exit.result.getD "") := by
        cases shown : exit.result with
        | none => decide
        | some text => exact tells.oneLine_result text shown
      rw [Log.Event.message, moment]
      exact .append (.append (.append (by decide) signature) (by decide)) answer

end Delegate.Tells

/-! ## The whole log -/

namespace Service.Chronicle

variable {σ α : Type} {delegate : Delegate} {surroundings : Log.Surroundings} {shelf : σ → Shelf}
  {service : Service σ α} {world : World σ} {events : List Log.Event}

/-- A log without frames has only unbroken lines if no text that stands in it as it is has a line
break. -/
theorem oneLine_iff
    (chronicle : service.Chronicle delegate surroundings shelf world events)
    (frameless : delegate.stackTraces = false) :
    (∀ event ∈ events, OneLine event.message) ↔
      ∀ (call : Call) (served : Service σ call.Answer) (start : World σ),
        service.Makes delegate surroundings shelf world call served start →
          ∀ text ∈ call.rawTexts, OneLine text := by
  constructor
  · intro unbroken call served start made
    obtain ⟨front, between, back, entry, exit, split, told, _, _⟩ :=
      chronicle.placed call served start made
    have recorded : entry ∈ events := by
      rw [split]
      exact List.mem_append_right front List.mem_cons_self
    exact (told.oneLine_entry_iff frameless).1 (unbroken entry recorded)
  · intro plain event member
    obtain ⟨call, served, start, entry, exit, made, told, rfl | rfl⟩ :=
      chronicle.origin event member
    · exact (told.oneLine_entry_iff frameless).2 (plain call served start made)
    · exact told.oneLine_exit

end Service.Chronicle

/-- **Only names of modules and of files break lines of the log.** Let a delegate that takes no
frames be around any manager. The line for the exit of a call never has a line break, whatever was
answered and however the call ended. The line for its entry has one exactly if the name of a module,
or the container or path of a file, that the call was given has one; texts that the call was given
as such do no harm. And if the sink keeps every level, the lines of all events that a service adds
to the log are unbroken exactly if this holds of every call that it makes. -/
theorem log_lines_break_only_at_names
    (number : Nat) (sink : Log.Sink) {σ : Type} (surroundings : Log.Surroundings)
    (shelf : σ → Shelf) :
    let delegate : Delegate := ⟨number, false, sink⟩
    (∀ (inner : Manager σ) (call : Call) (world : World σ),
      let begun := delegate.opened surroundings call.operation
        (call.arguments (shelf world.inner)) world
      let done := delegate.around surroundings shelf inner call world
      ∃ entry exit : Log.Event,
        begun = delegate.record surroundings entry (delegate.enter world) ∧
          done.2 = delegate.leave (delegate.record surroundings exit (inner call begun).2) ∧
          delegate.Tells surroundings shelf call world done entry exit ∧
          OneLine exit.message ∧
          (OneLine entry.message ↔ ∀ text ∈ call.rawTexts, OneLine text)) ∧
    ((∀ level, sink.keeps level = true) →
      ∀ (α : Type) (service : Service σ α) (world : World σ),
        ∃ events : List Log.Event,
          service.Chronicle delegate surroundings shelf world events ∧
            ((∀ event ∈ events, OneLine event.message) ↔
              ∀ (call : Call) (served : Service σ call.Answer) (start : World σ),
                service.Makes delegate surroundings shelf world call served start →
                  ∀ text ∈ call.rawTexts, OneLine text)) := by
  intro delegate
  constructor
  · intro inner call world begun done
    obtain ⟨entry, exit, begunEq, doneEq, tells⟩ :=
      delegate.tells_pass surroundings shelf call (inner call) world
    exact ⟨entry, exit, begunEq, doneEq, tells, tells.oneLine_exit, tells.oneLine_entry_iff rfl⟩
  · intro keepsAll α service world
    obtain ⟨events, chronicle⟩ :=
      service.chronicle_perform delegate surroundings shelf keepsAll world
    exact ⟨events, chronicle, chronicle.oneLine_iff rfl⟩

/-- Line breaks in a path that is given as a text are quoted away. -/
theorem log_lines_break_only_at_names_path :
    let delegate : Delegate := ⟨1, false, .lines .trace⟩
    let surroundings : Log.Surroundings := ⟨none, []⟩
    let call : Call := .contains (.standard .classPath) "a\nb\r"
    let service : Service Store Bool := .callBack call (.finish (.returned true)) .finish
    (∀ level, delegate.sink.keeps level = true) ∧
      ∃ events : List Log.Event,
        service.Chronicle delegate surroundings Store.shelf ⟨.start, .new "17"⟩ events ∧
          ∀ event ∈ events, OneLine event.message := by
  intro delegate surroundings call service
  have keepsAll : ∀ level, delegate.sink.keeps level = true := by
    intro level
    cases level <;> rfl
  refine ⟨keepsAll, ?_⟩
  obtain ⟨events, chronicle, unbroken_iff⟩ :=
    (log_lines_break_only_at_names 1 (.lines .trace) surroundings Store.shelf).2 keepsAll Bool
      service ⟨.start, .new "17"⟩
  refine ⟨events, chronicle, unbroken_iff.2 ?_⟩
  intro made _ _ makes text member
  change Service.Makes _ _ _ (.callBack call (.finish (.returned true)) .finish) _ _ _ _ at makes
  cases makes with
  | here => cases member
  | inside makes => cases makes
  | beyond makes => cases makes

/-- The name of a module puts a line feed into the line for the entry of a call. -/
theorem log_line_broken_by_module_name :
    let delegate : Delegate := ⟨1, false, .memory .trace⟩
    let call : Call := .hasLocation (.module .classOutput "a\nb")
    let done := delegate.around ⟨none, []⟩ Store.shelf Store.manager call ⟨.start, .new "17"⟩
    ∃ record ∈ done.2.journal.records,
      record.event.message =
          ">>> [thread=1, depth=1] bool has_location(&Location) called with (CLASS_OUTPUT[a\nb])" ∧
        ¬ OneLine record.event.message := by
  decide

end CompilationChecks
