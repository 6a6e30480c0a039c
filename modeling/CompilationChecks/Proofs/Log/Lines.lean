import CompilationChecks.Codec.Log
import CompilationChecks.Proofs.Delegate.Interception
import CompilationChecks.Proofs.Json.Records
import CompilationChecks.Proofs.Paths

/-!
# Reading back a written log

A sink for lines writes one line for each event that its limit lets through. Line breaks inside the
texts of an event are written as escapes, so the only line feeds are those that end the lines, and
each line gives back the event that it was written for.
-/

namespace CompilationChecks.Log

open Json

/-! ## Single events -/

namespace Moment

theorem mem_all (moment : Moment) : moment ∈ all := by
  cases moment <;> decide

theorem decode_outline (moment : Moment) : decode moment.encode.outline = .ok moment :=
  decodeNamed_outline _ (by decide) moment.mem_all

end Moment

namespace Event

theorem names_members (event : Event) :
    (event.members.map Prod.fst).Sublist (fields.map Field.name) := by
  simp only [members, List.map_append]
  exact ((((List.Sublist.refl ["kind", "thread", "depth", "return_type", "operation",
    "param_types"]).append
    (names_optionalMember "arguments" .text event.arguments)).append
    (names_optionalMember "stack_trace" .text event.stackTrace)).append
    (names_optionalMember "result" .text event.result)).append
    (names_optionalMember "error" .text event.error)

theorem decode_outline (event : Event) : decode event.encode.outline = .ok event := by
  have moment : (outlines event.members).needed "kind" Moment.decode = .ok event.moment :=
    needed_of_lookup rfl event.moment.decode_outline
  have thread : (outlines event.members).needed "thread" decodeWide = .ok event.thread :=
    needed_of_lookup rfl (decodeWide_outline event.thread)
  have depth : (outlines event.members).needed "depth" decodeNarrow = .ok event.depth :=
    needed_of_lookup rfl (decodeNarrow_outline event.depth)
  have returnType : (outlines event.members).needed "return_type" Json.decodeText =
      .ok event.returnType :=
    needed_of_lookup rfl (decodeText_outline event.returnType)
  have operation : (outlines event.members).needed "operation" Json.decodeText =
      .ok event.operation :=
    needed_of_lookup rfl (decodeText_outline event.operation)
  have parameterTypes : (outlines event.members).needed "param_types" Json.decodeText =
      .ok event.parameterTypes :=
    needed_of_lookup rfl (decodeText_outline event.parameterTypes)
  have arguments : (outlines event.members).spare "arguments" decodeText none =
      .ok event.arguments :=
    spare_of_optional (by simp [members, List.lookup_append, List.lookup_cons]) decodeText_outline
  have stackTrace : (outlines event.members).spare "stack_trace" decodeText none =
      .ok event.stackTrace :=
    spare_of_optional (by simp [members, List.lookup_append, List.lookup_cons]) decodeText_outline
  have result : (outlines event.members).spare "result" decodeText none = .ok event.result :=
    spare_of_optional (by simp [members, List.lookup_append, List.lookup_cons]) decodeText_outline
  have error : (outlines event.members).spare "error" decodeText none = .ok event.error :=
    spare_of_optional (by simp [members, List.lookup_append, List.lookup_cons]) decodeText_outline
  have admitted : ∀ field ∈ fields, field.Admits (outlines event.members) := by
    simp only [fields, List.forall_mem_cons]
    exact ⟨.of_needed moment, .of_needed thread, .of_needed depth, .of_needed returnType,
      .of_needed operation, .of_needed parameterTypes, .of_spare arguments, .of_spare stackTrace,
      .of_spare result, .of_spare error, List.forall_mem_nil _⟩
  obtain ⟨picked, picks, same⟩ :=
    pickFields_object "CallEvent" fields _ (by decide) event.names_members admitted
  simp only [decode, encode, picks, ok_bind, same.needed, same.spare, moment, thread, depth,
    returnType, operation, parameterTypes, arguments, stackTrace, result, error]
  rfl

theorem decode_line (event : Event) : Json.decode decode event.line = .ok event :=
  (recovers_of_outline event.decode_outline).2

/-- No text of an event breaks its line. -/
theorem unbroken_line (event : Event) : ∀ c ∈ event.line.toList, (c == '\n') = false := by
  intro c member
  have written : c ∈ compactChars event.encode := by
    simpa only [line, Value.compact, String.toList_ofList] using member
  have printed : 0x20 ≤ c.toNat := printed_compactChars event.encode c written
  apply beq_false_of_ne
  rintro rfl
  exact absurd printed (by decide)

end Event

/-! ## Several events -/

/-- The text of some records is made of their lines. -/
theorem toList_written (records : List Record) :
    (written records).toList =
      (records.map fun record => record.event.line.toList).flatMap fun line => line ++ ['\n'] := by
  induction records with
  | nil => rfl
  | cons first others inductionHypothesis =>
      have split : written (first :: others) = first.event.line ++ "\n" ++ written others := by
        simp [written, String.join_cons]
      rw [split, String.toList_append, String.toList_append, inductionHypothesis]
      rfl

/-- The journal after a sink was handed several events. -/
def Journal.recordAll (journal : Journal) (surroundings : Surroundings) (delegate : Nat)
    (sink : Sink) (events : List Event) : Journal :=
  events.foldl (fun current event => current.record surroundings delegate sink event) journal

theorem Journal.records_recordAll
    (journal : Journal) (surroundings : Surroundings) (delegate : Nat) (sink : Sink)
    (events : List Event) :
    (journal.recordAll surroundings delegate sink events).records =
      journal.records ++
        (events.filter fun event => sink.keeps event.level).map fun event => ⟨delegate, event⟩ := by
  induction events generalizing journal with
  | nil => exact (List.append_nil _).symm
  | cons first others inductionHypothesis =>
      have step := inductionHypothesis (journal.record surroundings delegate sink first)
      rw [records_record, List.append_assoc] at step
      refine step.trans (congrArg (journal.records ++ ·) ?_)
      by_cases kept : sink.keeps first.level = true
      · simp [kept]
      · simp [kept]

/-- The events that a limit lets through. -/
def enabled (limit : Level) (events : List Event) : List Event :=
  events.filter fun event => event.level.within limit

/-- The text of a sink for lines that was handed several events and has kept nothing before. -/
def textOf (journal : Journal) (surroundings : Surroundings) (delegate : Nat) (limit : Level)
    (events : List Event) : String :=
  written (Journal.recordAll { journal with records := [] } surroundings delegate (.lines limit)
    events).records

theorem toList_textOf
    (journal : Journal) (surroundings : Surroundings) (delegate : Nat) (limit : Level)
    (events : List Event) :
    (textOf journal surroundings delegate limit events).toList =
      ((enabled limit events).map fun event => event.line.toList).flatMap
        fun line => line ++ ['\n'] := by
  rw [textOf, toList_written, Journal.records_recordAll, List.nil_append, List.map_map]
  rfl

/-- A sink for lines writes one line for each event within its limit, in order, and each line is
read back as the event. -/
theorem written_lines_are_read_back
    (journal : Journal) (surroundings : Surroundings) (delegate : Nat) (limit : Level)
    (events : List Event) :
    Text.pieces (· == '\n') (textOf journal surroundings delegate limit events).toList =
        ((enabled limit events).map fun event => event.line.toList) ++ [[]] ∧
      (lines (textOf journal surroundings delegate limit events)).map (Json.decode Event.decode) =
        (enabled limit events).map .ok := by
  have pieces : Text.pieces (· == '\n') (textOf journal surroundings delegate limit events).toList =
      ((enabled limit events).map fun event => event.line.toList) ++ [[]] := by
    rw [toList_textOf]
    apply Text.pieces_of_lines rfl
    intro line member
    obtain ⟨event, _, rfl⟩ := List.mem_map.1 member
    exact event.unbroken_line
  refine ⟨pieces, ?_⟩
  rw [lines, pieces, List.dropLast_concat, List.map_map, List.map_map]
  apply List.map_congr_left
  intro event _
  simp only [Function.comp_apply, String.ofList_toList]
  exact event.decode_line

end CompilationChecks.Log
