import CompilationChecks.Log.Journal

/-!
Transcripts: logs and traces as they are shown. The numbers of threads say nothing by themselves,
so a transcript numbers the threads from one in the order in which it mentions them.
-/

namespace CompilationChecks.Log

/-- The threads that a transcript has mentioned, first one first. -/
abbrev Roll := List UInt64

/-- Something that mentions threads. -/
abbrev Mention (α : Type) := StateM Roll α

namespace Mention

/-- The number of a thread in the transcript. -/
def thread (number : UInt64) : Mention UInt64 := fun roll =>
  match roll.idxOf? number with
  | some place => (UInt64.ofNat (place + 1), roll)
  | none => (UInt64.ofNat (roll.length + 1), roll ++ [number])

/-- An event with the number of its thread in the transcript. -/
def event (event : Event) : Mention Event := do
  return { event with thread := ← thread event.thread }

/-- A record with the number of its thread in the transcript. -/
def record (record : Record) : Mention Record := do
  return { record with event := ← event record.event }

/-- A notice with the number of its thread in the transcript, if it is about a call. -/
def notice (notice : Notice) : Mention Notice :=
  match notice with
  | .call found => return .call (← event found)
  | other => return other

/-- A log, and then a trace. -/
def logAndTrace (records : List Record) (notices : List Notice) :
    Mention (List Record × List Notice) := do
  let shownRecords ← records.mapM record
  let shownNotices ← notices.mapM notice
  return (shownRecords, shownNotices)

end Mention

/-- The log and the trace of a journal, as a transcript of their own. -/
def Journal.transcript (journal : Journal) : List Record × List Notice :=
  (Mention.logAndTrace journal.records journal.notices []).1

end CompilationChecks.Log
