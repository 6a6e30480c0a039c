import CompilationChecks.Log.Transcript
import CompilationChecks.Scenario.Play

/-!
The transcript of a scenario: one for all its steps and assertions, in the order in which they
were taken and made.
-/

namespace CompilationChecks.Scenario

/-- An account as part of a transcript. -/
def Account.transcribe {α : Type} (account : Account α) : Log.Mention (Account α) := do
  let (records, notices) ← Log.Mention.logAndTrace account.records account.notices
  return { account with records := records, notices := notices }

/-- How a scenario went. -/
structure Performance where
  /-- What each step gave. -/
  steps : List (Account (Ending Value))
  /-- What each assertion of each chain gave. -/
  chains : List (List (Account (Verdict SubjectSnapshot)))
  /-- The identity of the manager in the end. -/
  display : String
  /-- The state of the manager in the end. -/
  state : String
  deriving Repr

namespace Performance

/-- The performance with the threads numbered as they are mentioned. -/
def transcript (performance : Performance) : Performance :=
  let transcribed : Log.Mention Performance := do
    let steps ← performance.steps.mapM Account.transcribe
    let chains ← performance.chains.mapM fun chain => chain.mapM Account.transcribe
    return { performance with steps := steps, chains := chains }
  (transcribed []).1

end Performance

/-- Takes steps, and then follows chains of assertions about a compilation. -/
def Setting.perform (setting : Setting) (steps : List Step) (compilation : Compilation)
    (chains : List (List Assertion)) : Performance :=
  let played := setting.play steps setting.start
  let asserted := setting.assertChains compilation chains played.2
  Performance.transcript
    ⟨played.1, asserted.1, setting.rig.display asserted.2.inner,
      setting.rig.inspect asserted.2.inner⟩

end CompilationChecks.Scenario
