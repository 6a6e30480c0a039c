import CompilationChecks.Activity
import CompilationChecks.Check.Groups
import CompilationChecks.Check.Reports
import CompilationChecks.Compilation

/-!
Checks on the outcome of a compilation, and the ways from there to its reports and to the
locations of its file manager. A location of the wrong category is refused before the manager is
asked, and otherwise the manager is asked once.
-/

namespace CompilationChecks

namespace Compilation

/-- The compilation succeeded. Otherwise its errors explain why, and its warnings too if they
counted as errors. -/
def isSuccessful (compilation : Compilation) : Verdict Unit :=
  .require compilation.successful
    (.compilationFailed
      (compilation.diagnosticsOf
        (if compilation.failOnWarnings then DiagnosticKind.warningsAndErrors
        else DiagnosticKind.errors)))

/-- The compilation succeeded without errors and warnings. -/
def isSuccessfulWithoutWarnings (compilation : Compilation) : Verdict Unit := do
  compilation.isSuccessful
  Check.Reports.hasNoErrorsOrWarnings compilation.diagnostics

/-- The compilation failed. Otherwise its warnings show what was tolerated. -/
def hasFailed (compilation : Compilation) : Verdict Unit :=
  .require compilation.isFailure
    (.compilationSucceeded (compilation.diagnosticsOf DiagnosticKind.warnings))

end Compilation

namespace Check

/-- A check that may ask a file manager. -/
abbrev Inquiry (σ α : Type) := World σ → Verdict α × World σ

namespace Inquiry

variable {σ γ : Type}

/-- A check that asks nobody. -/
def ofVerdict {α : Type} (verdict : Verdict α) : Inquiry σ α :=
  fun world => (verdict, world)

/-- What a call of the manager gives for a location. -/
def lookUp (location : Location) (call : Activity σ (Option γ)) : Inquiry σ (Lookup γ) :=
  fun world =>
    match call world with
    | (.returned group, after) => (.ok ⟨location, group⟩, after)
    | (.failed failure, after) => (.error (.lookupFailed location failure), after)
    | (.panicked text, after) => (.error (.abandoned text), after)

/-- What the manager holds for a location that holds files. -/
def packageGroup (manager : Manager σ) (location : Location) :
    Inquiry σ (Lookup PackageGroup) :=
  if location.isModuleOriented then ofVerdict (.error (.moduleOriented location))
  else lookUp location (manager (.getPackageGroup location))

/-- What the manager holds for a location that holds modules. -/
def moduleGroup (manager : Manager σ) (location : Location) : Inquiry σ (Lookup ModuleGroup) :=
  if location.isModuleOriented then lookUp location (manager (.getModuleGroup location))
  else ofVerdict (.error (.notModuleOriented location))

/-- What the manager holds for an output location. -/
def outputGroup (manager : Manager σ) (location : Location) : Inquiry σ (Lookup OutputGroup) :=
  if location.isOutput then lookUp location (manager (.getOutputGroup location))
  else ofVerdict (.error (.notOutput location))

end Inquiry

end Check

end CompilationChecks
