import CompilationChecks.Proofs.Check.Blocks
import CompilationChecks.Proofs.Checks

/-!
# Checks on outcomes

Whether a compilation counts as successful or as failed is decided by its status alone, and that it
is free of errors and warnings by the kinds of its reports. A check that does not pass explains
itself with reports, and these are all reports of the kinds that matter to it and no others, each
as often and in the order in which the compiler gave them.
-/

namespace CompilationChecks

/-! ## Kinds -/

namespace Diagnostic

variable (diagnostics : List Diagnostic)

theorem ofKinds_errors :
    ofKinds DiagnosticKind.errors diagnostics =
      diagnostics.filter fun report => report.kind = .error := by
  apply List.filter_congr
  intro report _
  cases report.kind <;> rfl

theorem ofKinds_warnings :
    ofKinds DiagnosticKind.warnings diagnostics =
      diagnostics.filter fun report =>
        report.kind = .warning ∨ report.kind = .mandatoryWarning := by
  apply List.filter_congr
  intro report _
  cases report.kind <;> rfl

theorem ofKinds_warningsAndErrors :
    ofKinds DiagnosticKind.warningsAndErrors diagnostics =
      diagnostics.filter fun report =>
        report.kind = .error ∨ report.kind = .warning ∨ report.kind = .mandatoryWarning := by
  apply List.filter_congr
  intro report _
  cases report.kind <;> rfl

end Diagnostic

/-! ## Explanations -/

/-- A complaint says a sentence, and behind it shows some reports. If there are none, the sentence
is all it says. -/
structure Complaint.Explains (complaint : Complaint) (sentence : String)
    (reports : List Diagnostic) : Prop where
  alone : reports = [] → complaint.message = sentence
  listed : reports ≠ [] →
    complaint.message = sentence ++ "\n\nDiagnostics:\n\n" ++ Diagnostic.blocks reports ∧
      List.Forall₂ Diagnostic.IsBlockOf
        (Text.paragraphs (Diagnostic.blocks reports).toList) reports

namespace Complaint

theorem explains_of_withReports
    {complaint : Complaint} {sentence : String} {reports : List Diagnostic}
    (text : complaint.message = withReports sentence reports) :
    complaint.Explains sentence reports := by
  constructor
  · intro noReports
    rw [text, noReports]
    rfl
  · intro someReports
    refine ⟨?_, Diagnostic.blocks_shown someReports⟩
    have notEmpty : reports.isEmpty = false := by
      simpa using someReports
    have heading : "\n\nDiagnostics:\n\n" = "\n\n" ++ "Diagnostics:" ++ "\n\n" := by
      decide
    rw [text, withReports, notEmpty, heading]
    simp only [Bool.false_eq_true, if_false, paragraphs, String.intercalate_cons_cons,
      String.intercalate_singleton, String.append_assoc]

theorem explains_compilationFailed (reports : List Diagnostic) :
    (compilationFailed reports).Explains
      "Expected a successful compilation, but it failed." reports :=
  explains_of_withReports rfl

theorem explains_compilationSucceeded (reports : List Diagnostic) :
    (compilationSucceeded reports).Explains
      "Expected compilation to fail, but it succeeded." reports :=
  explains_of_withReports rfl

theorem explains_unwantedReports (className : String) (reports : List Diagnostic) :
    (unwantedReports className reports).Explains
      ("Expected no " ++ className ++ ", but found " ++ toString reports.length ++ ".") reports :=
  explains_of_withReports rfl

end Complaint

/-! ## Checks without warnings -/

/-- There are neither errors nor warnings if there are no errors and there are no warnings. -/
theorem Check.Reports.hasNoErrorsOrWarnings_ok_iff {reports : List Diagnostic} :
    hasNoErrorsOrWarnings reports = .ok () ↔
      hasNoErrors reports = .ok () ∧ hasNoWarnings reports = .ok () := by
  unfold hasNoErrorsOrWarnings hasNoErrors hasNoWarnings
  rw [hasNone_ok_iff, hasNone_ok_iff, hasNone_ok_iff, ← forall₂_and]
  refine forall₂_congr fun report _ => ?_
  cases report.kind <;> decide

/-- The complaint about errors and warnings counts and shows all of them, and there are some. -/
theorem Check.Reports.explains_of_hasNoErrorsOrWarnings
    {reports : List Diagnostic} {complaint : Complaint}
    (raised : hasNoErrorsOrWarnings reports = .error complaint) :
    let found := Diagnostic.ofKinds DiagnosticKind.warningsAndErrors reports
    found ≠ [] ∧
      complaint.Explains
        ("Expected no errors or warnings, but found " ++ toString found.length ++ ".") found := by
  intro found
  obtain ⟨filled, rfl⟩ := Verdict.require_error_iff.1 raised
  refine ⟨?_, Complaint.explains_unwantedReports "errors or warnings" found⟩
  simpa [found] using filled

namespace Compilation

variable (compilation : Compilation)

/-- **Outcomes are decided by status and explained by reports.** A compilation counts as successful
if its status says so, and as failed otherwise; it is free of warnings if moreover no report is an
error or a warning, and this is so exactly if it passes as successful and its reports pass as free
of errors and as free of warnings. A complaint about a failed compilation shows its errors, and its
warnings as well if warnings counted as errors; a complaint about a successful one shows its
warnings. A compilation that is not free of warnings is complained about as not successful if it
failed, and otherwise for its errors and warnings, which the complaint counts and shows. -/
theorem outcome_decided_by_status_and_explained :
    let errors := compilation.diagnostics.filter fun report => report.kind = .error
    let warnings := compilation.diagnostics.filter fun report =>
      report.kind = .warning ∨ report.kind = .mandatoryWarning
    let errorsAndWarnings := compilation.diagnostics.filter fun report =>
      report.kind = .error ∨ report.kind = .warning ∨ report.kind = .mandatoryWarning
    ((compilation.isSuccessful = .ok () ↔ compilation.successful = true) ∧
      (compilation.hasFailed = .ok () ↔ ¬ compilation.isSuccessful = .ok ())) ∧
    ((compilation.isSuccessfulWithoutWarnings = .ok () ↔
        compilation.successful = true ∧
          ∀ report ∈ compilation.diagnostics,
            report.kind ≠ .error ∧ report.kind ≠ .warning ∧ report.kind ≠ .mandatoryWarning) ∧
      (compilation.isSuccessfulWithoutWarnings = .ok () ↔
        compilation.isSuccessful = .ok () ∧
          Check.Reports.hasNoErrors compilation.diagnostics = .ok () ∧
          Check.Reports.hasNoWarnings compilation.diagnostics = .ok ())) ∧
    (∀ complaint, compilation.isSuccessful = .error complaint →
      complaint.Explains "Expected a successful compilation, but it failed."
        (if compilation.failOnWarnings then errorsAndWarnings else errors)) ∧
    (∀ complaint, compilation.hasFailed = .error complaint →
      complaint.Explains "Expected compilation to fail, but it succeeded." warnings) ∧
    ∀ complaint, compilation.isSuccessfulWithoutWarnings = .error complaint →
      if compilation.successful then
        errorsAndWarnings ≠ [] ∧
          complaint.Explains
            ("Expected no errors or warnings, but found " ++ toString errorsAndWarnings.length ++
              ".")
            errorsAndWarnings
      else compilation.isSuccessful = .error complaint := by
  intro errors warnings errorsAndWarnings
  refine ⟨⟨isSuccessful_ok_iff, ?_⟩, ⟨?_, ?_⟩, ?_, ?_, ?_⟩
  · rw [hasFailed_ok_iff, isSuccessful_ok_iff, Bool.not_eq_true]
  · rw [isSuccessfulWithoutWarnings_ok_iff]
    refine and_congr_right fun _ => forall₂_congr fun report _ => ?_
    cases report.kind <;> decide
  · unfold isSuccessfulWithoutWarnings
    rw [Verdict.bind_ok_iff, Check.Reports.hasNoErrorsOrWarnings_ok_iff]
  · intro complaint raised
    obtain ⟨_, rfl⟩ := Verdict.require_error_iff.1 raised
    have shown :
        compilation.diagnosticsOf
            (if compilation.failOnWarnings then DiagnosticKind.warningsAndErrors
            else DiagnosticKind.errors) =
          if compilation.failOnWarnings then errorsAndWarnings else errors := by
      unfold diagnosticsOf
      split
      · exact Diagnostic.ofKinds_warningsAndErrors _
      · exact Diagnostic.ofKinds_errors _
    rw [← shown]
    exact Complaint.explains_compilationFailed _
  · intro complaint raised
    obtain ⟨_, rfl⟩ := Verdict.require_error_iff.1 raised
    rw [diagnosticsOf, Diagnostic.ofKinds_warnings]
    exact Complaint.explains_compilationSucceeded warnings
  · intro complaint raised
    rcases Verdict.bind_error_iff.1 raised with failed | ⟨passed, unwanted⟩
    · obtain ⟨unsuccessful, _⟩ := Verdict.require_error_iff.1 failed
      simpa [unsuccessful] using failed
    · rw [if_pos (isSuccessful_ok_iff.1 passed)]
      have explained := Check.Reports.explains_of_hasNoErrorsOrWarnings unwanted
      rw [Diagnostic.ofKinds_warningsAndErrors] at explained
      exact explained

end Compilation

end CompilationChecks
