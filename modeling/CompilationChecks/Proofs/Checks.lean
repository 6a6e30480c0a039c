import CompilationChecks.Check.Outcome
import CompilationChecks.Proofs.Containers

/-!
# When checks pass

A check passes exactly when the fact that it is named for holds. What a check says when it does not
pass plays no part here.
-/

namespace CompilationChecks

theorem Verdict.require_ok_iff
    {condition : Bool} {complaint : Complaint} :
    Verdict.require condition complaint = .ok () ↔ condition = true := by
  unfold require
  cases condition with
  | false => simp
  | true => simp

theorem Verdict.require_error_iff
    {condition : Bool} {complaint raised : Complaint} :
    Verdict.require condition complaint = .error raised ↔
      condition = false ∧ complaint = raised := by
  unfold require
  cases condition with
  | false => simp
  | true => simp

/-- One check after another passes if both do. -/
theorem Verdict.bind_ok_iff
    {first second : Verdict Unit} :
    (first >>= fun _ => second) = .ok () ↔ first = .ok () ∧ second = .ok () := by
  cases first with
  | error complaint => simp [bind, Except.bind]
  | ok passed => simp [bind, Except.bind]

/-- The complaint about one check after another is that of the first that does not pass. -/
theorem Verdict.bind_error_iff
    {first second : Verdict Unit} {raised : Complaint} :
    (first >>= fun _ => second) = .error raised ↔
      first = .error raised ∨ first = .ok () ∧ second = .error raised := by
  cases first with
  | error complaint => simp [bind, Except.bind]
  | ok passed => simp [bind, Except.bind]

namespace Check

/-! ## Reports -/

theorem Reports.hasNone_ok_iff
    {kinds : List DiagnosticKind} {className : String} {reports : List Diagnostic} :
    hasNone kinds className reports = .ok () ↔ ∀ report ∈ reports, report.kind ∉ kinds := by
  unfold hasNone Diagnostic.ofKinds
  rw [Verdict.require_ok_iff, List.isEmpty_iff, List.filter_eq_nil_iff]
  constructor
  · intro unwanted report member inKinds
    exact unwanted report member (List.contains_iff_mem.2 inKinds)
  · intro wanted report member inKinds
    exact wanted report member (List.contains_iff_mem.1 inKinds)

/-! ## Files -/

/-- The paths are those of files exactly if the location is known and its group holds each. -/
theorem Lookup.allFilesExist_ok_iff
    {lookup : Lookup PackageGroup} {shelf : Shelf} {paths : List String} :
    lookup.allFilesExist shelf paths = .ok () ↔
      ∃ group, lookup.group = some group ∧
        ∀ path ∈ paths, group.contains shelf path = true := by
  unfold allFilesExist require
  cases lookup.group with
  | none => simp [bind, Except.bind]
  | some group =>
      simp only [bind, Except.bind, Verdict.require_ok_iff, List.isEmpty_iff,
        List.filter_eq_nil_iff, List.forall_mem_map, PackageGroup.contains_normalize]
      constructor
      · intro noneMissing
        refine ⟨group, rfl, fun path member => ?_⟩
        have held := noneMissing path member
        simpa using held
      · rintro ⟨known, same, allHeld⟩ path member
        cases same
        simp [allHeld path member]

end Check

/-! ## Outcomes -/

namespace Compilation

variable {compilation : Compilation}

theorem isSuccessful_ok_iff :
    compilation.isSuccessful = .ok () ↔ compilation.successful = true :=
  Verdict.require_ok_iff

theorem hasFailed_ok_iff :
    compilation.hasFailed = .ok () ↔ compilation.successful = false := by
  unfold hasFailed isFailure
  rw [Verdict.require_ok_iff, Bool.not_eq_true']

theorem isSuccessfulWithoutWarnings_ok_iff :
    compilation.isSuccessfulWithoutWarnings = .ok () ↔
      compilation.successful = true ∧
        ∀ report ∈ compilation.diagnostics,
          report.kind ∉ DiagnosticKind.warningsAndErrors := by
  unfold isSuccessfulWithoutWarnings Check.Reports.hasNoErrorsOrWarnings
  rw [Verdict.bind_ok_iff, isSuccessful_ok_iff, Check.Reports.hasNone_ok_iff]

end Compilation

end CompilationChecks
