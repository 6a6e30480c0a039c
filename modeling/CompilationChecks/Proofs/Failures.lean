import CompilationChecks.Failure
import Mathlib.Algebra.Order.Group.Multiset

/-!
# Unwrapping failures

A failure is a tree: below it stand the cause that it passes on, if it does, and the failures that
were set aside. Unwrapping moves the wrapper from above its cause to the last place among what the
cause has set aside. So no fault gets lost or comes in twice, the tree has one cause less at its
head, and as soon as there is none left nothing changes any more.
-/

namespace CompilationChecks.Failure

/-! ## The parts of a failure -/

mutual

/-- The faults of all failures in the tree, each without the cause that it passes on. -/
def faults : Failure → Multiset Fault
  | .raised fault suppressed => fault ::ₘ faultsOf suppressed
  | .forwarded operation cause suppressed =>
    .dispatch operation ::ₘ (cause.faults + faultsOf suppressed)

def faultsOf : List Failure → Multiset Fault
  | [] => 0
  | failure :: others => failure.faults + faultsOf others

end

/-- How many failures stand one behind the other as causes. -/
def causeCount : Failure → Nat
  | .raised _ _ => 0
  | .forwarded _ cause _ => cause.causeCount + 1

/-- The last of the failures that stand one behind the other. -/
def innermost : Failure → Failure
  | .raised fault suppressed => .raised fault suppressed
  | .forwarded _ cause _ => cause.innermost

/-- The failure without the cause that it passes on. -/
def withoutCause (failure : Failure) : Failure :=
  .raised failure.fault failure.suppressed

theorem faultsOf_append (front back : List Failure) :
    faultsOf (front ++ back) = faultsOf front + faultsOf back := by
  induction front with
  | nil => rw [List.nil_append, faultsOf, zero_add]
  | cons failure others inductionHypothesis =>
      simp only [List.cons_append, faultsOf, inductionHypothesis]
      rw [add_assoc]

theorem suppressedText_append (front back : List Failure) :
    suppressedText (front ++ back) = suppressedText front ++ suppressedText back := by
  induction front with
  | nil => rw [List.nil_append, suppressedText, String.empty_append]
  | cons failure others inductionHypothesis =>
      simp only [List.cons_append, suppressedText, inductionHypothesis, String.append_assoc]

/-- The text of a failure says nothing about its cause. -/
theorem message_eq (failure : Failure) :
    failure.message = failure.fault.message ++ suppressedText failure.suppressed := by
  cases failure with
  | raised fault suppressed => simp only [message, Failure.fault, Failure.suppressed]
  | forwarded operation cause suppressed =>
      simp only [message, Failure.fault, Failure.suppressed]

@[simp]
theorem message_withoutCause (failure : Failure) :
    failure.withoutCause.message = failure.message := by
  rw [message_eq, message_eq failure]
  rfl

/-! ## Setting one more aside -/

section Suppress

variable (failure other : Failure)

@[simp]
theorem fault_suppress : (failure.suppress other).fault = failure.fault := by
  cases failure <;> rfl

@[simp]
theorem cause?_suppress : (failure.suppress other).cause? = failure.cause? := by
  cases failure <;> rfl

@[simp]
theorem suppressed_suppress :
    (failure.suppress other).suppressed = failure.suppressed ++ [other] := by
  cases failure <;> rfl

@[simp]
theorem causeCount_suppress : (failure.suppress other).causeCount = failure.causeCount := by
  cases failure <;> rfl

theorem message_suppress :
    (failure.suppress other).message =
      failure.message ++ " (suppressed: " ++ other.message ++ ")" := by
  rw [message_eq, message_eq failure, fault_suppress, suppressed_suppress,
    suppressedText_append]
  simp only [suppressedText, String.append_assoc, String.append_empty]

theorem faults_suppress :
    (failure.suppress other).faults = failure.faults + other.faults := by
  cases failure with
  | raised fault suppressed =>
      simp only [suppress, faults, faultsOf_append, faultsOf, add_zero, Multiset.cons_add]
  | forwarded operation cause suppressed =>
      simp only [suppress, faults, faultsOf_append, faultsOf, add_zero, Multiset.cons_add]
      rw [add_assoc]

end Suppress

/-! ## One step -/

theorem unwrap_forwarded (operation : String) (cause : Failure) (suppressed : List Failure) :
    (forwarded operation cause suppressed).unwrap =
      cause.suppress (forwarded operation cause suppressed).withoutCause := rfl

theorem unwrap_of_cause?_eq_none {failure : Failure} (last : failure.cause? = none) :
    failure.unwrap = failure := by
  cases failure with
  | raised fault suppressed => rfl
  | forwarded operation cause suppressed => cases last

/-- Unwrapping keeps all faults of the tree. -/
theorem faults_unwrap (failure : Failure) : failure.unwrap.faults = failure.faults := by
  cases failure with
  | raised fault suppressed => rfl
  | forwarded operation cause suppressed =>
      have wrapper :
          (forwarded operation cause suppressed).withoutCause.faults =
            .dispatch operation ::ₘ faultsOf suppressed := by
        simp only [withoutCause, fault, Failure.suppressed, faults]
      rw [unwrap_forwarded, faults_suppress, wrapper, Multiset.add_cons]
      simp only [faults]

theorem causeCount_unwrap (failure : Failure) :
    failure.unwrap.causeCount = failure.causeCount - 1 := by
  cases failure with
  | raised fault suppressed => rfl
  | forwarded operation cause suppressed =>
      rw [unwrap_forwarded, causeCount_suppress]
      rfl

theorem cause?_eq_none_iff {failure : Failure} :
    failure.cause? = none ↔ failure.causeCount = 0 := by
  cases failure with
  | raised fault suppressed => exact iff_of_true rfl rfl
  | forwarded operation cause suppressed =>
      have hasCause : (forwarded operation cause suppressed).cause? ≠ none :=
        Option.some_ne_none cause
      exact iff_of_false hasCause (Nat.succ_ne_zero cause.causeCount)

/-! ## Several steps -/

theorem causeCount_iterate_unwrap (failure : Failure) (steps : Nat) :
    (unwrap^[steps] failure).causeCount = failure.causeCount - steps := by
  induction steps with
  | zero => rfl
  | succ steps inductionHypothesis =>
      rw [Function.iterate_succ_apply', causeCount_unwrap, inductionHypothesis]
      omega

/-- Further steps change nothing once no cause is left at the head. -/
theorem iterate_unwrap_add (failure : Failure) (more : Nat) :
    unwrap^[failure.causeCount + more] failure = unwrap^[failure.causeCount] failure := by
  induction more with
  | zero => rfl
  | succ more inductionHypothesis =>
      have noneLeft : (unwrap^[failure.causeCount] failure).cause? = none := by
        have count := causeCount_iterate_unwrap failure failure.causeCount
        rw [Nat.sub_self] at count
        exact cause?_eq_none_iff.2 count
      rw [← Nat.add_assoc, Function.iterate_succ_apply', inductionHypothesis]
      exact unwrap_of_cause?_eq_none noneLeft

theorem innermost_eq (failure : Failure) :
    failure.innermost = .raised failure.innermost.fault failure.innermost.suppressed := by
  induction failure using innermost.induct with
  | case1 fault suppressed => rfl
  | case2 operation cause suppressed inductionHypothesis => exact inductionHypothesis

/-- What unwrapping a failure to its end adds to the failures that its innermost cause has set
aside, if `other` was set aside before: the chain of wrappers, the innermost one on top. -/
def chained (other : Failure) : Failure → Failure
  | .raised _ _ => other
  | .forwarded operation cause suppressed =>
    chained (.raised (.dispatch operation) (suppressed ++ [other])) cause

theorem iterate_unwrap_suppress (failure other : Failure) :
    unwrap^[failure.causeCount] (failure.suppress other) =
      failure.innermost.suppress (chained other failure) := by
  induction failure using innermost.induct generalizing other with
  | case1 fault suppressed => rfl
  | case2 operation cause suppressed inductionHypothesis =>
      -- One step hands the wrapper, together with `other`, to the cause.
      exact inductionHypothesis (.raised (.dispatch operation) (suppressed ++ [other]))

/-- Unwrapped to its end, a failure is its innermost cause with at most one failure more set
aside. -/
theorem iterate_unwrap_eq (failure : Failure) :
    ∃ aside : List Failure,
      unwrap^[failure.causeCount] failure =
          .raised failure.innermost.fault (failure.innermost.suppressed ++ aside) ∧
        aside.length = min failure.causeCount 1 := by
  cases failure with
  | raised fault suppressed =>
      refine ⟨[], ?_, rfl⟩
      rw [List.append_nil]
      rfl
  | forwarded operation cause suppressed =>
      have settled :=
        iterate_unwrap_suppress cause (forwarded operation cause suppressed).withoutCause
      refine ⟨[chained (forwarded operation cause suppressed).withoutCause cause], ?_, ?_⟩
      · rw [causeCount, Function.iterate_succ_apply, unwrap_forwarded, settled,
          innermost_eq cause]
        rfl
      · exact (Nat.min_eq_right (Nat.succ_pos cause.causeCount)).symm

end CompilationChecks.Failure
