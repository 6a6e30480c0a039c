import CompilationChecks.Diagnostic

/-!
The outcome of one run of a compiler: whether it succeeded, what it reported and what it printed.
The files that the run read and wrote stay with its file manager.
-/

namespace CompilationChecks

/-- The outcome of one run of a compiler. -/
structure Compilation where
  /-- Whether the compiler succeeded. -/
  successful : Bool
  /-- Whether warnings counted as errors. -/
  failOnWarnings : Bool
  /-- What the compiler reported, in order. -/
  diagnostics : List Diagnostic
  /-- The lines that the compiler printed. -/
  outputLines : List String
  deriving DecidableEq, Repr

namespace Compilation

/-- Whether the compiler failed. -/
def isFailure (compilation : Compilation) : Bool :=
  !compilation.successful

/-- The reports of some kinds, in order. -/
def diagnosticsOf (compilation : Compilation) (kinds : List DiagnosticKind) : List Diagnostic :=
  Diagnostic.ofKinds kinds compilation.diagnostics

/-- The compilation as log entries show it, given the identity of its file manager. -/
def inspect (compilation : Compilation) (manager : String) : String :=
  Inspection.partialRecord "Compilation"
    [("successful", Inspection.flag compilation.successful),
      ("fail_on_warnings", Inspection.flag compilation.failOnWarnings),
      ("diagnostics", toString compilation.diagnostics.length), ("file_manager", manager)]

end Compilation

end CompilationChecks
