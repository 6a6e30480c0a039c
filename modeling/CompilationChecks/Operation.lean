import CompilationChecks.Text.Inspection
import CompilationChecks.Text.Quoted

/-!
How log entries describe an operation: by its name, the types of its parameters and the type of
its answer, in the notation that the log is written in.
-/

namespace CompilationChecks

/-- The description of an operation in log entries. -/
structure Operation where
  /-- The name of the operation. -/
  name : String
  /-- The types of its parameters, in order. -/
  parameterTypes : List String
  /-- The type of its answer. -/
  returnType : String
  deriving DecidableEq, Repr

namespace Operation

/-- The type of an answer that says nothing. -/
def nothing : String :=
  "()"

/-- An operation whose answer says nothing. -/
def void (name : String) (parameterTypes : List String) : Operation :=
  ⟨name, parameterTypes, nothing⟩

/-- Whether the answer says nothing. -/
def isVoid (operation : Operation) : Bool :=
  operation.returnType == nothing

/-- The types of the parameters on one line. -/
def parameterList (operation : Operation) : String :=
  Inspection.commas operation.parameterTypes

/-- The description as log entries show it inside values. -/
def inspect (operation : Operation) : String :=
  Inspection.record "Operation"
    [("name", Text.quoted operation.name),
      ("param_types", Inspection.list (operation.parameterTypes.map Text.quoted)),
      ("return_type", Text.quoted operation.returnType)]

end Operation

end CompilationChecks
