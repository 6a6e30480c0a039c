/-!
The one-line view of a value that log entries show: records with their field names, lists in
square brackets, tables in braces, optional values marked as present or absent. Texts inside are
quoted by the caller.
-/

namespace CompilationChecks.Inspection

/-- Items separated by a comma and a space. -/
def commas (items : List String) : String :=
  String.intercalate ", " items

/-- The view of a list. -/
def list (items : List String) : String :=
  "[" ++ commas items ++ "]"

/-- The view of a table from keys to values. -/
def table (entries : List (String × String)) : String :=
  "\x7b" ++ commas (entries.map fun entry => entry.1 ++ ": " ++ entry.2) ++ "\x7d"

/-- A value inside a named wrapper. -/
def tagged (tag content : String) : String :=
  tag ++ "(" ++ content ++ ")"

/-- The view of an optional value. -/
def option : Option String → String
  | none => "None"
  | some content => tagged "Some" content

/-- The fields of a record, each after its name. -/
def fields (entries : List (String × String)) : String :=
  commas (entries.map fun entry => entry.1 ++ ": " ++ entry.2)

/-- The view of a record with all its fields. -/
def record (name : String) (entries : List (String × String)) : String :=
  name ++ " \x7b " ++ fields entries ++ " \x7d"

/-- The view of a record that shows only some of its fields. -/
def partialRecord (name : String) (entries : List (String × String)) : String :=
  name ++ " \x7b " ++ fields entries ++ ", .. \x7d"

/-- The view of a truth value. -/
def flag (value : Bool) : String :=
  if value then "true" else "false"

end CompilationChecks.Inspection
