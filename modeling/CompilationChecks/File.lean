import CompilationChecks.Location
import CompilationChecks.Path

/-!
What a file manager says about a file: where it was found, in which container, under which path,
and what kind of file its name makes it.
-/

namespace CompilationChecks

/-- The kinds of files that a compiler tells apart. -/
inductive FileKind where
  | source
  | classFile
  | html
  | other
  deriving DecidableEq, Repr

namespace FileKind

/-- The kind that the text after the last dot of a path makes a file. -/
def ofPath (path : String) : FileKind :=
  match (Path.splitExtension? path).map Prod.snd with
  | some "java" => .source
  | some "class" => .classFile
  | some "html" => .html
  | _ => .other

/-- The ending of the names of files of a kind. -/
def extension : FileKind → String
  | .source => ".java"
  | .classFile => ".class"
  | .html => ".html"
  | .other => ""

/-- The name of a kind in recorded data. -/
def name : FileKind → String
  | .source => "source"
  | .classFile => "class"
  | .html => "html"
  | .other => "other"

/-- The kind as log entries show it inside values. -/
def inspect : FileKind → String
  | .source => "Source"
  | .classFile => "Class"
  | .html => "Html"
  | .other => "Other"

end FileKind

/-- A file as the manager names it to its callers. -/
structure FileRef where
  /-- The location that the file was found in. -/
  location : Location
  /-- The name of the container that holds it. -/
  container : String
  /-- Its path inside the container. -/
  path : String
  /-- The kind of file. -/
  kind : FileKind
  deriving DecidableEq, Repr

namespace FileRef

/-- The reference to the file with a path in a container of a location. -/
def locate (location : Location) (container path : String) : FileRef :=
  ⟨location, container, path, FileKind.ofPath path⟩

/-- Location, container and path on one line. -/
def display (file : FileRef) : String :=
  file.location.name ++ ":" ++ file.container ++ "/" ++ file.path

/-- The reference as log entries show it inside values. -/
def inspect (file : FileRef) : String :=
  Inspection.record "FileObject"
    [("location", file.location.inspect), ("container", Text.quoted file.container),
      ("path", Text.quoted file.path), ("kind", file.kind.inspect)]

/-- The dotted name of the class that a file is for: its path without the extension of the
file name, with dots for slashes. -/
def binaryName (file : FileRef) : String :=
  let stem := ((Path.splitExtension? file.path).map Prod.fst).getD file.path
  String.ofList (stem.toList.map fun c => if c = '/' then '.' else c)

end FileRef

end CompilationChecks
