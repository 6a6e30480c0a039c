import CompilationChecks.File
import CompilationChecks.SortedTable
import CompilationChecks.Text.Utf8

/-!
Containers: named sets of files, each under the canonical form of the path it was written to.
Whatever spelling of a path a caller uses, the same file is meant.
-/

namespace CompilationChecks

/-- A named table from canonical paths to contents. -/
structure Container where
  /-- What messages and file references call the container. -/
  name : String
  /-- The content of each file. -/
  files : SortedTable String Bytes
  deriving DecidableEq, Repr

namespace Container

/-- A container without files. -/
def new (name : String) : Container :=
  ⟨name, .empty⟩

instance : Inhabited Container :=
  ⟨new ""⟩

/-- The container after a file was written. -/
def write (container : Container) (path : String) (content : Bytes) : Container :=
  { container with files := container.files.insert (Path.normalize path) content }

/-- The container after several files were written, in order. -/
def writeAll (container : Container) (files : List (String × Bytes)) : Container :=
  files.foldl (fun filled file => filled.write file.1 file.2) container

/-- The content of a file. -/
def read (container : Container) (path : String) : Option Bytes :=
  container.files.find? (Path.normalize path)

/-- Whether a file exists. -/
def contains (container : Container) (path : String) : Bool :=
  container.files.contains (Path.normalize path)

/-- All paths in ascending order. -/
def paths (container : Container) : List String :=
  container.files.keys

/-- The number of files. -/
def size (container : Container) : Nat :=
  container.files.size

/-- Whether there is no file. -/
def isEmpty (container : Container) : Bool :=
  container.files.isEmpty

/-- The characters that the paths below a directory begin with; none for the top directory. -/
def directoryStart (directory : String) : List Char :=
  if (Path.normalize directory).isEmpty then [] else (Path.normalize directory).toList ++ ['/']

/-- Whether a path lies below the directory with the given start, and directly so unless
`recurse` is set. -/
def isListed (start : List Char) (recurse : Bool) (path : String) : Bool :=
  start.isPrefixOf path.toList && (recurse || !(path.toList.drop start.length).contains '/')

/-- The paths below a directory in ascending order. -/
def list (container : Container) (directory : String) (recurse : Bool) : List String :=
  container.paths.filter (isListed (directoryStart directory) recurse)

/-- The container in messages: its name. -/
def display (container : Container) : String :=
  container.name

/-- The container as log entries show it: its name and the number of its files. -/
def inspect (container : Container) : String :=
  Inspection.record "Container"
    [("name", Text.quoted container.name), ("files", toString container.size)]

end Container

end CompilationChecks
