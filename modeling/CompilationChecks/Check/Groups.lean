import CompilationChecks.Check.Complaint
import CompilationChecks.Check.Reports
import CompilationChecks.Group

/-!
Checks on what a file manager holds for a location, and on the files found there. The location may
be unknown to the manager; then it holds no file, and every check that needs its group complains.
The containers behind a group are read at the time of the check.
-/

namespace CompilationChecks.Check

/-- A file that a check found, with the content it had then. -/
structure FoundFile where
  /-- The location that holds the file. -/
  location : Location
  /-- The canonical path. -/
  path : String
  /-- The content. -/
  content : Bytes
  deriving DecidableEq, Repr

/-- What a file manager gave for a location: a group, or nothing if it does not know the
location. -/
structure Lookup (γ : Type) where
  /-- The location. -/
  location : Location
  /-- The group. -/
  group : Option γ
  deriving DecidableEq, Repr

namespace Lookup

variable {γ : Type}

/-- The group, without which most checks make no sense. -/
def require (lookup : Lookup γ) : Verdict γ :=
  match lookup.group with
  | some group => .ok group
  | none => .error (.notConfigured lookup.location)

/-- The location is known. -/
def isConfigured (lookup : Lookup γ) : Verdict Unit :=
  lookup.require.map fun _ => ()

/-- The location is not known. -/
def isNotConfigured (lookup : Lookup γ) : Verdict Unit :=
  .require lookup.group.isNone (.configured lookup.location)

/-! ## Files of a group -/

/-- The files of a group as complaints list them: root by root, each path behind the name of its
container. -/
def present (group : PackageGroup) (shelf : Shelf) : List String :=
  (group.containers shelf).flatMap fun container =>
    container.paths.map fun path => container.name ++ "/" ++ path

/-- The file with a path. -/
def fileExists (lookup : Lookup PackageGroup) (shelf : Shelf) (path : String) :
    Verdict FoundFile := do
  let group ← lookup.require
  match group.read shelf (Path.normalize path) with
  | some content => .ok ⟨lookup.location, Path.normalize path, content⟩
  | none =>
    .error (.fileMissing lookup.location (Path.normalize path) (present group shelf))

/-- No file has a path. -/
def fileDoesNotExist (lookup : Lookup PackageGroup) (shelf : Shelf) (path : String) :
    Verdict Unit :=
  .require (!lookup.group.any fun group => group.contains shelf (Path.normalize path))
    (.filePresent lookup.location (Path.normalize path))

/-- Each of several paths is that of a file. -/
def allFilesExist (lookup : Lookup PackageGroup) (shelf : Shelf) (paths : List String) :
    Verdict Unit := do
  let group ← lookup.require
  let missing := (paths.map Path.normalize).filter fun path => !group.contains shelf path
  .require missing.isEmpty (.filesMissing lookup.location missing (present group shelf))

/-! ## Modules of a group -/

/-- The module with a name, out of the modules of a location. -/
def moduleOf (location : Location) (modules : SortedTable String PackageGroup)
    (moduleName : String) : Verdict (Lookup PackageGroup) :=
  match modules.find? moduleName with
  | some group => .ok ⟨group.location, some group⟩
  | none => .error (.moduleMissing location moduleName modules.keys)

/-- The module with a name, of a location that holds modules. -/
def moduleExists (lookup : Lookup ModuleGroup) (moduleName : String) :
    Verdict (Lookup PackageGroup) := do
  let group ← lookup.require
  moduleOf lookup.location group.modules moduleName

/-- The module with a name, of an output location. -/
def outputModuleExists (lookup : Lookup OutputGroup) (moduleName : String) :
    Verdict (Lookup PackageGroup) := do
  let group ← lookup.require
  moduleOf lookup.location group.modules moduleName

/-- The roots of an output location itself, without its modules. -/
def packages (lookup : Lookup OutputGroup) : Lookup PackageGroup :=
  ⟨lookup.location, lookup.group.map OutputGroup.package⟩

end Lookup

/-! ## Files -/

namespace FoundFile

/-- The content is the given one. -/
def hasContent (file : FoundFile) (expected : Bytes) : Verdict Unit :=
  .require (file.content == expected)
    (.wrongContent file.location file.path expected file.content)

/-- The content is text and has a part. -/
def containsText (file : FoundFile) (part : String) : Verdict Unit :=
  match Utf8.decode? file.content with
  | none => .error (.notText file.location file.path)
  | some text => .require (hasPart text part) (.textLacks file.location file.path part)

/-- The content is not empty. -/
def isNotEmpty (file : FoundFile) : Verdict Unit :=
  .require (!file.content.isEmpty) (.emptyFile file.location file.path)

end FoundFile

end CompilationChecks.Check
