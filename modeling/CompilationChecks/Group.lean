import CompilationChecks.Shelf

/-!
Groups: the roots of a location, as the manager hands them out. A group keeps the list of roots
that the location had when it was asked for; the containers themselves stay shared, so a group
shows every later write. Of several roots the first that holds a file answers for it.
-/

namespace CompilationChecks

/-- The roots of a location that holds files. -/
structure PackageGroup where
  /-- The location that the roots belong to. -/
  location : Location
  /-- The roots in the order of their registration. -/
  roots : List ContainerId
  deriving DecidableEq, Repr

/-- The modules of a location, each with its own roots. -/
structure ModuleGroup where
  /-- The location that the modules belong to. -/
  location : Location
  /-- The roots of each module. -/
  modules : SortedTable String PackageGroup
  deriving DecidableEq, Repr

/-- The roots of an output location together with those of its modules. -/
structure OutputGroup where
  /-- The roots of the location itself. -/
  package : PackageGroup
  /-- The roots of each module. -/
  modules : SortedTable String PackageGroup
  deriving DecidableEq, Repr

namespace PackageGroup

/-- The containers that the roots stand for. -/
def containers (group : PackageGroup) (shelf : Shelf) : List Container :=
  group.roots.map shelf.get

/-- The first container that holds a file, as a reference to the file. -/
def file? (group : PackageGroup) (shelf : Shelf) (path : String) : Option FileRef :=
  ((group.containers shelf).find? fun container => container.contains (Path.normalize path)).map
    fun container => .locate group.location container.name (Path.normalize path)

/-- Whether some container holds a file. -/
def contains (group : PackageGroup) (shelf : Shelf) (path : String) : Bool :=
  (group.containers shelf).any fun container => container.contains path

/-- The content of a file in the first container that holds it. -/
def read (group : PackageGroup) (shelf : Shelf) (path : String) : Option Bytes :=
  (group.containers shelf).findSome? fun container => container.read path

/-- The files of a package: root by root, and by path within a root. No kinds stand for all. -/
def list (group : PackageGroup) (shelf : Shelf) (packageName : String) (kinds : List FileKind)
    (recurse : Bool) : List FileRef :=
  ((group.containers shelf).flatMap fun container =>
    (container.list (Path.packageDirectory packageName) recurse).map fun path =>
      .locate group.location container.name path).filter
    fun file => kinds.isEmpty || kinds.contains file.kind

/-- The group as log entries show it. -/
def inspect (group : PackageGroup) (shelf : Shelf) : String :=
  Inspection.record "PackageContainerGroup"
    [("location", group.location.inspect),
      ("containers", Inspection.list ((group.containers shelf).map Container.inspect))]

end PackageGroup

/-- Modules with their groups as log entries show them. -/
def inspectModules (modules : SortedTable String PackageGroup) (shelf : Shelf) : String :=
  Inspection.table (modules.entries.map fun entry =>
    (Text.quoted entry.1, entry.2.inspect shelf))

namespace ModuleGroup

/-- The roots of one module. -/
def module? (group : ModuleGroup) (moduleName : String) : Option PackageGroup :=
  group.modules.find? moduleName

/-- The group as log entries show it. -/
def inspect (group : ModuleGroup) (shelf : Shelf) : String :=
  Inspection.record "ModuleContainerGroup"
    [("location", group.location.inspect), ("modules", inspectModules group.modules shelf)]

end ModuleGroup

namespace OutputGroup

/-- The location that the group belongs to. -/
def location (group : OutputGroup) : Location :=
  group.package.location

/-- The modules alone. -/
def moduleGroup (group : OutputGroup) : ModuleGroup :=
  ⟨group.location, group.modules⟩

/-- The roots of one module. -/
def module? (group : OutputGroup) (moduleName : String) : Option PackageGroup :=
  group.modules.find? moduleName

/-- The group as log entries show it. -/
def inspect (group : OutputGroup) (shelf : Shelf) : String :=
  Inspection.record "OutputContainerGroup"
    [("package", group.package.inspect shelf), ("modules", inspectModules group.modules shelf)]

end OutputGroup

end CompilationChecks
