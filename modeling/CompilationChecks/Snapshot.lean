import CompilationChecks.Group

/-!
Snapshots of groups. A group shows later writes; a snapshot tells what the containers of the group
held at one moment.
-/

namespace CompilationChecks

/-- The paths in one container at some moment. -/
structure ContainerSnapshot where
  /-- The name of the container. -/
  name : String
  /-- The paths in ascending order. -/
  paths : List String
  deriving DecidableEq, Repr

/-- The roots of a location at some moment. -/
structure PackageSnapshot where
  /-- The location. -/
  location : Location
  /-- The roots in order. -/
  containers : List ContainerSnapshot
  deriving DecidableEq, Repr

/-- The modules of a location at some moment. -/
structure ModuleSnapshot where
  /-- The location. -/
  location : Location
  /-- The modules in the order of their names. -/
  modules : List (String × PackageSnapshot)
  deriving DecidableEq, Repr

/-- The roots and the modules of an output location at some moment. -/
structure OutputSnapshot where
  /-- The roots of the location itself. -/
  package : PackageSnapshot
  /-- The modules in the order of their names. -/
  modules : List (String × PackageSnapshot)
  deriving DecidableEq, Repr

/-- What a container holds. -/
def Container.snapshot (container : Container) : ContainerSnapshot :=
  ⟨container.name, container.paths⟩

/-- What the roots of a group hold. -/
def PackageGroup.snapshot (group : PackageGroup) (shelf : Shelf) : PackageSnapshot :=
  ⟨group.location, (group.containers shelf).map Container.snapshot⟩

/-- What several modules hold. -/
def snapshotModules (modules : SortedTable String PackageGroup) (shelf : Shelf) :
    List (String × PackageSnapshot) :=
  modules.entries.map fun entry => (entry.1, entry.2.snapshot shelf)

/-- What the modules of a group hold. -/
def ModuleGroup.snapshot (group : ModuleGroup) (shelf : Shelf) : ModuleSnapshot :=
  ⟨group.location, snapshotModules group.modules shelf⟩

/-- What the roots and the modules of a group hold. -/
def OutputGroup.snapshot (group : OutputGroup) (shelf : Shelf) : OutputSnapshot :=
  ⟨group.package.snapshot shelf, snapshotModules group.modules shelf⟩

end CompilationChecks
