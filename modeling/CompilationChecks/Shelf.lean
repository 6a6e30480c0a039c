import CompilationChecks.Container

/-!
Containers are shared: several locations may have the same container as a root, and a write
through one of them shows in all. The shelf holds every container once, and everything else names
a container by its place on the shelf.
-/

namespace CompilationChecks

/-- The place of a container on the shelf. -/
abbrev ContainerId := Nat

/-- All containers, each at its own place. Places are never given up or used again. -/
structure Shelf where
  /-- The containers in the order in which they were made. -/
  containers : List Container
  deriving DecidableEq, Repr

namespace Shelf

/-- The shelf without containers. -/
def empty : Shelf :=
  ⟨[]⟩

/-- The container at a place; an empty nameless one where there is none. -/
def get (shelf : Shelf) (id : ContainerId) : Container :=
  shelf.containers.getD id default

/-- The shelf with one container more, which gets the place `shelf.size`. -/
def add (shelf : Shelf) (container : Container) : Shelf :=
  ⟨shelf.containers ++ [container]⟩

/-- The number of places in use. -/
def size (shelf : Shelf) : Nat :=
  shelf.containers.length

/-- The shelf after a file was written into one container. -/
def write (shelf : Shelf) (id : ContainerId) (path : String) (content : Bytes) : Shelf :=
  ⟨shelf.containers.modify id fun container => container.write path content⟩

end Shelf

end CompilationChecks
