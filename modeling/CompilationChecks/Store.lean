import CompilationChecks.Failure
import CompilationChecks.Group

/-!
The file manager that keeps everything in memory. Its state is the shelf of containers, the roots
of each standard location, the roots of each module of a standard location, and whether it was
closed. Every operation answers and gives the next state, also when it fails.
-/

namespace CompilationChecks

/-- The state of a file manager in memory. -/
structure Store where
  /-- The release that the manager reports. -/
  release : String
  /-- All containers. -/
  shelf : Shelf
  /-- The roots of standard locations that hold files. -/
  packages : SortedTable Location.Standard (List ContainerId)
  /-- The roots of modules, by the standard location they belong to. -/
  modules : SortedTable Location.Standard (SortedTable String (List ContainerId))
  /-- Whether the manager was closed. -/
  closed : Bool
  deriving DecidableEq, Repr

namespace Store

/-- The answer of an operation, and the state it leaves. -/
abbrev Step (α : Type) := Except Failure α × Store

/-- A manager that was just made. -/
def new (release : String) : Store :=
  ⟨release, .empty, .empty, .empty, false⟩

/-! ## The containers -/

/-- The store with one container more on its shelf; its place is `store.shelf.size`. -/
def place (store : Store) (container : Container) : Store :=
  { store with shelf := store.shelf.add container }

/-- The store after a file was written straight into one container. -/
def writeInto (store : Store) (id : ContainerId) (path : String) (content : Bytes) : Store :=
  { store with shelf := store.shelf.write id path content }

/-! ## The roots -/

/-- The roots of a location, if any were ever registered. -/
def roots? (store : Store) : Location → Option (List ContainerId)
  | .standard root => store.packages.find? root
  | .module parent moduleName =>
    (store.modules.find? parent).bind fun modules => modules.find? moduleName

/-- The store with one more root for a module. -/
def registerModule (store : Store) (parent : Location.Standard) (moduleName : String)
    (id : ContainerId) : Store :=
  { store with
    modules := store.modules.update parent fun modules =>
      (modules.getD .empty).update moduleName fun roots => roots.getD [] ++ [id] }

/-- The store with one more root for a location. -/
def register (store : Store) (location : Location) (id : ContainerId) : Store :=
  match location with
  | .standard root =>
    { store with packages := store.packages.update root fun roots => roots.getD [] ++ [id] }
  | .module parent moduleName => store.registerModule parent moduleName id

/-- The store in which a location has roots; if it had none, a new empty container that carries
the name of the location becomes its root. -/
def ensureRoots (store : Store) (location : Location) : Store :=
  if (store.roots? location).getD [] = [] then
    (store.place (.new location.name)).register location store.shelf.size
  else store

/-- The store in which a standard location is known to hold modules, even if it holds none. -/
def ensureModules (store : Store) (parent : Location.Standard) : Store :=
  { store with modules := store.modules.update parent fun modules => modules.getD .empty }

/-! ## Groups -/

/-- The roots of a location as a group. -/
def packageGroup? (store : Store) (location : Location) : Option PackageGroup :=
  (store.roots? location).map fun roots => ⟨location, roots⟩

/-- The modules of a location, each as a group. -/
def moduleTable? (store : Store) : Location → Option (SortedTable String PackageGroup)
  | .standard parent =>
    (store.modules.find? parent).map fun modules =>
      modules.mapWithKey fun moduleName roots => ⟨.module parent moduleName, roots⟩
  | .module _ _ => none

/-! ## Failing -/

/-- A failed operation that leaves the state as it is. -/
def refuse {α : Type} (store : Store) (fault : Fault) : Step α :=
  (.error (.of fault), store)

/-- A successful operation that leaves the state as it is. -/
def answer {α : Type} (store : Store) (value : α) : Step α :=
  (.ok value, store)

/-! ## The operations -/

/-- Adds a container to the roots of a location that holds files. -/
def addContainer (store : Store) (location : Location) (id : ContainerId) : Step Unit :=
  if store.closed then store.refuse .closed
  else if location.isModuleOriented then store.refuse (.moduleOriented location.name)
  else (.ok (), store.register location id)

/-- Adds a container to the roots of a module in a standard location that holds modules. -/
def addModuleContainer (store : Store) (location : Location) (moduleName : String)
    (id : ContainerId) : Step Unit :=
  if store.closed then store.refuse .closed
  else
    match location with
    | .standard parent =>
      if parent.isModuleOriented || parent.isOutput then
        (.ok (), store.registerModule parent moduleName id)
      else store.refuse (.notModuleOriented location.name)
    | .module _ _ => store.refuse (.notModuleOriented location.name)

/-- Makes a location known, with an empty root if it is to hold files and has none. -/
def createEmptyLocation (store : Store) (location : Location) : Step Unit :=
  if store.closed then store.refuse .closed
  else
    match location with
    | .standard root =>
      if root.isModuleOriented then (.ok (), store.ensureModules root)
      else (.ok (), store.ensureRoots location)
    | .module _ _ => (.ok (), store.ensureRoots location)

/-- Whether a location has roots or modules. A closed manager still answers. -/
def hasLocation (store : Store) (location : Location) : Bool :=
  (store.roots? location).isSome || (store.moduleTable? location).isSome

/-- Whether a root of the location, or of one of its modules, holds a file. -/
def contains (store : Store) (location : Location) (path : String) : Step Bool :=
  if store.closed then store.refuse .closed
  else
    store.answer
      ((store.packageGroup? location).any (fun group => group.contains store.shelf path) ||
        (store.moduleTable? location).any fun modules =>
          modules.values.any fun group => group.contains store.shelf path)

/-- The roots of a location that holds files. -/
def getPackageGroup (store : Store) (location : Location) : Step (Option PackageGroup) :=
  if store.closed then store.refuse .closed
  else if location.isModuleOriented then store.refuse (.moduleOriented location.name)
  else store.answer (store.packageGroup? location)

/-- The modules of a location that holds modules. -/
def getModuleGroup (store : Store) (location : Location) : Step (Option ModuleGroup) :=
  if store.closed then store.refuse .closed
  else if location.isModuleOriented || location.isOutput then
    store.answer ((store.moduleTable? location).map fun modules => ⟨location, modules⟩)
  else store.refuse (.notModuleOriented location.name)

/-- The roots and the modules of an output location, if it has any of either. -/
def getOutputGroup (store : Store) (location : Location) : Step (Option OutputGroup) :=
  if store.closed then store.refuse .closed
  else if location.isOutput then
    match store.packageGroup? location, store.moduleTable? location with
    | none, none => store.answer none
    | package, modules =>
      store.answer (some ⟨package.getD ⟨location, []⟩, modules.getD .empty⟩)
  else store.refuse (.notOutput location.name)

/-- The roots of every standard location that has some, in the order of the locations. -/
def getPackageGroups (store : Store) : Step (List PackageGroup) :=
  if store.closed then store.refuse .closed
  else store.answer (store.packages.entries.map fun entry => ⟨.standard entry.1, entry.2⟩)

/-- The files of a package in a location; none if the location has no roots. -/
def list (store : Store) (location : Location) (packageName : String) (kinds : List FileKind)
    (recurse : Bool) : Step (List FileRef) :=
  if store.closed then store.refuse .closed
  else if location.isModuleOriented then store.refuse (.moduleOriented location.name)
  else
    store.answer
      (((store.packageGroup? location).map fun group =>
        group.list store.shelf packageName kinds recurse).getD [])

/-- The file with a name relative to a package, if some root of the location holds it. -/
def getFileForInput (store : Store) (location : Location) (packageName relativeName : String) :
    Step (Option FileRef) :=
  if store.closed then store.refuse .closed
  else if location.isModuleOriented then store.refuse (.moduleOriented location.name)
  else
    store.answer
      ((store.packageGroup? location).bind fun group =>
        group.file? store.shelf (Path.resolve packageName relativeName))

/-- Writes a file into the first root of an output location, which gets a root if it has none. -/
def writeFile (store : Store) (location : Location) (packageName relativeName : String)
    (content : Bytes) : Step FileRef :=
  if store.closed then store.refuse .closed
  else if location.isOutput then
    let ready := store.ensureRoots location
    match ready.roots? location with
    | some (id :: _) =>
      (.ok (.locate location (ready.shelf.get id).name (Path.resolve packageName relativeName)),
        ready.writeInto id (Path.resolve packageName relativeName) content)
    | _ => ready.refuse (.notConfigured location.name)
  else store.refuse (.notOutput location.name)

/-- The content of a file that was named before: that of the first root of its location that has
the name of its container and holds its path. -/
def read (store : Store) (file : FileRef) : Step Bytes :=
  if store.closed then store.refuse .closed
  else
    match store.packageGroup? file.location with
    | none => store.refuse (.notConfigured file.location.name)
    | some group =>
      let named := (group.containers store.shelf).filter fun container =>
        container.name == file.container
      match named.findSome? fun container => container.read file.path with
      | some content => store.answer content
      | none => store.refuse (.fileNotFound file.location.name file.path)

/-- The dotted name of the class that a file is for, if the file belongs to the location. -/
def inferBinaryName (store : Store) (location : Location) (file : FileRef) :
    Step (Option String) :=
  if store.closed then store.refuse .closed
  else store.answer (if file.location = location then some file.binaryName else none)

/-- Does nothing on a manager that is open. -/
def flush (store : Store) : Step Unit :=
  if store.closed then store.refuse .closed else store.answer ()

/-- Closes the manager, which may be closed already. -/
def close (store : Store) : Step Unit :=
  (.ok (), { store with closed := true })

/-! ## Views -/

/-- The identity of the manager on one line. -/
def display (store : Store) : String :=
  "InMemoryFileManager\x7brelease=" ++ store.release ++ "\x7d"

/-- Roots as log entries show them. -/
def inspectRoots (store : Store) (roots : List ContainerId) : String :=
  Inspection.list (roots.map fun id => (store.shelf.get id).inspect)

/-- The whole state on one line. -/
def inspect (store : Store) : String :=
  Inspection.record "InMemoryFileManager"
    [("release", Text.quoted store.release),
      ("state", Inspection.record "RwLock" [("data", Inspection.record "State"
        [("packages", Inspection.table (store.packages.entries.map fun entry =>
            ((Location.standard entry.1).inspect, store.inspectRoots entry.2))),
          ("modules", Inspection.table (store.modules.entries.map fun entry =>
            ((Location.standard entry.1).inspect,
              Inspection.table (entry.2.entries.map fun module =>
                (Text.quoted module.1, store.inspectRoots module.2)))))])]),
      ("closed", Inspection.flag store.closed)]

end Store

end CompilationChecks
