import CompilationChecks.Scenario.Register
import CompilationChecks.Scenario.Step

/-!
The desk at which a scenario is played: the file manager in memory, what the probe in front of it
has still to do, and the registers of everything that has a name.
-/

namespace CompilationChecks.Scenario

/-- The state of a scenario. -/
structure Desk where
  /-- The file manager in memory. -/
  store : Store
  /-- The reactions that are left, by the name of the operation they wait for. -/
  reactions : List (String × List Reaction)
  /-- The containers that have a name. -/
  containers : Register ContainerId
  /-- The files that were kept. -/
  files : Register FileRef
  /-- The groups that were kept. -/
  groups : Register KeptGroup
  /-- How the steps of reactions ended, in the order in which they ended. -/
  completed : List (Ending Value)
  /-- The number of the next thread. -/
  nextThread : UInt64
  deriving Repr

namespace Desk

/-- A desk with a manager that was just made. -/
def new (release : String) (reactions : List (String × List Reaction)) : Desk :=
  ⟨Store.new release, reactions, .empty, .empty, .empty, [], 2⟩

/-- The containers of the manager and all others. -/
def shelf (desk : Desk) : Shelf :=
  desk.store.shelf

/-! ## Names -/

/-- Puts a container on the shelf and names it, or gives the text of the panic. -/
def place (desk : Desk) (name : String) (container : Container) : Except String Desk :=
  (desk.containers.put name desk.shelf.size).map fun named =>
    { desk with store := desk.store.place container, containers := named }

/-- Keeps something under a name, if there is a name and something to keep, or gives the text of
the panic. -/
def keep (desk : Desk) (name : Option String) (keepsake : Option Keepsake) : Except String Desk :=
  match name, keepsake with
  | some name, some (.file file) =>
    (desk.files.put name file).map fun kept => { desk with files := kept }
  | some name, some (.group group) =>
    (desk.groups.put name group).map fun kept => { desk with groups := kept }
  | _, _ => .ok desk

/-- The place of the container with a name, or the text of the panic. -/
def container (desk : Desk) (name : String) : Except String ContainerId × Desk :=
  (desk.containers.get "container" name,
    { desk with containers := desk.containers.afterGet name })

/-- The file that a step means, or the text of the panic. -/
def file (desk : Desk) : FileChoice → Except String FileRef × Desk
  | .kept name =>
    (desk.files.get "file" name, { desk with files := desk.files.afterGet name })
  | .given file => (.ok file, desk)

/-- The group that was kept under a name, or the text of the panic. -/
def group (desk : Desk) (name : String) : Except String KeptGroup × Desk :=
  (desk.groups.get "group" name, { desk with groups := desk.groups.afterGet name })

/-- The call that a request makes, or the text of the panic. -/
def callOf (desk : Desk) : Request → Except String Call × Desk
  | .addContainer location name =>
    let (found, after) := desk.container name
    (found.map fun id => .addContainer location id, after)
  | .addModuleContainer location moduleName name =>
    let (found, after) := desk.container name
    (found.map fun id => .addModuleContainer location moduleName id, after)
  | .read choice =>
    let (found, after) := desk.file choice
    (found.map .read, after)
  | .inferBinaryName location choice =>
    let (found, after) := desk.file choice
    (found.map fun file => .inferBinaryName location file, after)
  | .given call => (.ok call, desk)

/-! ## Groups -/

/-- What a package group says to a query, and what may be kept of it. -/
def askPackage (desk : Desk) (group : PackageGroup) : GroupQuery → Option (Value × Option Keepsake)
  | .file path _ =>
    some (Value.optional .file (group.file? desk.shelf path),
      (group.file? desk.shelf path).map .file)
  | .contains path => some (.flag (group.contains desk.shelf path), none)
  | .read path => some (Value.optional .content (group.read desk.shelf path), none)
  | .list packageName kinds recurse =>
    some (.files (group.list desk.shelf packageName kinds recurse), none)
  | .inspect => some (.text (group.inspect desk.shelf), none)
  | .snapshot => some (.package (group.snapshot desk.shelf), none)
  | _ => none

/-- What is said about a module. -/
def tellModule (desk : Desk) (group : Option PackageGroup) : Value × Option Keepsake :=
  (Value.optional (fun found => .package (found.snapshot desk.shelf)) group,
    group.map fun found => .group (.package found))

/-- What a module group says to a query, and what may be kept of it. -/
def askModules (desk : Desk) (group : ModuleGroup) : GroupQuery → Option (Value × Option Keepsake)
  | .module moduleName _ => some (desk.tellModule (group.module? moduleName))
  | .inspect => some (.text (group.inspect desk.shelf), none)
  | .snapshot => some (.modules (group.snapshot desk.shelf), none)
  | _ => none

/-- What an output group says to a query, and what may be kept of it. -/
def askOutput (desk : Desk) (group : OutputGroup) : GroupQuery → Option (Value × Option Keepsake)
  | .module moduleName _ => some (desk.tellModule (group.module? moduleName))
  | .moduleGroup _ =>
    some (.modules (group.moduleGroup.snapshot desk.shelf),
      some (.group (.modules group.moduleGroup)))
  | .packageGroup _ =>
    some (.package (group.package.snapshot desk.shelf),
      some (.group (.package group.package)))
  | .inspect => some (.text (group.inspect desk.shelf), none)
  | .snapshot => some (.output (group.snapshot desk.shelf), none)
  | _ => none

/-- What a group that was kept says to a query, and what may be kept of it. -/
def ask (desk : Desk) (query : GroupQuery) : KeptGroup → Option (Value × Option Keepsake)
  | .package group => desk.askPackage group query
  | .modules group => desk.askModules group query
  | .output group => desk.askOutput group query

/-- The name under which the answer to a query is to be kept. -/
def keepName : GroupQuery → Option String
  | .file _ keepAs => keepAs
  | .module _ keepAs => keepAs
  | .moduleGroup keepAs => keepAs
  | .packageGroup keepAs => keepAs
  | _ => none

/-! ## Reactions -/

/-- Takes the next reaction that waits for an operation. -/
def takeReaction (operation : String) :
    List (String × List Reaction) → Option (Reaction × List (String × List Reaction))
  | [] => none
  | (name, waiting) :: others =>
    match decide (name = operation), waiting with
    | true, reaction :: later => some (reaction, (name, later) :: others)
    | _, _ =>
      (takeReaction operation others).map fun taken => (taken.1, (name, waiting) :: taken.2)

/-- The number of reactions that are left. -/
def reactionCount (desk : Desk) : Nat :=
  desk.reactions.foldl (fun count entry => count + entry.2.length) 0

end Desk

end CompilationChecks.Scenario
