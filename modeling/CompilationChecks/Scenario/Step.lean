import CompilationChecks.Activity
import CompilationChecks.Snapshot

/-!
The steps of a scenario, and what they give. A step may keep what it found under a name, and later
steps may use the name. The reactions of a probe are made of steps as well.
-/

namespace CompilationChecks.Scenario

/-- How a step says which file it means. -/
inductive FileChoice where
  /-- The file that was kept under a name. -/
  | kept (name : String)
  /-- The file itself. -/
  | given (file : FileRef)
  deriving DecidableEq, Repr

/-- What a step asks of a file manager. -/
inductive Request where
  /-- To add the container with a name to a location. -/
  | addContainer (location : Location) (container : String)
  /-- To add the container with a name to a module. -/
  | addModuleContainer (location : Location) (moduleName container : String)
  /-- To read a file. -/
  | read (file : FileChoice)
  /-- To name the class that a file is for. -/
  | inferBinaryName (location : Location) (file : FileChoice)
  /-- To answer a call that names nothing. -/
  | given (call : Call)
  deriving DecidableEq, Repr

/-- What a step asks of a group that was kept. -/
inductive GroupQuery where
  | file (path : String) (keepAs : Option String)
  | contains (path : String)
  | read (path : String)
  | list (packageName : String) (kinds : List FileKind) (recurse : Bool)
  | module (moduleName : String) (keepAs : Option String)
  | moduleGroup (keepAs : Option String)
  | packageGroup (keepAs : Option String)
  | inspect
  | snapshot
  deriving DecidableEq, Repr

/-- How the body of an intercepted operation ends. -/
inductive BodyEnding where
  | text (value : String)
  | integer (value : Int)
  | nothing
  | failed (failure : Failure)
  deriving Repr

/-- A step of a scenario. -/
inductive Step where
  /-- Makes a container and gives it a name by which steps call it. -/
  | makeContainer (container name : String) (files : List (String × Bytes))
  /-- Describes a container. -/
  | describeContainer (container : String)
  /-- Writes a file into a container. -/
  | writeInto (container path : String) (content : Bytes)
  /-- Reads a file of a container. -/
  | readFrom (container path : String)
  /-- Asks whether a container holds a file. -/
  | containerHolds (container path : String)
  /-- Lists a directory of a container. -/
  | listContainer (container directory : String) (recurse : Bool)
  /-- Calls the manager and may keep the answer. -/
  | call (request : Request) (keepAs : Option String)
  /-- Shows the identity of the manager. -/
  | display
  /-- Shows the state of the manager. -/
  | inspect
  /-- Describes the layers of delegates. -/
  | layers
  /-- Asks a group that was kept. -/
  | group (name : String) (query : GroupQuery)
  /-- Lets the outermost delegate intercept an operation that no manager knows. -/
  | intercept (operation : Operation) (arguments : List String) (body : BodyEnding)
  /-- Takes steps on a thread of their own. -/
  | thread (steps : List Step)
  deriving Repr

/-- A layer of delegation at some moment. -/
structure LayerSnapshot where
  /-- How many calls of the running thread are open in it. -/
  depth : Nat
  /-- Whether it logs frames. -/
  stackTraces : Bool
  /-- The identity of the manager inside it. -/
  inner : String
  deriving DecidableEq, Repr

/-- What a step gives. -/
inductive Value where
  | nothing
  | flag (value : Bool)
  | text (value : String)
  | integer (value : Int)
  | content (value : Bytes)
  | texts (values : List String)
  | container (container : Container)
  | file (file : FileRef)
  | files (files : List FileRef)
  | package (group : PackageSnapshot)
  | packages (groups : List PackageSnapshot)
  | modules (group : ModuleSnapshot)
  | output (group : OutputSnapshot)
  | layers (layers : List LayerSnapshot)
  /-- How the steps of a thread ended. -/
  | thread (results : List (Ending Value))
  /-- The text with which a thread was abandoned. -/
  | abandoned (text : String)
  deriving Repr

/-- A group that may be kept under a name. -/
inductive KeptGroup where
  | package (group : PackageGroup)
  | modules (group : ModuleGroup)
  | output (group : OutputGroup)
  deriving DecidableEq, Repr

/-- What may be kept under a name. -/
inductive Keepsake where
  | file (file : FileRef)
  | group (group : KeptGroup)
  deriving DecidableEq, Repr

namespace Value

/-- A value that may be absent. -/
def optional {α : Type} (value : α → Value) : Option α → Value
  | some found => value found
  | none => .nothing

/-- The answer to a call, as it is now. -/
def ofAnswer (shelf : Shelf) : (call : Call) → call.Answer → Value
  | .addContainer .., _ => .nothing
  | .addModuleContainer .., _ => .nothing
  | .createEmptyLocation .., _ => .nothing
  | .hasLocation .., known => .flag known
  | .contains .., held => .flag held
  | .getPackageGroup .., group => optional (fun found => .package (found.snapshot shelf)) group
  | .getModuleGroup .., group => optional (fun found => .modules (found.snapshot shelf)) group
  | .getOutputGroup .., group => optional (fun found => .output (found.snapshot shelf)) group
  | .getPackageGroups, groups => .packages (groups.map fun group => group.snapshot shelf)
  | .list .., found => .files found
  | .getFileForInput .., found => optional .file found
  | .writeFile .., written => .file written
  | .read .., bytes => .content bytes
  | .inferBinaryName .., name => optional .text name
  | .effectiveRelease, release => .text release
  | .flush, _ => .nothing
  | .close, _ => .nothing

/-- The value that the body of an intercepted operation gives, as a delegate logs it. -/
def logged : Value → String
  | .text value => Text.quoted value
  | .integer value => toString value
  | _ => Operation.nothing

end Value

namespace Keepsake

/-- What may be kept of the answer to a call. -/
def ofAnswer : (call : Call) → call.Answer → Option Keepsake
  | .getPackageGroup .., answer => answer.map fun found => .group (.package found)
  | .getModuleGroup .., answer => answer.map fun found => .group (.modules found)
  | .getOutputGroup .., answer => answer.map fun found => .group (.output found)
  | .getFileForInput .., found => found.map .file
  | .writeFile .., written => some (.file written)
  | _, _ => none

end Keepsake

/-- How a probe ends a call after its steps. -/
inductive ReactionEnding where
  /-- Lets the manager behind it answer. -/
  | forward
  /-- Fails. -/
  | fail (failure : Failure)
  /-- Panics. -/
  | panic (text : String)
  deriving Repr

/-- What a probe does when it is called. -/
structure Reaction where
  /-- The steps that it takes first. -/
  steps : List Step
  /-- How it ends the call. -/
  ending : ReactionEnding
  deriving Repr

end CompilationChecks.Scenario
