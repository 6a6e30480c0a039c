import CompilationChecks.Operation
import CompilationChecks.Store

/-!
The calls that a file manager answers, as values: each with its arguments, the type of its answer,
its description for the log, and the way its arguments and its answer appear there. Contents of
files appear by their size only, locations and files by their names, and all else as values.
-/

namespace CompilationChecks

/-- A call to a file manager. -/
inductive Call where
  | addContainer (location : Location) (id : ContainerId)
  | addModuleContainer (location : Location) (moduleName : String) (id : ContainerId)
  | createEmptyLocation (location : Location)
  | hasLocation (location : Location)
  | contains (location : Location) (path : String)
  | getPackageGroup (location : Location)
  | getModuleGroup (location : Location)
  | getOutputGroup (location : Location)
  | getPackageGroups
  | list (location : Location) (packageName : String) (kinds : List FileKind) (recurse : Bool)
  | getFileForInput (location : Location) (packageName relativeName : String)
  | writeFile (location : Location) (packageName relativeName : String) (content : Bytes)
  | read (file : FileRef)
  | inferBinaryName (location : Location) (file : FileRef)
  | effectiveRelease
  | flush
  | close
  deriving DecidableEq, Repr

namespace Call

/-- What the answer to a call is made of. -/
@[reducible] def Answer : Call → Type
  | .addContainer .. => Unit
  | .addModuleContainer .. => Unit
  | .createEmptyLocation .. => Unit
  | .hasLocation .. => Bool
  | .contains .. => Bool
  | .getPackageGroup .. => Option PackageGroup
  | .getModuleGroup .. => Option ModuleGroup
  | .getOutputGroup .. => Option OutputGroup
  | .getPackageGroups => List PackageGroup
  | .list .. => List FileRef
  | .getFileForInput .. => Option FileRef
  | .writeFile .. => FileRef
  | .read .. => Bytes
  | .inferBinaryName .. => Option String
  | .effectiveRelease => String
  | .flush => Unit
  | .close => Unit

/-- The description of the operation that a call asks for. -/
def operation : Call → Operation
  | .addContainer .. => .void "add_container" ["&Location", "Arc<Container>"]
  | .addModuleContainer .. =>
    .void "add_module_container" ["&Location", "&str", "Arc<Container>"]
  | .createEmptyLocation .. => .void "create_empty_location" ["&Location"]
  | .hasLocation .. => ⟨"has_location", ["&Location"], "bool"⟩
  | .contains .. => ⟨"contains", ["&Location", "&str"], "bool"⟩
  | .getPackageGroup .. =>
    ⟨"get_package_container_group", ["&Location"], "Option<PackageContainerGroup>"⟩
  | .getModuleGroup .. =>
    ⟨"get_module_container_group", ["&Location"], "Option<ModuleContainerGroup>"⟩
  | .getOutputGroup .. =>
    ⟨"get_output_container_group", ["&Location"], "Option<OutputContainerGroup>"⟩
  | .getPackageGroups => ⟨"get_package_container_groups", [], "Vec<PackageContainerGroup>"⟩
  | .list .. => ⟨"list", ["&Location", "&str", "&[FileKind]", "bool"], "Vec<FileObject>"⟩
  | .getFileForInput .. =>
    ⟨"get_file_for_input", ["&Location", "&str", "&str"], "Option<FileObject>"⟩
  | .writeFile .. => ⟨"write_file", ["&Location", "&str", "&str", "&[u8]"], "FileObject"⟩
  | .read .. => ⟨"read_file", ["&FileObject"], "Vec<u8>"⟩
  | .inferBinaryName .. =>
    ⟨"infer_binary_name", ["&Location", "&FileObject"], "Option<String>"⟩
  | .effectiveRelease => ⟨"effective_release", [], "String"⟩
  | .flush => .void "flush" []
  | .close => .void "close" []

/-- The size of a content, which is all that the log tells about it. -/
def sizeText (content : Bytes) : String :=
  "<" ++ toString content.length ++ " bytes>"

/-- The arguments of a call as the log shows them, in order. -/
def arguments (shelf : Shelf) : Call → List String
  | .addContainer location id => [location.name, (shelf.get id).inspect]
  | .addModuleContainer location moduleName id =>
    [location.name, Text.quoted moduleName, (shelf.get id).inspect]
  | .createEmptyLocation location => [location.name]
  | .hasLocation location => [location.name]
  | .contains location path => [location.name, Text.quoted path]
  | .getPackageGroup location => [location.name]
  | .getModuleGroup location => [location.name]
  | .getOutputGroup location => [location.name]
  | .getPackageGroups => []
  | .list location packageName kinds recurse =>
    [location.name, Text.quoted packageName, Inspection.list (kinds.map FileKind.inspect),
      Inspection.flag recurse]
  | .getFileForInput location packageName relativeName =>
    [location.name, Text.quoted packageName, Text.quoted relativeName]
  | .writeFile location packageName relativeName content =>
    [location.name, Text.quoted packageName, Text.quoted relativeName, sizeText content]
  | .read file => [file.display]
  | .inferBinaryName location file => [location.name, file.display]
  | .effectiveRelease => []
  | .flush => []
  | .close => []

/-- The answer to a call as the log shows it. -/
def answerText (shelf : Shelf) : (call : Call) → call.Answer → String
  | .addContainer .., _ => Operation.nothing
  | .addModuleContainer .., _ => Operation.nothing
  | .createEmptyLocation .., _ => Operation.nothing
  | .hasLocation .., known => Inspection.flag known
  | .contains .., held => Inspection.flag held
  | .getPackageGroup .., group => Inspection.option (group.map fun found => found.inspect shelf)
  | .getModuleGroup .., group => Inspection.option (group.map fun found => found.inspect shelf)
  | .getOutputGroup .., group => Inspection.option (group.map fun found => found.inspect shelf)
  | .getPackageGroups, groups => Inspection.list (groups.map fun group => group.inspect shelf)
  | .list .., files => Inspection.list (files.map FileRef.inspect)
  | .getFileForInput .., file => Inspection.option (file.map FileRef.inspect)
  | .writeFile .., file => file.inspect
  | .read .., content => sizeText content
  | .inferBinaryName .., name => Inspection.option (name.map Text.quoted)
  | .effectiveRelease, release => Text.quoted release
  | .flush, _ => Operation.nothing
  | .close, _ => Operation.nothing

end Call

namespace Store

/-- What the manager in memory does with a call. -/
def perform (store : Store) : (call : Call) → Step call.Answer
  | .addContainer location id => store.addContainer location id
  | .addModuleContainer location moduleName id => store.addModuleContainer location moduleName id
  | .createEmptyLocation location => store.createEmptyLocation location
  | .hasLocation location => store.answer (store.hasLocation location)
  | .contains location path => store.contains location path
  | .getPackageGroup location => store.getPackageGroup location
  | .getModuleGroup location => store.getModuleGroup location
  | .getOutputGroup location => store.getOutputGroup location
  | .getPackageGroups => store.getPackageGroups
  | .list location packageName kinds recurse => store.list location packageName kinds recurse
  | .getFileForInput location packageName relativeName =>
    store.getFileForInput location packageName relativeName
  | .writeFile location packageName relativeName content =>
    store.writeFile location packageName relativeName content
  | .read file => store.read file
  | .inferBinaryName location file => store.inferBinaryName location file
  | .effectiveRelease => store.answer store.release
  | .flush => store.flush
  | .close => store.close

end Store

end CompilationChecks
