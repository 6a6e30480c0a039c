import CompilationChecks.Text.Blank
import CompilationChecks.Text.Inspection
import CompilationChecks.Text.Letters
import CompilationChecks.Text.Quoted
import CompilationChecks.Text.Split

/-!
Where a compiler reads files from and writes files to. A location is one of thirteen standard
ones, or one module inside a standard one. Some standard locations hold modules only, three are
outputs, which hold files of their own as well as modules, and the others hold files only.
-/

namespace CompilationChecks

/-- The standard locations of a compiler. -/
inductive Location.Standard where
  | classOutput
  | sourceOutput
  | classPath
  | sourcePath
  | annotationProcessorPath
  | annotationProcessorModulePath
  | platformClassPath
  | nativeHeaderOutput
  | moduleSourcePath
  | upgradeModulePath
  | systemModules
  | modulePath
  | patchModulePath
  deriving DecidableEq, Repr

/-- A standard location, or one module inside a standard location. -/
inductive Location where
  | standard (root : Location.Standard)
  | module (parent : Location.Standard) (moduleName : String)
  deriving DecidableEq, Repr

namespace Location

namespace Standard

/-- Every standard location, in the order in which tables list them. -/
def all : List Standard :=
  [.classOutput, .sourceOutput, .classPath, .sourcePath, .annotationProcessorPath,
    .annotationProcessorModulePath, .platformClassPath, .nativeHeaderOutput, .moduleSourcePath,
    .upgradeModulePath, .systemModules, .modulePath, .patchModulePath]

theorem mem_all (root : Standard) : root ∈ all := by
  cases root <;> decide

/-- The place of a location in the order of tables. -/
def rank : Standard → Nat
  | .classOutput => 0
  | .sourceOutput => 1
  | .classPath => 2
  | .sourcePath => 3
  | .annotationProcessorPath => 4
  | .annotationProcessorModulePath => 5
  | .platformClassPath => 6
  | .nativeHeaderOutput => 7
  | .moduleSourcePath => 8
  | .upgradeModulePath => 9
  | .systemModules => 10
  | .modulePath => 11
  | .patchModulePath => 12

instance : Ord Standard :=
  ⟨compareOn rank⟩

instance : Std.TransOrd Standard :=
  inferInstanceAs (Std.TransCmp (compareOn rank))

theorem rank_injective {left right : Standard} (same : left.rank = right.rank) :
    left = right := by
  cases left <;> cases right <;> first | rfl | cases same

instance : Std.LawfulEqOrd Standard where
  eq_of_compare same := rank_injective (Nat.compare_eq_eq.1 same)

/-- The canonical name, in capitals. -/
def name : Standard → String
  | .classOutput => "CLASS_OUTPUT"
  | .sourceOutput => "SOURCE_OUTPUT"
  | .classPath => "CLASS_PATH"
  | .sourcePath => "SOURCE_PATH"
  | .annotationProcessorPath => "ANNOTATION_PROCESSOR_PATH"
  | .annotationProcessorModulePath => "ANNOTATION_PROCESSOR_MODULE_PATH"
  | .platformClassPath => "PLATFORM_CLASS_PATH"
  | .nativeHeaderOutput => "NATIVE_HEADER_OUTPUT"
  | .moduleSourcePath => "MODULE_SOURCE_PATH"
  | .upgradeModulePath => "UPGRADE_MODULE_PATH"
  | .systemModules => "SYSTEM_MODULES"
  | .modulePath => "MODULE_PATH"
  | .patchModulePath => "PATCH_MODULE_PATH"

/-- The name as log entries show it inside values. -/
def inspect : Standard → String
  | .classOutput => "ClassOutput"
  | .sourceOutput => "SourceOutput"
  | .classPath => "ClassPath"
  | .sourcePath => "SourcePath"
  | .annotationProcessorPath => "AnnotationProcessorPath"
  | .annotationProcessorModulePath => "AnnotationProcessorModulePath"
  | .platformClassPath => "PlatformClassPath"
  | .nativeHeaderOutput => "NativeHeaderOutput"
  | .moduleSourcePath => "ModuleSourcePath"
  | .upgradeModulePath => "UpgradeModulePath"
  | .systemModules => "SystemModules"
  | .modulePath => "ModulePath"
  | .patchModulePath => "PatchModulePath"

/-- The location with the given canonical name, in whatever case its letters are. -/
def ofName? (text : List Char) : Option Standard :=
  all.find? fun location => Text.sameLetters location.name.toList text

/-- A location that the compiler writes to. -/
def isOutput : Standard → Bool
  | .classOutput | .sourceOutput | .nativeHeaderOutput => true
  | _ => false

/-- A location that holds modules and no files of its own. -/
def isModuleOriented : Standard → Bool
  | .annotationProcessorModulePath | .moduleSourcePath | .upgradeModulePath | .systemModules
  | .modulePath | .patchModulePath => true
  | _ => false

end Standard

instance : Coe Standard Location :=
  ⟨.standard⟩

/-- The name of a location; a module stands in square brackets after its parent. -/
def name : Location → String
  | .standard root => root.name
  | .module parent moduleName => parent.name ++ "[" ++ moduleName ++ "]"

/-- A module of a location as log entries show it inside values. -/
def inspectModule (parent : Standard) (moduleName : String) : String :=
  Inspection.record "ModuleLocation"
    [("parent", parent.inspect), ("module_name", Text.quoted moduleName)]

/-- The location as log entries show it inside values. -/
def inspect : Location → String
  | .standard root => Inspection.tagged "Standard" root.inspect
  | .module parent moduleName => Inspection.tagged "Module" (inspectModule parent moduleName)

/-- A module is an output exactly when its parent is. -/
def isOutput : Location → Bool
  | .standard root => root.isOutput
  | .module parent _ => parent.isOutput

/-- A module is never module-oriented: it holds files. -/
def isModuleOriented : Location → Bool
  | .standard root => root.isModuleOriented
  | .module _ _ => false

/-- Standard locations come first, in their own order; modules follow, by parent and name. -/
def order : Location → Location → Ordering
  | .standard left, .standard right => compare left right
  | .standard _, .module _ _ => .lt
  | .module _ _, .standard _ => .gt
  | .module leftParent leftName, .module rightParent rightName =>
    (compare leftParent rightParent).then (compare leftName rightName)

/-- Locations in ascending order, equal ones in the order given. -/
def sort (locations : List Location) : List Location :=
  locations.mergeSort fun left right => (order left right).isLE

/-- A module name as it stands between a bracket that is already read and a closing one: not
empty, and followed by nothing. -/
def moduleNameOf? (text : List Char) : Option String :=
  if text.getLast? = some ']' && text.dropLast ≠ [] then some (String.ofList text.dropLast)
  else none

/-- The location that a name stands for. Blank characters around the name and the case of
letters before the first bracket do not matter. -/
def parse? (text : String) : Option Location :=
  let trimmed := Text.trim text.toList
  match Text.splitFirst? '[' trimmed with
  | some (parent, rest) =>
    match moduleNameOf? rest, Standard.ofName? parent with
    | some moduleName, some root => some (.module root moduleName)
    | _, _ => none
  | none => (Standard.ofName? trimmed).map .standard

end Location

end CompilationChecks
