import CompilationChecks.File
import CompilationChecks.Json.Decode
import CompilationChecks.Json.Value

/-!
Locations and file references as JSON.
-/

namespace CompilationChecks

namespace Location

/-- A standard location as JSON: its name. -/
def Standard.encode (root : Standard) : Json.Value :=
  .text root.name

/-- A standard location from JSON. -/
def Standard.decode : Json.Outline → Json.Decoded Standard :=
  Json.decodeNamed (Standard.all.map fun root => (root.name, root)) (Standard.all.map Standard.name)

/-- The members of a module of a location. -/
def moduleMembers (parent : Standard) (moduleName : String) : List (String × Json.Value) :=
  [("parent", parent.encode), ("module_name", .text moduleName)]

/-- A module of a location as JSON. -/
def encodeModule (parent : Standard) (moduleName : String) : Json.Value :=
  .object (moduleMembers parent moduleName)

/-- A location as JSON: an object whose only member tells which of the two forms it has. -/
def encode : Location → Json.Value
  | .standard root => .object [("Standard", root.encode)]
  | .module parent moduleName => .object [("Module", encodeModule parent moduleName)]

/-- The fields of a module of a location. -/
def moduleFields : List Json.Field :=
  [.needed "parent" Standard.decode, .needed "module_name" Json.decodeText]

/-- A module location from the content of its form. -/
def decodeModule (value : Json.Outline) : Json.Decoded Location := do
  let picked ← Json.pickFields "ModuleLocation" moduleFields value
  let parent ← picked.needed "parent" Standard.decode
  let moduleName ← picked.needed "module_name" Json.decodeText
  return .module parent moduleName

/-- The two forms of a location. -/
def forms : List (String × (Json.Outline → Json.Decoded Location)) :=
  [("Standard", fun value => (Standard.decode value).map .standard), ("Module", decodeModule)]

/-- A location from JSON. -/
def decode : Json.Outline → Json.Decoded Location :=
  Json.decodeVariant (Json.chooseNamed forms (forms.map Prod.fst))
    (fun _ => .error (.mismatch .missingContent)) fun form value => form value

end Location

namespace FileKind

/-- Every kind. -/
def all : List FileKind :=
  [.source, .classFile, .html, .other]

/-- A kind as JSON: its name. -/
def encode (kind : FileKind) : Json.Value :=
  .text kind.name

/-- A kind from JSON. -/
def decode : Json.Outline → Json.Decoded FileKind :=
  Json.decodeNamed (all.map fun kind => (kind.name, kind)) (all.map FileKind.name)

end FileKind

namespace FileRef

/-- The members of a file reference. -/
def members (file : FileRef) : List (String × Json.Value) :=
  [("location", file.location.encode), ("container", .text file.container),
    ("path", .text file.path), ("kind", file.kind.encode)]

/-- A file reference as JSON. -/
def encode (file : FileRef) : Json.Value :=
  .object file.members

/-- The fields of a file reference. -/
def fields : List Json.Field :=
  [.needed "location" Location.decode, .needed "container" Json.decodeText,
    .needed "path" Json.decodeText, .needed "kind" FileKind.decode]

/-- A file reference from JSON. -/
def decode (value : Json.Outline) : Json.Decoded FileRef := do
  let picked ← Json.pickFields "FileObject" fields value
  return {
    location := ← picked.needed "location" Location.decode
    container := ← picked.needed "container" Json.decodeText
    path := ← picked.needed "path" Json.decodeText
    kind := ← picked.needed "kind" FileKind.decode }

end FileRef

end CompilationChecks
