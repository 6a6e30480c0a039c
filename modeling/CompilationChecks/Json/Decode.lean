import CompilationChecks.Json.Outline
import CompilationChecks.SortedTable
import CompilationChecks.Text.Quoted

/-!
Typed values from outlines. Decoding walks an outline in the order of the text and refuses it at
the first problem, which is either a fault of the text or a mismatch with what was expected.
Records are read from objects, with names in any order and unknown names passed over, or from
arrays that list the fields in the order of their declaration.
-/

namespace CompilationChecks.Json

/-- How a well-formed value differs from what was expected. -/
inductive Mismatch where
  /-- A value of another kind. -/
  | wrongType (found expected : String)
  /-- A number outside the range. -/
  | wrongValue (found expected : String)
  /-- An array that is too short for a record. -/
  | wrongLength (length : Nat) (record : String) (fields : Nat)
  /-- A record without a field that it needs. -/
  | missingField (name : String)
  /-- A record with two values for one field. -/
  | duplicateField (name : String)
  /-- A name that is none of those possible. -/
  | unknownVariant (name : String) (possible : List String)
  /-- The bare name of a variant that has content. -/
  | missingContent
  deriving DecidableEq, Repr

/-- Why a text is refused. -/
inductive Refusal where
  /-- The text is not JSON, or not of a shape that can be read. -/
  | malformed
  /-- The text ends too early. -/
  | ended
  /-- The text is JSON but not what was expected. -/
  | mismatch (mismatch : Mismatch)
  deriving DecidableEq, Repr

/-- The refusal for a fault of the text. -/
def Fault.refusal : Fault → Refusal
  | .malformed => .malformed
  | .ended => .ended

namespace Mismatch

/-- The names of variants as a message lists them. -/
def listed (names : List String) : String :=
  match names.map fun name => "`" ++ name ++ "`" with
  | [first, second] => first ++ " or " ++ second
  | [only] => only
  | all => "one of " ++ String.intercalate ", " all

/-- The text of a mismatch. -/
def message : Mismatch → String
  | .wrongType found expected => "invalid type: " ++ found ++ ", expected " ++ expected
  | .wrongValue found expected => "invalid value: " ++ found ++ ", expected " ++ expected
  | .wrongLength length record fields =>
    "invalid length " ++ toString length ++ ", expected struct " ++ record ++ " with " ++
      toString fields ++ " elements"
  | .missingField name => "missing field `" ++ name ++ "`"
  | .duplicateField name => "duplicate field `" ++ name ++ "`"
  | .unknownVariant name possible =>
    "unknown variant `" ++ name ++ "`, expected " ++ listed possible
  | .missingContent => "invalid type: unit variant, expected newtype variant"

end Mismatch

/-- A typed value, or the reason why there is none. -/
abbrev Decoded (α : Type) := Except Refusal α

/-! ## Passing over values -/

mutual

/-- Passes over a value of which nothing is needed. -/
def Outline.skip : Outline → Decoded Unit
  | .leaf _ => .ok ()
  | .broken _ _ skipped => .error skipped.refusal
  | .missing fault => .error fault.refusal
  | .array items => items.skip
  | .object members => members.skip

/-- Passes over the items of an array. -/
def Items.skip : Items → Decoded Unit
  | .closed => .ok ()
  | .cut fault => .error fault.refusal
  | .item value rest =>
    match value.skip with
    | .ok () => rest.skip
    | .error refusal => .error refusal

/-- Passes over the members of an object. -/
def Members.skip : Members → Decoded Unit
  | .closed => .ok ()
  | .cut fault => .error fault.refusal
  | .stray fault => .error fault.refusal
  | .brokenName _ skipped => .error skipped.refusal
  | .member _ value rest =>
    match value.skip with
    | .ok () => rest.skip
    | .error refusal => .error refusal

end

/-! ## Plain values -/

/-- The refusal of a value that is of another kind than expected. A string or a number is read
before it is refused; nothing inside an array or an object is. -/
def Outline.unexpected (value : Outline) (expected : String) : Refusal :=
  match value with
  | .leaf .null => .mismatch (.wrongType "null" expected)
  | .leaf (.flag found) =>
    .mismatch (.wrongType (if found then "boolean `true`" else "boolean `false`") expected)
  | .leaf (.number found) => .mismatch (.wrongType found.describe expected)
  | .leaf (.text found) => .mismatch (.wrongType ("string " ++ Text.quoted found) expected)
  | .leaf .hugeNumber => .malformed
  | .leaf .unpairedText => .malformed
  | .broken _ read _ => read.refusal
  | .missing fault => fault.refusal
  | .array _ => .mismatch (.wrongType "sequence" expected)
  | .object _ => .mismatch (.wrongType "map" expected)

/-- A string. -/
def decodeText : Outline → Decoded String
  | .leaf (.text value) => .ok value
  | value => .error (value.unexpected "a string")

/-- A truth value. -/
def decodeFlag : Outline → Decoded Bool
  | .leaf (.flag value) => .ok value
  | value => .error (value.unexpected "a boolean")

/-- A natural number below a bound of at most `2 ^ 64`, of a type with the given name. -/
def decodeNatural (bound : Nat) (typeName : String) : Outline → Decoded UInt64
  | .leaf (.number (.natural value)) =>
    if value.toNat < bound then .ok value
    else .error (.mismatch (.wrongValue (Number.natural value).describe typeName))
  | .leaf (.number (.negative magnitude)) =>
    .error (.mismatch (.wrongValue (Number.negative magnitude).describe typeName))
  | value => .error (value.unexpected typeName)

/-- A natural number of 64 bits. -/
def decodeWide : Outline → Decoded UInt64 :=
  decodeNatural UInt64.size "u64"

/-- A natural number of 32 bits. -/
def decodeNarrow (value : Outline) : Decoded UInt32 :=
  (decodeNatural UInt32.size "u32" value).map UInt64.toUInt32

/-- A number of things. -/
def decodeSize (value : Outline) : Decoded Nat :=
  (decodeNatural UInt64.size "usize" value).map UInt64.toNat

/-- A value that may be absent, which is written as null. -/
def decodeOptional {α : Type} (decode : Outline → Decoded α) : Outline → Decoded (Option α)
  | .leaf .null => .ok none
  | value => (decode value).map some

/-! ## Lists and tables -/

/-- The items of a list. -/
def Items.decodeAll {α : Type} (decode : Outline → Decoded α) : Items → Decoded (List α)
  | .closed => .ok []
  | .cut fault => .error fault.refusal
  | .item value rest => do
    let first ← decode value
    let others ← rest.decodeAll decode
    return first :: others

/-- A list. -/
def decodeList {α : Type} (decode : Outline → Decoded α) : Outline → Decoded (List α)
  | .array items => items.decodeAll decode
  | value => .error (value.unexpected "a sequence")

/-- The bindings of a table, in the order of the text. -/
def Members.decodeAll {α : Type} (decode : Outline → Decoded α) :
    Members → Decoded (List (String × α))
  | .closed => .ok []
  | .cut fault => .error fault.refusal
  | .stray fault => .error fault.refusal
  | .brokenName read _ => .error read.refusal
  | .member none _ _ => .error .malformed
  | .member (some name) value rest => do
    let first ← decode value
    let others ← rest.decodeAll decode
    return (name, first) :: others

/-- A table with strings as keys. Of two bindings for one key the later one holds. -/
def decodeTable {α : Type} (decode : Outline → Decoded α) :
    Outline → Decoded (SortedTable String α)
  | .object members => (members.decodeAll decode).map .ofList
  | value => .error (value.unexpected "a map")

/-! ## Variants -/

/-- What must follow the content of a variant: the end of its object. -/
def Members.expectEnd : Members → Decoded Unit
  | .closed => .ok ()
  | .cut fault => .error fault.refusal
  | _ => .error .malformed

/-- Content that says nothing, which is written as null. -/
def decodeNothing : Outline → Decoded Unit
  | .leaf .null => .ok ()
  | value => .error (value.unexpected "unit")

/-- One of several variants: the bare name, or an object whose only member is the name with its
content. `choose` gives what a name stands for. A value that is neither a string nor an object is
refused by its first character, and so is what stands in an object where the name should. -/
def decodeVariant {ι α : Type} (choose : String → Decoded ι) (bare : ι → Decoded α)
    (content : ι → Outline → Decoded α) : Outline → Decoded α
  | .leaf (.text name) => do
    let variant ← choose name
    bare variant
  | .leaf .unpairedText => .error .malformed
  | .leaf _ => .error .malformed
  | .broken inText read _ => .error (if inText then read.refusal else .malformed)
  | .missing fault => .error fault.refusal
  | .array _ => .error .malformed
  | .object .closed => .error .malformed
  | .object (.cut fault) => .error fault.refusal
  | .object (.stray fault) => .error fault.refusal
  | .object (.brokenName read _) => .error read.refusal
  | .object (.member none _ _) => .error .malformed
  | .object (.member (some name) value rest) => do
    let variant ← choose name
    let decoded ← content variant value
    rest.expectEnd
    return decoded

/-- The value with a given name, where `possible` are the names that a message lists. -/
def chooseNamed {α : Type} (named : List (String × α)) (possible : List String) (name : String) :
    Decoded α :=
  match named.find? fun entry => entry.1 == name with
  | some entry => .ok entry.2
  | none => .error (.mismatch (.unknownVariant name possible))

/-- One of several plain values, each with a name; further names stand for the same values. -/
def decodeNamed {α : Type} (named : List (String × α)) (possible : List String) :
    Outline → Decoded α :=
  decodeVariant (chooseNamed named possible) .ok fun value content => do
    decodeNothing content
    return value

/-! ## Records -/

/-- A field of a record, as far as the record must know it before all fields are read. -/
structure Field where
  /-- The name of the field. -/
  name : String
  /-- Whether a record without the field is refused. -/
  required : Bool
  /-- Decodes the value and forgets it. -/
  check : Outline → Decoded Unit

namespace Field

/-- A field that every record has. -/
def needed {α : Type} (name : String) (decode : Outline → Decoded α) : Field :=
  ⟨name, true, fun value => (decode value).map fun _ => ()⟩

/-- A field that a record may lack. -/
def spare {α : Type} (name : String) (decode : Outline → Decoded α) : Field :=
  ⟨name, false, fun value => (decode value).map fun _ => ()⟩

end Field

/-- The values of the fields of a record that were found, each of which its decoder accepts. -/
abbrev Picked := List (String × Outline)

/-- Picks the fields from the members of an object. -/
def Members.pick (fields : List Field) (picked : Picked) : Members → Decoded Picked
  | .closed => .ok picked
  | .cut fault => .error fault.refusal
  | .stray fault => .error fault.refusal
  | .brokenName read _ => .error read.refusal
  | .member none _ _ => .error .malformed
  | .member (some name) value rest =>
    match fields.find? fun field => field.name == name with
    | none => do
      value.skip
      rest.pick fields picked
    | some field =>
      if (picked.lookup name).isSome then .error (.mismatch (.duplicateField name))
      else do
        field.check value
        rest.pick fields ((name, value) :: picked)

/-- What must follow the last field of a record in an array: the end of the array. -/
def Items.expectEnd : Items → Decoded Unit
  | .closed => .ok ()
  | .cut fault => .error fault.refusal
  | .item _ _ => .error .malformed

/-- Picks the fields from the items of an array. `index` counts the fields that came before. -/
def Items.pick (record : String) (total index : Nat) (picked : Picked) :
    List Field → Items → Decoded Picked
  | [], items => do
    items.expectEnd
    return picked
  | field :: fields, .item value rest => do
    field.check value
    rest.pick record total (index + 1) ((field.name, value) :: picked) fields
  | _ :: _, .cut fault => .error fault.refusal
  | field :: fields, .closed =>
    if field.required then .error (.mismatch (.wrongLength index record total))
    else Items.closed.pick record total (index + 1) picked fields

/-- The fields of a record that a value holds. -/
def pickFields (record : String) (fields : List Field) : Outline → Decoded Picked
  | .object members => members.pick fields []
  | .array items => items.pick record fields.length 0 [] fields
  | value => .error (value.unexpected ("struct " ++ record))

namespace Picked

variable {α : Type}

/-- The value of a field that must be there. -/
def needed (picked : Picked) (name : String) (decode : Outline → Decoded α) : Decoded α :=
  match picked.lookup name with
  | some value => decode value
  | none => .error (.mismatch (.missingField name))

/-- The value of a field, or another value if the field is not there. -/
def spare (picked : Picked) (name : String) (decode : Outline → Decoded α) (otherwise : α) :
    Decoded α :=
  match picked.lookup name with
  | some value => decode value
  | none => .ok otherwise

end Picked

/-! ## Texts -/

/-- The typed value that a text holds and nothing else. -/
def decode {α : Type} (decodeValue : Outline → Decoded α) (text : String) : Decoded α := do
  let value ← decodeValue (outline text).value
  if (outline text).trailing then .error .malformed else return value

end CompilationChecks.Json
