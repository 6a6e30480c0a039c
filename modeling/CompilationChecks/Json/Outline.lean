import CompilationChecks.Json.Token

/-!
The outline of a JSON text: the tree of its values as far as the text makes sense. Where it stops
making sense the outline says so at that very place, so whoever reads the outline in order meets
the same first problem as one who reads the text. Lists of items and of members end with the way
they ended in the text.
-/

namespace CompilationChecks.Json

mutual

/-- A value of a JSON text. -/
inductive Outline where
  /-- A value without parts. -/
  | leaf (leaf : Leaf)
  /-- A string or another value that breaks off: the fault for who reads it, and the fault for
  who passes over it. -/
  | broken (inText : Bool) (read skipped : Fault)
  /-- No value at all. -/
  | missing (fault : Fault)
  /-- An array. -/
  | array (items : Items)
  /-- An object. -/
  | object (members : Members)

/-- The items of an array from some place on. -/
inductive Items where
  /-- The closing bracket. -/
  | closed
  /-- Neither an item nor a bracket. -/
  | cut (fault : Fault)
  /-- One item, and what follows it. -/
  | item (value : Outline) (rest : Items)

/-- The members of an object from some place on. -/
inductive Members where
  /-- The closing brace. -/
  | closed
  /-- Neither a member nor a brace. -/
  | cut (fault : Fault)
  /-- Where a name should begin stands something else, or nothing behind a comma. -/
  | stray (fault : Fault)
  /-- A name that breaks off: the faults for reading it and for passing over it. -/
  | brokenName (read skipped : Fault)
  /-- One member, and what follows it. The name is missing if it cannot be read. -/
  | member (name : Option String) (value : Outline) (rest : Members)

end

deriving instance Repr for Outline, Items, Members

namespace Items

/-- Items that were collected last first, before the rest of the array. -/
def afterReversed (collected : List Outline) (rest : Items) : Items :=
  collected.foldl (fun after value => .item value after) rest

end Items

namespace Members

/-- Members that were collected last first, before the rest of the object. -/
def afterReversed (collected : List (Option String × Outline)) (rest : Members) : Members :=
  collected.foldl (fun after member => .member member.1 member.2 after) rest

end Members

/-- An array or an object that is still open, with what was collected in it, last first. -/
inductive Frame where
  /-- An open array. -/
  | array (items : List Outline)
  /-- An open object, with the name of the member whose value comes next. -/
  | object (members : List (Option String × Outline)) (name : Option String)
  deriving Repr

namespace Frame

/-- The frame with one more complete value. -/
def push (value : Outline) : Frame → Frame
  | .array items => .array (value :: items)
  | .object members name => .object ((name, value) :: members) none

/-- The value that a frame becomes when its closing bracket is read. -/
def close : Frame → Outline
  | .array items => .array (Items.afterReversed items .closed)
  | .object members _ => .object (Members.afterReversed members .closed)

/-- The value that a frame becomes when it breaks off. -/
def cut (fault : Fault) : Frame → Outline
  | .array items => .array (Items.afterReversed items (.cut fault))
  | .object members _ => .object (Members.afterReversed members (.cut fault))

end Frame

/-- The outline of a text that breaks off inside a value, from the value outwards. -/
def breakOff (value : Outline) (frames : List Frame) : Outline :=
  frames.foldl (fun inner frame => (frame.push inner).cut .ended) value

/-- What the next token may be. -/
inductive Awaited where
  /-- A value. -/
  | value
  /-- The first item of an array, or its end. -/
  | firstItem
  /-- A comma, or the end of the innermost frame. -/
  | separator
  /-- The first name of an object, or its end. -/
  | firstName
  /-- A name after a comma. -/
  | name
  /-- The colon after a name. -/
  | colon
  deriving DecidableEq, Repr

/-- The outline of a text that breaks off at the names of the innermost object. -/
def breakNames (frames : List Frame) (rest : Members) : Outline :=
  match frames with
  | .object members _ :: outer =>
    breakOff (.object (Members.afterReversed members rest)) outer
  | _ => breakOff (.missing .malformed) frames

/-- The outline of a text: the value, and whether the text ends behind it. -/
structure Document where
  /-- The value. -/
  value : Outline
  /-- Whether something else follows the value. -/
  trailing : Bool
  deriving Repr

/-- Builds an outline from tokens. `frames` are the open frames, innermost first. -/
def build : Awaited → List Frame → List Token → Document
  | .value, frames, [] => ⟨breakOff (.missing .ended) frames, false⟩
  | .firstItem, frames, [] => ⟨breakOff (frames.headD (.array []) |>.cut .ended) frames.tail, false⟩
  | .separator, frames, [] => ⟨breakOff (frames.headD (.array []) |>.cut .ended) frames.tail, false⟩
  | .firstName, frames, [] => ⟨breakNames frames (.cut .ended), false⟩
  | .name, frames, [] => ⟨breakNames frames (.stray .ended), false⟩
  | .colon, frames, [] => ⟨breakOff (.missing .ended) frames, false⟩
  | .firstItem, frame :: outer, .closeArray :: tokens =>
    match outer with
    | [] => ⟨frame.close, !tokens.isEmpty⟩
    | next :: others => build .separator (next.push frame.close :: others) tokens
  | .value, frames, token :: tokens
  | .firstItem, frames, token :: tokens =>
    match token with
    | .leaf leaf =>
      match frames with
      | [] => ⟨.leaf leaf, !tokens.isEmpty⟩
      | frame :: outer => build .separator (frame.push (.leaf leaf) :: outer) tokens
    | .openArray => build .firstItem (.array [] :: frames) tokens
    | .openObject => build .firstName (.object [] none :: frames) tokens
    | .broken inText read skipped => ⟨breakOff (.broken inText read skipped) frames, false⟩
    | _ => ⟨breakOff (.missing .malformed) frames, false⟩
  | .separator, frames, token :: tokens =>
    match token, frames with
    | .closeArray, .array items :: outer =>
      match outer with
      | [] => ⟨(Frame.array items).close, !tokens.isEmpty⟩
      | next :: others =>
        build .separator (next.push (Frame.array items).close :: others) tokens
    | .closeObject, .object members name :: outer =>
      match outer with
      | [] => ⟨(Frame.object members name).close, !tokens.isEmpty⟩
      | next :: others =>
        build .separator (next.push (Frame.object members name).close :: others) tokens
    | .comma, .array items :: outer => build .value (.array items :: outer) tokens
    | .comma, .object members name :: outer => build .name (.object members name :: outer) tokens
    | _, frame :: outer => ⟨breakOff (frame.cut .malformed) outer, false⟩
    | _, [] => ⟨.missing .malformed, false⟩
  | .firstName, frames, token :: tokens =>
    match token, frames with
    | .closeObject, frame :: outer =>
      match outer with
      | [] => ⟨frame.close, !tokens.isEmpty⟩
      | next :: others => build .separator (next.push frame.close :: others) tokens
    | .leaf (.text name), .object members _ :: outer =>
      build .colon (.object members (some name) :: outer) tokens
    | .leaf .unpairedText, .object members _ :: outer =>
      build .colon (.object members none :: outer) tokens
    | .broken true read skipped, _ => ⟨breakNames frames (.brokenName read skipped), false⟩
    | _, _ => ⟨breakNames frames (.stray .malformed), false⟩
  | .name, frames, token :: tokens =>
    match token, frames with
    | .leaf (.text name), .object members _ :: outer =>
      build .colon (.object members (some name) :: outer) tokens
    | .leaf .unpairedText, .object members _ :: outer =>
      build .colon (.object members none :: outer) tokens
    | .broken true read skipped, _ => ⟨breakNames frames (.brokenName read skipped), false⟩
    | _, _ => ⟨breakNames frames (.stray .malformed), false⟩
  | .colon, frames, token :: tokens =>
    match token with
    | .colon => build .value frames tokens
    | _ => ⟨breakOff (.missing .malformed) frames, false⟩

/-- The outline of a text. -/
def outline (text : String) : Document :=
  build .value [] (tokens text.toList)

end CompilationChecks.Json
