import Resilience.Json.Shape
import Resilience.Yaml.Node
import Resilience.Yaml.Schema

/-! What a reader wants to see of a YAML document, as a structured value. Where a shape is known, it
    decides how a scalar is read; a member that is only looked at later is read by its tag and its
    spelling. -/

namespace Resilience.Yaml

/-- The tag of a standard type. -/
def standardTag (name : String) : String := "tag:yaml.org,2002:" ++ name

/-- The name of a local tag. -/
def localName? (tag : Option String) : Option String :=
  match tag.map String.toList with
  | some ('!' :: name) => some (String.ofList name)
  | _ => none

namespace Node

mutual

/-- The nodes with anchors, in the order of their starts. -/
def anchors : Node → List (Nat × Node)
  | .alias _ => []
  | .scalar .. => []
  | .sequence items _ => anchorsOfItems items
  | .mapping members _ => anchorsOfMembers members
  | .anchored n node => (n, node) :: anchors node

def anchorsOfItems : List Node → List (Nat × Node)
  | [] => []
  | node :: nodes => anchors node ++ anchorsOfItems nodes

def anchorsOfMembers : List (Node × Node) → List (Nat × Node)
  | [] => []
  | (key, value) :: members => anchors key ++ anchors value ++ anchorsOfMembers members

end

mutual

/-- The number of scalars, aliases, and starts and ends of collections. -/
def size : Node → Nat
  | .alias _ => 1
  | .scalar .. => 1
  | .sequence items _ => sizeOfItems items + 2
  | .mapping members _ => sizeOfMembers members + 2
  | .anchored _ node => size node

def sizeOfItems : List Node → Nat
  | [] => 0
  | node :: nodes => size node + sizeOfItems nodes

def sizeOfMembers : List (Node × Node) → Nat
  | [] => 0
  | (key, value) :: members => size key + size value + sizeOfMembers members

end

/-- The node under an anchor. -/
def inner : Node → Node
  | .anchored _ node => inner node
  | node => node

end Node

/-! ### Following aliases -/

/-- A selection can follow so many more aliases. -/
abbrev Selection := StateT Nat Option

def refuse {α : Type} : Selection α := fun _ => none

def accept {α : Type} (a : Option α) : Selection α := fun n => a.map (·, n)

/-- The node that a node means: an alias means the last node with its number. -/
def resolve (anchors : List (Nat × Node)) (node : Node) : Selection Node := do
  match node.inner with
  | .alias n =>
    match ← get with
    | 0 => refuse
    | left + 1 =>
      set left
      accept ((anchors.reverse.find? (·.1 = n)).map (·.2.inner))
  | node => return node

/-! ### Scalars -/

/-- Whether a scalar may be read as a value of a type: if it is plain, or literal and tagged so. -/
def isOpen (type : String) (style : Style) (tag : Option String) : Bool :=
  style = .plain || (style = .literal && tag = some (standardTag type))

/-- A scalar without an expected type. A local tag has no meaning here. -/
def untyped? (text : String) (style : Style) (tag : Option String) : Option Json :=
  let number : Option Json :=
    match whole? text.toList with
    | some (.whole n) => some (.number (.whole n))
    | _ => none
  let plain : Option Json :=
    match plainValue text with
    | .null => some .null
    | .bool b => some (.bool b)
    | .whole n => some (.number (.whole n))
    | .large => none
    | .float x => some (.number (.float x))
    | .text => some (.text text)
  match tag with
  | some name =>
    if (localName? tag).isSome then none
    else if name = standardTag "null" then if isNull text then some .null else none
    else if name = standardTag "bool" then (bool? text).map .bool
    else if name = standardTag "int" then number
    else if name = standardTag "float" then (float? text).map fun x => .number (.float x)
    else some (.text text)
  | none => if style = .plain then plain else some (.text text)

/-- A text that may be absent: an empty plain scalar and one that says so are. -/
def optional? (text : String) (style : Style) (tag : Option String) : Option Json :=
  if style ≠ .plain then some (.text text)
  else
    match tag with
    | some name =>
      if name = standardTag "null" then if isNull text then some .null else none
      else some (.text text)
    | none => some (if text.isEmpty ∨ isNull text then .null else .text text)

/-- One of several names: the text of a scalar, or its local tag if it says nothing else. -/
def word? (text : String) (style : Style) (tag : Option String) : Option Json :=
  match localName? tag with
  | some name => if style = .plain ∧ (text.isEmpty ∨ isNull text) then some (.text name) else none
  | none => some (.text text)

/-- A scalar of a shape. A record may be left empty. -/
def scalar? (shape : Shape) (text : String) (style : Style) (tag : Option String) : Option Json :=
  match shape with
  | .bool => if isOpen "bool" style tag then (bool? text).map .bool else none
  | .count =>
    if isOpen "int" style tag then (unsigned? UInt64.size text.toList).map Json.ofNat else none
  | .real =>
    if isOpen "float" style tag then (float? text).map fun x => .number (.float x) else none
  | .text => some (.text text)
  | .optionalText => optional? text style tag
  | .word => word? text style tag
  | .record _ => if text.isEmpty then some (.object []) else none
  | .flattened _ => if text.isEmpty then some (.object []) else none

/-! ### Collections -/

/-- An object, if all keys are texts; any other mapping is kept as a list of pairs. -/
def collect (members : List (Json × Json)) : Json :=
  let text? : Json × Json → Option (String × Json)
    | (.text key, v) => some (key, v)
    | _ => none
  match members.mapM text? with
  | some members => .object members
  | none => .array (members.map fun (key, v) => .array [key, v])

/-- A node without an expected type, in which collections are nested at most `depth` deep. -/
def untyped (anchors : List (Nat × Node)) (depth : Nat) (node : Node) : Selection Json := do
  match ← resolve anchors node with
  | .scalar text style tag => accept (untyped? text style tag)
  | .sequence items tag =>
    match depth with
    | 0 => refuse
    | depth + 1 =>
      if (localName? tag).isSome then refuse
      else .array <$> items.mapM (untyped anchors depth)
  | .mapping members tag =>
    match depth with
    | 0 => refuse
    | depth + 1 =>
      if (localName? tag).isSome then refuse
      else
        collect <$> members.mapM fun (key, value) => do
          return (← untyped anchors depth key, ← untyped anchors depth value)
  | _ => refuse

/-- The text of a key. -/
def keyText (anchors : List (Nat × Node)) (key : Node) : Selection String := do
  match ← resolve anchors key with
  | .scalar text _ _ => return text
  | _ => refuse

/-- The part of a node that a shape looks at. -/
def select (anchors : List (Nat × Node)) (depth : Nat) (shape : Shape) (node : Node) : Selection Json := do
  match ← resolve anchors node with
  | .scalar text style tag => accept (scalar? shape text style tag)
  | .mapping members _ =>
    match depth, shape with
    | depth + 1, .record fields =>
      .object <$> members.filterMapM fun (key, value) => do
        let key ← keyText anchors key
        match Shape.field? fields key with
        | some shape => return some (key, ← select anchors depth shape value)
        | none => return none
    | depth + 1, .flattened fields =>
      .object <$> members.mapM fun (key, value) => do
        let key ← keyText anchors key
        match Shape.field? fields key with
        | some shape => return (key, ← select anchors depth shape value)
        | none => return (key, ← untyped anchors depth value)
    | _, _ => refuse
  | _ => refuse

/-- How deep collections may be nested. -/
def maxDepth : Nat := 128

/-- The part of a YAML text that a shape looks at. A text without a document is an empty record. -/
def ofText? (shape : Shape) (s : String) : Option Json := do
  match ← Node.ofText? s with
  | some node =>
    let selected ← (select node.anchors maxDepth shape node).run (100 * node.size)
    some selected.1
  | none => scalar? shape "" .plain none

end Resilience.Yaml
