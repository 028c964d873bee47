import Resilience.Json.Tree

/-! What a reader wants to see of a document. A record looks at its own members and passes over all
    others without reading them; a flattened record reads all members, because others look at them
    later. -/

namespace Resilience

inductive Shape
  | bool
  | count
  | real
  | text
  /-- A text that may be absent. -/
  | optionalText
  /-- One of several names. -/
  | word
  | record (fields : List (String × Shape))
  | flattened (fields : List (String × Shape))

namespace Shape

/-- The shape of a member of a record, if it looks at it. -/
def field? (fields : List (String × Shape)) (key : String) : Option Shape :=
  (fields.find? fun f => f.1 = key).map (·.2)

open Json (Tree)

mutual

/-- The part of a tree that a shape looks at. A leaf without a value is a fault where it is looked at,
    and so is nesting beyond `depth`. -/
def select (depth : Nat) (shape : Shape) : Tree → Option Json
  | .array items =>
    match depth, shape with
    | depth + 1, .record fields => (selectItems depth fields items).map .array
    | depth, _ => (Tree.array items).plain? depth
  | .object members =>
    match depth, shape with
    | depth + 1, .record fields => (selectMembers depth fields false members).map .object
    | depth + 1, .flattened fields => (selectMembers depth fields true members).map .object
    | depth, _ => (Tree.object members).plain? depth
  | leaf => leaf.plain? depth

/-- Items in the place of fields. -/
def selectItems (depth : Nat) (fields : List (String × Shape)) : List Tree → Option (List Json)
  | [] => some []
  | item :: items => do
    let item ←
      match fields with
      | f :: _ => select depth f.2 item
      | [] => item.plain? depth
    let items ← selectItems depth fields.tail items
    some (item :: items)

/-- Members under known keys; those under other keys are kept only if `all`. -/
def selectMembers (depth : Nat) (fields : List (String × Shape)) (all : Bool) :
    List (Option String × Tree) → Option (List (String × Json))
  | [] => some []
  | (key, item) :: members => do
    let key ← key
    match field? fields key with
    | some shape =>
      let item ← select depth shape item
      let members ← selectMembers depth fields all members
      some ((key, item) :: members)
    | none =>
      if all then
        let item ← item.plain? depth
        let members ← selectMembers depth fields all members
        some ((key, item) :: members)
      else selectMembers depth fields all members

end

/-- The part of a JSON text that a shape looks at. -/
def ofJsonText? (shape : Shape) (s : String) : Option Json := do
  let tree ← Json.tree? s
  shape.select Json.maxDepth tree

end Shape
end Resilience
