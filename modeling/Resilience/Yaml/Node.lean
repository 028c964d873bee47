import Resilience.Yaml.Lexer

/-! The tree of a YAML document. Tags are given in full, and anchors are numbered: an anchor's number is
    how many different names came before it, and an alias means the last node with its number. -/

namespace Resilience.Yaml

inductive Node
  | alias (number : Nat)
  | scalar (text : String) (style : Style) (tag : Option String)
  | sequence (items : List Node) (tag : Option String)
  | mapping (members : List (Node × Node)) (tag : Option String)
  | anchored (number : Nat) (node : Node)

namespace Node

/-- A scalar that is not there. -/
def empty : Node := .scalar "" .plain none

/-! ### Reading -/

/-- The tokens still to come, what tag handles stand for, and the numbers of the anchors so far. -/
structure Reader where
  tokens : List Token
  handles : List (String × String)
  anchors : List (String × Nat) := []

abbrev Read := StateT Reader Option

def peek : Read (Option Token) := return (← get).tokens.head?

def drop : Read Unit := modify fun r => { r with tokens := r.tokens.tail }

def fault {α : Type} : Read α := fun _ => none

/-- Whether the next token is one of these; at the end of the text there is none. -/
def isNext (ts : List Token) : Read Bool := return (← peek).any ts.contains

/-- Whether a node may start here: it may not at these tokens. -/
def mayStart (ends : List Token) : Read Bool := return !(← isNext ends)

/-- The number of an anchor with this name from here on. -/
def number (name : String) : Read Nat := do
  let r ← get
  let n := r.anchors.length
  set { r with anchors := (name, n) :: r.anchors.filter (·.1 ≠ name) }
  return n

/-- The number that an alias means here. -/
def numberOf (name : String) : Read Nat := do
  match (← get).anchors.find? (·.1 = name) with
  | some (_, n) => return n
  | none => fault

/-- A tag in full. -/
def fullTag (handle suffix : String) : Read String := do
  if handle.isEmpty then return suffix
  else
    match (← get).handles.find? (·.1 = handle) with
    | some (_, stem) => return stem ++ suffix
    | none => fault

def anchor? : Read (Option Nat) := do
  match ← peek with
  | some (.anchor name) => do
    drop
    some <$> number name
  | _ => return none

def tag? : Read (Option String) := do
  match ← peek with
  | some (.tag handle suffix) => do
    drop
    some <$> fullTag handle suffix
  | _ => return none

/-- An anchor and a tag, in either order. -/
def properties : Read (Option Nat × Option String) := do
  match ← anchor? with
  | some n => return (some n, ← tag?)
  | none =>
    let tag ← tag?
    return (← anchor?, tag)

mutual

/-- A node. Blocks are possible only where `block`; a sequence in a mapping need not be indented. Fuel
    for a few steps per token is enough. -/
def read (fuel : Nat) (block unindented : Bool) : Read Node :=
  match fuel with
  | 0 => fault
  | fuel + 1 => do
    match ← peek with
    | some (.alias name) => do
      drop
      return .alias (← numberOf name)
    | _ => do
      let (anchor, tag) ← properties
      let node ← content fuel block unindented (anchor.isSome || tag.isSome) tag
      return match anchor with
        | some n => .anchored n node
        | none => node

/-- A node behind its properties; if it has any, it may be empty. The tag `!` of a scalar says nothing. -/
def content (fuel : Nat) (block unindented named : Bool) (tag : Option String) : Read Node :=
  match fuel with
  | 0 => fault
  | fuel + 1 => do
    match ← peek with
    | some (.scalar text style) => do
      drop
      return .scalar text style (if tag = some "!" then none else tag)
    | some .flowSequenceStart => do
      drop
      return .sequence (← flowItems fuel true) tag
    | some .flowMappingStart => do
      drop
      return .mapping (← flowMembers fuel true) tag
    | some .blockEntry => do
      if unindented then return .sequence (← unindentedItems fuel) tag
      else if named then return .scalar "" .plain tag
      else fault
    | some .blockSequenceStart => do
      if block then
        drop
        return .sequence (← blockItems fuel) tag
      else if named then return .scalar "" .plain tag
      else fault
    | some .blockMappingStart => do
      if block then
        drop
        return .mapping (← blockMembers fuel) tag
      else if named then return .scalar "" .plain tag
      else fault
    | _ => if named then return .scalar "" .plain tag else fault

/-- A node, or an empty scalar at one of these tokens. -/
def optional (fuel : Nat) (block unindented : Bool) (ends : List Token) : Read Node :=
  match fuel with
  | 0 => fault
  | fuel + 1 => do
    if ← mayStart ends then read fuel block unindented else return .empty

/-- The items of a block sequence. -/
def blockItems (fuel : Nat) : Read (List Node) :=
  match fuel with
  | 0 => fault
  | fuel + 1 => do
    match ← peek with
    | some .blockEntry => do
      drop
      let item ← optional fuel true false [.blockEntry, .blockEnd]
      return item :: (← blockItems fuel)
    | some .blockEnd => do
      drop
      return []
    | _ => fault

/-- The items of a sequence that is not indented, which ends where the mapping goes on. -/
def unindentedItems (fuel : Nat) : Read (List Node) :=
  match fuel with
  | 0 => fault
  | fuel + 1 => do
    match ← peek with
    | some .blockEntry => do
      drop
      let item ← optional fuel true false [.blockEntry, .key, .value, .blockEnd]
      return item :: (← unindentedItems fuel)
    | _ => return []

/-- The members of a block mapping. A key or a value that is left out is empty. -/
def blockMembers (fuel : Nat) : Read (List (Node × Node)) :=
  match fuel with
  | 0 => fault
  | fuel + 1 => do
    match ← peek with
    | some .key => do
      drop
      let key ← optional fuel true true [.key, .value, .blockEnd]
      let value ← blockValue fuel
      return (key, value) :: (← blockMembers fuel)
    | some .blockEnd => do
      drop
      return []
    | _ => fault

def blockValue (fuel : Nat) : Read Node :=
  match fuel with
  | 0 => fault
  | fuel + 1 => do
    match ← peek with
    | some .value => do
      drop
      optional fuel true true [.key, .value, .blockEnd]
    | _ => return .empty

/-- The items of a flow sequence; an item with a key is a mapping of one member. -/
def flowItems (fuel : Nat) (first : Bool) : Read (List Node) :=
  match fuel with
  | 0 => fault
  | fuel + 1 => do
    let close : Read (List Node) := do
      drop
      return []
    if ← isNext [.flowSequenceEnd] then close
    else
      let entry ← isNext [.flowEntry]
      if !first && !entry then fault
      if !first then drop
      match ← peek with
      | some .flowSequenceEnd => if first then fault else close
      | some .key => do
        drop
        let key ← flowKey fuel
        let value ← flowValue fuel [.flowEntry, .flowSequenceEnd]
        return .mapping [(key, value)] none :: (← flowItems fuel false)
      | _ => do
        let item ← read fuel false false
        return item :: (← flowItems fuel false)

/-- The key of a member in a flow sequence. Where it is left out, the token in its place is lost. -/
def flowKey (fuel : Nat) : Read Node :=
  match fuel with
  | 0 => fault
  | fuel + 1 => do
    if ← mayStart [.value, .flowEntry, .flowSequenceEnd] then read fuel false false
    else
      drop
      return .empty

def flowValue (fuel : Nat) (ends : List Token) : Read Node :=
  match fuel with
  | 0 => fault
  | fuel + 1 => do
    match ← peek with
    | some .value => do
      drop
      optional fuel false false ends
    | _ => return .empty

/-- The members of a flow mapping; one without a key indicator has an empty value. -/
def flowMembers (fuel : Nat) (first : Bool) : Read (List (Node × Node)) :=
  match fuel with
  | 0 => fault
  | fuel + 1 => do
    let close : Read (List (Node × Node)) := do
      drop
      return []
    if ← isNext [.flowMappingEnd] then close
    else
      let entry ← isNext [.flowEntry]
      if !first && !entry then fault
      if !first then drop
      match ← peek with
      | some .flowMappingEnd => if first then fault else close
      | some .key => do
        drop
        let key ← optional fuel false false [.value, .flowEntry, .flowMappingEnd]
        let value ← flowValue fuel [.flowEntry, .flowMappingEnd]
        return (key, value) :: (← flowMembers fuel false)
      | _ => do
        let key ← read fuel false false
        return (key, .empty) :: (← flowMembers fuel false)

end

/-! ### Documents -/

/-- The handles that need no declaration. -/
def standardHandles : List (String × String) := [("!", "!"), ("!!", "tag:yaml.org,2002:")]

/-- The handles that directives declare, and the tokens behind them. A handle is declared once, and the
    version, which is at most one, must be known. -/
def directives? : List Token → (versioned : Bool) → List (String × String) →
    Option (List (String × String) × List Token)
  | .version major minor :: rest, versioned, handles =>
    if versioned ∨ major ≠ 1 ∨ (minor ≠ 1 ∧ minor ≠ 2) then none
    else directives? rest true handles
  | .tagHandle handle stem :: rest, versioned, handles =>
    if handles.any (·.1 = handle) then none else directives? rest versioned ((handle, stem) :: handles)
  | rest, _, handles => some (handles ++ standardHandles, rest)

/-- Whether a document without directives and marker starts with these tokens. -/
def startsBare : List Token → Bool
  | [] => false
  | .version .. :: _ => false
  | .tagHandle .. :: _ => false
  | .documentStart :: _ => false
  | _ => true

/-- Whether a marked document that goes on with these tokens is empty. -/
def startsEmpty : List Token → Bool
  | [] => true
  | .version .. :: _ => true
  | .tagHandle .. :: _ => true
  | .documentStart :: _ => true
  | .documentEnd :: _ => true
  | _ => false

def readFrom? (handles : List (String × String)) (tokens : List Token) : Option (Node × List Token) :=
  ((read (8 * tokens.length + 8) true false).run { tokens, handles }).map fun (node, r) => (node, r.tokens)

/-- The document of a text that has at most one; `none` within the result if it has none. -/
def document? (tokens : List Token) : Option (Option Node) :=
  if tokens.isEmpty then some none
  else do
    let (node, rest) ←
      if startsBare tokens then readFrom? standardHandles tokens
      else do
        let (handles, rest) ← directives? tokens false []
        guard (rest.head? = some .documentStart)
        let rest := rest.tail
        if startsEmpty rest then some (.empty, rest) else readFrom? handles rest
    guard (rest.all (· = .documentEnd))
    some (some node)

/-- The document of a text. -/
def ofText? (s : String) : Option (Option Node) := tokens? s >>= document?

end Node
end Resilience.Yaml
