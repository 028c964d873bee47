import Resilience.Yaml.Property

/-! Splitting a YAML text into tokens. Whether a scalar is a key shows only at the colon behind it, so
    the lexer remembers where a key may have started; keys found that way are put in front of their
    tokens at the end. -/

namespace Resilience.Yaml

/-- A place where a key may have started. -/
structure PossibleKey where
  /-- The number of tokens before it. -/
  position : Nat
  /-- Whether nothing but a key may stand there. -/
  required : Bool
  start : Cursor

structure Lexer where
  cursor : Cursor
  /-- The tokens found so far, newest first. -/
  tokens : List Token := []
  /-- The tokens before which a key starts, and whether it opens a mapping. -/
  keys : List (Nat × Bool) := []
  /-- The indentation of the current block and, innermost first, of those around it. The outermost
      block has `-1`. -/
  indent : Int := -1
  indents : List Int := []
  /-- A possible key for every level of flow collections, innermost first, and last for outside. -/
  possible : List (Option PossibleKey) := [none]
  /-- Whether a key may start here. -/
  keyAllowed : Bool := true

namespace Lexer

/-- Whether the lexer is inside flow collections. -/
def inFlow (l : Lexer) : Bool := 1 < l.possible.length

def push (l : Lexer) (t : Token) : Lexer := { l with tokens := t :: l.tokens }

/-- Adds a token of `n` characters. -/
def take (l : Lexer) (t : Token) (n : Nat := 1) : Lexer :=
  { l.push t with cursor := l.cursor.skip n }

/-! ### Blocks -/

/-- Closes the blocks that are indented more than `column`. -/
def closeBlocks (column : Int) (l : Lexer) : Lexer :=
  if l.inFlow then l
  else
    let inner := (l.indent :: l.indents).takeWhile (column < ·)
    let outer := (l.indent :: l.indents).dropWhile (column < ·)
    { l with
      tokens := List.replicate inner.length .blockEnd ++ l.tokens
      indent := outer.headD (-1)
      indents := outer.tail }

/-- Whether a block starts at `column`, and the lexer inside it. -/
def openBlock (column : Nat) (l : Lexer) : Bool × Lexer :=
  if !l.inFlow ∧ l.indent < column then
    (true, { l with indent := column, indents := l.indent :: l.indents })
  else (false, l)

/-- Opens a block here, if one starts here. -/
def openHere (t : Token) (l : Lexer) : Lexer :=
  let (opened, l) := l.openBlock l.cursor.column
  if opened then l.push t else l

/-! ### Possible keys -/

/-- Gives up the innermost possible key. -/
def dropKey? (l : Lexer) : Option Lexer :=
  match l.possible with
  | some key :: _ => if key.required then none else some { l with possible := none :: l.possible.tail }
  | _ => some l

/-- Notes that a key may start here. -/
def noteKey? (l : Lexer) : Option Lexer :=
  if l.keyAllowed then do
    let required : Bool := !l.inFlow && l.indent = l.cursor.column
    let l ← l.dropKey?
    some { l with possible := some ⟨l.tokens.length, required, l.cursor⟩ :: l.possible.tail }
  else some l

/-- Whether a key that started there may still end here: on its line, within 1024 characters. -/
def PossibleKey.isFresh (key : PossibleKey) (c : Cursor) : Bool :=
  c.line ≤ key.start.line && c.index ≤ key.start.index + 1024

/-- Gives up the possible keys that are too far away. -/
def dropStale? (l : Lexer) : Option Lexer := do
  let possible ← l.possible.mapM fun
    | some key =>
      if PossibleKey.isFresh key l.cursor then some (some key)
      else if key.required then none
      else some none
    | none => some none
  some { l with possible }

/-! ### Tokens -/

/-- Passes over blanks, comments and line breaks. A tab counts as a blank only where no key may start. -/
def toToken (fuel : Nat) (l : Lexer) : Lexer :=
  match fuel with
  | 0 => l
  | fuel + 1 =>
    let c := l.cursor
    let c := if c.index = 0 ∧ c.rest.head?.any (·.toNat = 0xFEFF) then c.skip else c
    let tabs := l.inFlow || !l.keyAllowed
    let c := c.skipWhile fun a => a = ' ' || (tabs && a = '\t')
    let c := if c.rest.head? = some '#' then c.skipWhile fun a => !isBreak a else c
    if c.rest.head?.any isBreak then
      toToken fuel { l with cursor := c.takeBreak.2, keyAllowed := l.keyAllowed || !l.inFlow }
    else { l with cursor := c }

/-- A marker or directive, which ends all blocks. -/
def topLevel? (l : Lexer) : Option Lexer := do
  let l ← (l.closeBlocks (-1)).dropKey?
  some { l with keyAllowed := false }

def flowStart? (t : Token) (l : Lexer) : Option Lexer := do
  let l ← l.noteKey?
  some { l.take t with possible := none :: l.possible, keyAllowed := true }

def flowEnd? (t : Token) (l : Lexer) : Option Lexer := do
  let l ← l.dropKey?
  let possible := if l.inFlow then l.possible.tail else l.possible
  some { l.take t with possible, keyAllowed := false }

def flowEntry? (l : Lexer) : Option Lexer := do
  let l ← l.dropKey?
  some { l.take .flowEntry with keyAllowed := true }

def blockEntry? (l : Lexer) : Option Lexer := do
  guard (l.inFlow ∨ l.keyAllowed)
  let l ← (l.openHere .blockSequenceStart).dropKey?
  some { l.take .blockEntry with keyAllowed := true }

/-- A key that its indicator announces. -/
def key? (l : Lexer) : Option Lexer := do
  guard (l.inFlow ∨ l.keyAllowed)
  let l ← (l.openHere .blockMappingStart).dropKey?
  some { l.take .key with keyAllowed := !l.inFlow }

/-- The colon before a value. The innermost possible key is one indeed. -/
def value? (l : Lexer) : Option Lexer :=
  match l.possible with
  | some key :: outer =>
    let (opened, l) := l.openBlock key.start.column
    some
      { l.take .value with
        keys := (key.position, opened) :: l.keys, possible := none :: outer, keyAllowed := false }
  | _ => do
    guard (l.inFlow ∨ l.keyAllowed)
    let l := l.openHere .blockMappingStart
    some { l.take .value with keyAllowed := !l.inFlow }

/-- A token that may be a key or start one. -/
def keyLike? (read : Cursor → Option (Token × Cursor)) (l : Lexer) : Option Lexer := do
  let l ← l.noteKey?
  let (t, cursor) ← read l.cursor
  some { l.push t with cursor, keyAllowed := false }

def quotedScalar? (single : Bool) (l : Lexer) : Option Lexer :=
  l.keyLike? fun c =>
    (quoted? single c).map fun (text, c) =>
      (.scalar (String.ofList text) (if single then .singleQuoted else .doubleQuoted), c)

def plainScalar? (l : Lexer) : Option Lexer := do
  let l ← l.noteKey?
  let read ← plain? l.inFlow (l.indent + 1).toNat l.cursor
  some { l.push (.scalar (String.ofList read.text) .plain) with
    cursor := read.cursor, keyAllowed := read.lineEnded }

def blockScalar? (literal : Bool) (l : Lexer) : Option Lexer := do
  let l ← l.dropKey?
  let (text, cursor) ← block? literal l.indent l.cursor
  some { l.push (.scalar (String.ofList text) (if literal then .literal else .folded)) with
    cursor, keyAllowed := true }

/-- Whether a plain scalar may start with these characters. -/
def startsPlain (flow : Bool) (c : Char) (rest : List Char) : Bool :=
  !(isSpace c || isFlowIndicator c || "-?:#&*!|>'\"%@".toList.contains c || c.toNat = 0x60) ||
    (c = '-' && !rest.head?.any isBlank) ||
    (!flow && (c = '?' || c = ':') && !endsWord rest)

/-- Takes the next token; `none` within the result at the end of the text. -/
def next? (l : Lexer) : Option (Option Lexer) := do
  let l ← (l.toToken (l.cursor.rest.length + 1)).dropStale?
  let l := l.closeBlocks l.cursor.column
  let c := l.cursor
  match c.rest with
  | [] => some none
  | a :: rest =>
    let l ←
      if c.column = 0 ∧ a = '%' then do
        let l ← l.topLevel?
        let (t, cursor) ← directive? l.cursor
        some { l.push t with cursor }
      else if c.isMarker '-' then l.topLevel?.map fun l => l.take .documentStart 3
      else if c.isMarker '.' then l.topLevel?.map fun l => l.take .documentEnd 3
      else if a = '[' then l.flowStart? .flowSequenceStart
      else if a.toNat = 0x7B then l.flowStart? .flowMappingStart
      else if a = ']' then l.flowEnd? .flowSequenceEnd
      else if a.toNat = 0x7D then l.flowEnd? .flowMappingEnd
      else if a = ',' then l.flowEntry?
      else if a = '-' ∧ endsWord rest then l.blockEntry?
      else if a = '?' ∧ (l.inFlow ∨ endsWord rest) then l.key?
      else if a = ':' ∧ (l.inFlow ∨ endsWord rest) then l.value?
      else if a = '*' then l.keyLike? fun c => (name? c).map fun (name, c) => (.alias name, c)
      else if a = '&' then l.keyLike? fun c => (name? c).map fun (name, c) => (.anchor name, c)
      else if a = '!' then l.keyLike? (tag? l.inFlow)
      else if a = '|' ∧ !l.inFlow then l.blockScalar? true
      else if a = '>' ∧ !l.inFlow then l.blockScalar? false
      else if a = '\'' then l.quotedScalar? true
      else if a = '"' then l.quotedScalar? false
      else if startsPlain l.inFlow a rest then l.plainScalar?
      else none
    some (some l)

/-- Takes all tokens. Every one takes a character, so fuel for the length of the text is enough. -/
def run? : Nat → Lexer → Option Lexer
  | 0, _ => none
  | fuel + 1, l => do
    match ← l.next? with
    | some l => run? fuel l
    | none => (l.closeBlocks (-1)).dropKey?

/-- The tokens with the keys in their places. -/
def result (l : Lexer) : List Token :=
  l.tokens.reverse.zipIdx.flatMap fun (t, i) =>
    match l.keys.find? (·.1 = i) with
    | some (_, true) => [.blockMappingStart, .key, t]
    | some (_, false) => [.key, t]
    | none => [t]

end Lexer

/-- The tokens of a text. -/
def tokens? (s : String) : Option (List Token) := do
  let cs := s.toList
  guard (cs.all isReadable)
  let l ← Lexer.run? (cs.length + 2) { cursor := { rest := cs } }
  some l.result

end Resilience.Yaml
