import Resilience.Json.Value
import Resilience.Text.Number

/-! Reading JSON text. The reader first builds the tree of the text as it is written, where a number can
    be too large and a string can hold half of a surrogate pair; such leaves are well formed but have no
    value. Reading a value out of the tree refuses them, as it refuses nesting that is too deep. -/

namespace Resilience.Json

/-- JSON text as it is written. Leaves and keys without a value are `none`. -/
inductive Tree
  | null
  | bool (b : Bool)
  | number (n : Option Number)
  | text (s : Option String)
  | array (items : List Tree)
  | object (members : List (Option String × Tree))

/-! ### Numbers -/

/-- A number as it is written. -/
structure Numeral where
  negative : Bool
  whole : List Char
  fraction : List Char
  /-- The sign and the digits of the exponent. -/
  exponent : Option (Bool × List Char)

/-- Appends digits to a 64-bit count while they fit; what is left over starts with one that does not. -/
def takeFitting (n : Nat) : List Char → Nat × List Char
  | [] => (n, [])
  | c :: cs =>
    let next := n * 10 + Text.digitValue c
    if next < UInt64.size then takeFitting next cs else (n, c :: cs)

/-- The double nearest to a power of ten. -/
def powerOfTen (n : Nat) : Float := Float.ofScientific 1 false n

/-- Scales by `10 ^ exponent` in doubles: one multiplication or division by a power of ten, after divisions by
    `10 ^ 308` while the exponent is lower than that. A result beyond all doubles is refused. -/
def scale (x : Float) (exponent : Int) : Option Float :=
  if exponent < -308 then
    if x == 0.0 then some x else scale (x / powerOfTen 308) (exponent + 308)
  else if exponent < 0 then some (x / powerOfTen exponent.natAbs)
  else if 308 < exponent then if x == 0.0 then some x else none
  else
    let y := x * powerOfTen exponent.toNat
    if y.isInf then none else some y
termination_by (-exponent).toNat
decreasing_by omega

/-- Exponents are read to 31 bits. One that is longer makes a number zero or too large. -/
def exponentValue? (digits : List Char) : Option Nat :=
  match takeFitting 0 digits with
  | (n, []) => if n < UInt32.size / 2 then some n else none
  | _ => none

namespace Numeral

/-- The leading digits that fit into 64 bits, and the power of ten that they are counted in. Further
    whole digits count as zeros and further digits of the fraction are dropped. -/
def significand (n : Numeral) : Nat × Int :=
  let (whole, more) := takeFitting 0 n.whole
  let (both, dropped) := takeFitting whole n.fraction
  (both, more.length - (n.fraction.length - dropped.length : Nat))

def signed (n : Numeral) (x : Float) : Float := if n.negative then -x else x

/-- The value of a numeral: a whole number if it is written as one and fits into 64 bits, a negative
    zero excepted, else a double. -/
def value? (n : Numeral) : Option Number :=
  let (digits, power) := n.significand
  let start := (UInt64.ofNat digits).toFloat
  match n.exponent with
  | some (down, exponent) =>
    match exponentValue? exponent with
    | some e => (scale start (if down then power - e else power + e)).map fun x => .float (n.signed x)
    | none => if digits = 0 ∨ down then some (.float (n.signed 0.0)) else none
  | none =>
    if n.fraction = [] ∧ power = 0 then
      if !n.negative then some (.whole digits)
      else if 0 < digits ∧ digits ≤ UInt64.size / 2 then some (.whole (-(digits : Int)))
      else some (.float (n.signed start))
    else (scale start power).map fun x => .float (n.signed x)

end Numeral

/-- A numeral at the start of a text, after its sign. No digit may follow a leading zero, and there is a
    digit on both sides of a point and in an exponent. -/
def numeral? (negative : Bool) (cs : List Char) : Option (Numeral × List Char) := do
  let digits (cs : List Char) : List Char × List Char :=
    (cs.takeWhile Char.isDigit, cs.dropWhile Char.isDigit)
  let (whole, rest) := digits cs
  guard (whole ≠ [] ∧ (whole.head? = some '0' → whole.length = 1))
  let (fraction, rest) ←
    match rest with
    | '.' :: rest =>
      let (fraction, rest) := digits rest
      if fraction = [] then none else some (fraction, rest)
    | rest => some ([], rest)
  let exponent (rest : List Char) : Option (Numeral × List Char) :=
    let (down, rest) :=
      match rest with
      | '+' :: rest => (false, rest)
      | '-' :: rest => (true, rest)
      | rest => (false, rest)
    let (power, rest) := digits rest
    if power = [] then none else some (⟨negative, whole, fraction, some (down, power)⟩, rest)
  match rest with
  | 'e' :: rest => exponent rest
  | 'E' :: rest => exponent rest
  | rest => some (⟨negative, whole, fraction, none⟩, rest)

/-! ### Strings -/

def hexValue? (c : Char) : Option Nat :=
  if c.isDigit then some (c.toNat - 48)
  else if 'a' ≤ c ∧ c ≤ 'f' then some (c.toNat - 87)
  else if 'A' ≤ c ∧ c ≤ 'F' then some (c.toNat - 55)
  else none

/-- A piece of a string: a character, or a 16-bit unit written in hexadecimal. -/
inductive Piece
  | char (c : Char)
  | unit (n : Nat)

/-- The pieces of a string up to its closing quote, and what follows it. -/
def pieces? : List Char → Option (List Piece × List Char)
  | [] => none
  | '"' :: rest => some ([], rest)
  | '\\' :: 'u' :: a :: b :: c :: d :: rest => do
    let a ← hexValue? a
    let b ← hexValue? b
    let c ← hexValue? c
    let d ← hexValue? d
    let (more, rest) ← pieces? rest
    some (.unit (((a * 16 + b) * 16 + c) * 16 + d) :: more, rest)
  | '\\' :: c :: rest => do
    let escaped ←
      match c with
      | '"' => some '"'
      | '\\' => some '\\'
      | '/' => some '/'
      | 'b' => some (Char.ofNat 8)
      | 'f' => some (Char.ofNat 12)
      | 'n' => some '\n'
      | 'r' => some '\r'
      | 't' => some '\t'
      | _ => none
    let (more, rest) ← pieces? rest
    some (.char escaped :: more, rest)
  | c :: rest => do
    guard (c ≠ '\\' ∧ 32 ≤ c.toNat)
    let (more, rest) ← pieces? rest
    some (.char c :: more, rest)

/-- The characters that pieces stand for: surrogates must come in pairs. -/
def pieceChars? : List Piece → Option (List Char)
  | [] => some []
  | .char c :: more => (pieceChars? more).map (c :: ·)
  | .unit n :: more =>
    if 0xD800 ≤ n ∧ n < 0xDC00 then
      match more with
      | .unit low :: more =>
        if 0xDC00 ≤ low ∧ low < 0xE000 then
          (pieceChars? more).map (Char.ofNat (0x10000 + (n - 0xD800) * 0x400 + (low - 0xDC00)) :: ·)
        else none
      | _ => none
    else if 0xDC00 ≤ n ∧ n < 0xE000 then none
    else (pieceChars? more).map (Char.ofNat n :: ·)

/-- A string after its opening quote. -/
def string? (cs : List Char) : Option (Option String × List Char) := do
  let (pieces, rest) ← pieces? cs
  some ((pieceChars? pieces).map String.ofList, rest)

/-! ### Trees -/

def isSpace (c : Char) : Bool := c = ' ' || c = '\n' || c = '\t' || c = '\r'

def skipSpace (cs : List Char) : List Char := cs.dropWhile isSpace

mutual

/-- One value at the start of a text. Every step takes a character, so fuel for the length of the text
    is enough. -/
def treeAt? (fuel : Nat) (cs : List Char) : Option (Tree × List Char) :=
  match fuel with
  | 0 => none
  | fuel + 1 =>
    match skipSpace cs with
    | 'n' :: 'u' :: 'l' :: 'l' :: rest => some (.null, rest)
    | 't' :: 'r' :: 'u' :: 'e' :: rest => some (.bool true, rest)
    | 'f' :: 'a' :: 'l' :: 's' :: 'e' :: rest => some (.bool false, rest)
    | '"' :: rest => (string? rest).map fun (s, rest) => (.text s, rest)
    | '-' :: rest => (numeral? true rest).map fun (n, rest) => (.number n.value?, rest)
    | '[' :: rest =>
      match skipSpace rest with
      | ']' :: rest => some (.array [], rest)
      | rest => (items? fuel rest).map fun (items, rest) => (.array items, rest)
    | c :: rest =>
      if c.toNat = 0x7B then
        match skipSpace rest with
        | d :: rest =>
          if d.toNat = 0x7D then some (.object [], rest)
          else (members? fuel (d :: rest)).map fun (members, rest) => (.object members, rest)
        | [] => none
      else (numeral? false (c :: rest)).map fun (n, rest) => (.number n.value?, rest)
    | [] => none

/-- The items of an array after its bracket, which has at least one. -/
def items? (fuel : Nat) (cs : List Char) : Option (List Tree × List Char) :=
  match fuel with
  | 0 => none
  | fuel + 1 => do
    let (item, rest) ← treeAt? fuel cs
    match skipSpace rest with
    | ',' :: rest =>
      let (items, rest) ← items? fuel rest
      some (item :: items, rest)
    | ']' :: rest => some ([item], rest)
    | _ => none

/-- The members of an object after its brace, which has at least one. -/
def members? (fuel : Nat) (cs : List Char) : Option (List (Option String × Tree) × List Char) :=
  match fuel with
  | 0 => none
  | fuel + 1 =>
    match skipSpace cs with
    | '"' :: rest => do
      let (key, rest) ← string? rest
      match skipSpace rest with
      | ':' :: rest =>
        let (item, rest) ← treeAt? fuel rest
        match skipSpace rest with
        | ',' :: rest =>
          let (members, rest) ← members? fuel rest
          some ((key, item) :: members, rest)
        | c :: rest => if c.toNat = 0x7D then some ([(key, item)], rest) else none
        | [] => none
      | _ => none
    | _ => none

end

/-- The tree of a text that is one value between blanks. -/
def tree? (s : String) : Option Tree := do
  let (tree, rest) ← treeAt? (s.length + 1) s.toList
  guard (skipSpace rest = [])
  some tree

/-! ### Values -/

mutual

/-- The value of a tree with every member in its place, if arrays and objects are nested at most
    `depth` deep. -/
def Tree.plain? (depth : Nat) : Tree → Option Json
  | .null => some .null
  | .bool b => some (.bool b)
  | .number n => n.map .number
  | .text s => s.map .text
  | .array items =>
    match depth with
    | 0 => none
    | depth + 1 => (plainItems? depth items).map .array
  | .object members =>
    match depth with
    | 0 => none
    | depth + 1 => (plainMembers? depth members).map .object

def plainItems? (depth : Nat) : List Tree → Option (List Json)
  | [] => some []
  | item :: items => do
    let item ← item.plain? depth
    let items ← plainItems? depth items
    some (item :: items)

def plainMembers? (depth : Nat) : List (Option String × Tree) → Option (List (String × Json))
  | [] => some []
  | (key, item) :: members => do
    let key ← key
    let item ← item.plain? depth
    let members ← plainMembers? depth members
    some ((key, item) :: members)

end

mutual

/-- A value with the members of every object sorted by key and, of equal keys, the last one kept. -/
def sorted : Json → Json
  | .array items => .array (sortedItems items)
  | .object members => .object (sortedMembers (sortedEach members))
  | v => v

def sortedItems : List Json → List Json
  | [] => []
  | v :: items => sorted v :: sortedItems items

def sortedEach : List (String × Json) → List (String × Json)
  | [] => []
  | (key, v) :: members => (key, sorted v) :: sortedEach members

end

/-- How deep arrays and objects may be nested. -/
def maxDepth : Nat := 127

/-- The value of a text. -/
def read? (s : String) : Option Json := do
  let tree ← tree? s
  let v ← tree.plain? maxDepth
  some v.sorted

end Resilience.Json
