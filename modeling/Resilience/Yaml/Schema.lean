import Resilience.Text.Number

/-! What a plain scalar stands for: nothing, a truth value, a whole number, a double, or else its
    text. -/

namespace Resilience.Yaml

def isNull (s : String) : Bool := ["null", "Null", "NULL", "~"].contains s

def bool? (s : String) : Option Bool :=
  if ["true", "True", "TRUE"].contains s then some true
  else if ["false", "False", "FALSE"].contains s then some false
  else none

/-! ### Numbers -/

def startsSigned (cs : List Char) : Bool := cs.head?.any fun c => c = '+' || c = '-'

/-- The value of a digit, in either case. -/
def digit? (base : Nat) (c : Char) : Option Nat :=
  let value :=
    if c.isDigit then c.toNat - 48
    else if 'a' ≤ c ∧ c ≤ 'z' then c.toNat - 87
    else if 'A' ≤ c ∧ c ≤ 'Z' then c.toNat - 55
    else base
  if value < base then some value else none

/-- The number below `bound` that digits stand for. -/
def natural? (base bound : Nat) (cs : List Char) : Option Nat := do
  guard (!cs.isEmpty)
  let n ← cs.foldlM (fun n c => (digit? base c).map (n * base + ·)) 0
  guard (n < bound)
  some n

/-- Digits that start with a needless zero, with an optional sign, are no number. -/
def isPadded (cs : List Char) : Bool :=
  let cs := if startsSigned cs then cs.tail else cs
  1 < cs.length && cs.head? = some '0' && cs.all Char.isDigit

/-- The base that a number is written in by its mark, and what follows the mark. -/
def marked? : List Char → Option (Nat × List Char)
  | '0' :: 'x' :: rest => some (16, rest)
  | '0' :: 'o' :: rest => some (8, rest)
  | '0' :: 'b' :: rest => some (2, rest)
  | _ => none

/-- An unsigned whole number below `bound`. -/
def unsigned? (bound : Nat) (cs : List Char) : Option Nat :=
  let size := if cs.head? = some '+' then cs.tail else cs
  match marked? size with
  | some (base, digits) => natural? base bound digits
  | none => if isPadded cs then none else natural? 10 bound size

/-- The size of a negative whole number down to `-bound`. -/
def negative? (bound : Nat) (cs : List Char) : Option Nat :=
  match cs with
  | '-' :: size =>
    match marked? size with
    | some (base, digits) => natural? base (bound + 1) digits
    | none => if isPadded cs then none else natural? 10 (bound + 1) size
  | _ => none

/-- A double: a decimal, or infinity and what is not a number by their names. -/
def float? (s : String) : Option Float :=
  let cs := s.toList
  let size := if cs.head? = some '+' then cs.tail else cs
  if cs.head? = some '+' ∧ startsSigned size then none
  else if [".inf", ".Inf", ".INF"].contains (String.ofList size) then some Text.infinity
  else if ["-.inf", "-.Inf", "-.INF"].contains s then some (-Text.infinity)
  else if [".nan", ".NaN", ".NAN"].contains s then some Text.notANumber
  else
    match Text.float (String.ofList size) with
    | .ok x => if x.isFinite then some x else none
    | .error _ => none

/-! ### Plain scalars -/

inductive Plain.Value
  | null
  | bool (b : Bool)
  | whole (n : Int)
  /-- A whole number beyond 64 bits, within 128. -/
  | large
  | float (x : Float)
  | text

/-- The whole number that a scalar stands for. -/
def whole? (cs : List Char) : Option Plain.Value :=
  match unsigned? UInt64.size cs with
  | some n => some (.whole n)
  | none =>
    match negative? (UInt64.size / 2) cs with
    | some n => some (.whole (-(n : Int)))
    | none =>
      let bound := UInt64.size * UInt64.size
      if (unsigned? bound cs).isSome ∨ (negative? (bound / 2) cs).isSome then some .large else none

/-- What a plain scalar stands for. -/
def plainValue (s : String) : Plain.Value :=
  let cs := s.toList
  if s.isEmpty ∨ isNull s then .null
  else
    match bool? s with
    | some b => .bool b
    | none =>
      match whole? cs with
      | some value => value
      | none =>
        if isPadded cs then .text
        else
          match float? s with
          | some x => .float x
          | none => .text

end Resilience.Yaml
