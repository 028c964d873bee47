/-! Reading whole numbers, doubles and truth values written as text. The whole text must be the
    number: no blanks, no separators. -/

namespace Resilience.Text

/-- Why a text is not a number or truth value of the wanted kind. -/
inductive NumberError
  | emptyInteger
  | invalidDigit
  | tooLarge
  | emptyFloat
  | invalidFloat
  | notBoolean
deriving DecidableEq

def NumberError.message : NumberError → String
  | .emptyInteger => "cannot parse integer from empty string"
  | .invalidDigit => "invalid digit found in string"
  | .tooLarge => "number too large to fit in target type"
  | .emptyFloat => "cannot parse float from empty string"
  | .invalidFloat => "invalid float literal"
  | .notBoolean => "provided string was not `true` or `false`"

def digitValue (c : Char) : Nat := c.toNat - 48

/-- Adds a digit to a count below `bound`. A character that is no digit is reported before a count
    that grows too large. -/
def addDigit (bound : Nat) (n : Nat) (c : Char) : Except NumberError Nat :=
  if !c.isDigit then .error .invalidDigit
  else if n * 10 + digitValue c < bound then .ok (n * 10 + digitValue c)
  else .error .tooLarge

/-- A count below `bound` in decimal digits, with an optional plus sign. -/
def count (bound : Nat) (s : String) : Except NumberError Nat :=
  match s.toList with
  | [] => .error .emptyInteger
  | '+' :: [] => .error .invalidDigit
  | '+' :: digits => digits.foldlM (addDigit bound) 0
  | digits => digits.foldlM (addDigit bound) 0

def count32 (s : String) : Except NumberError UInt32 := (count UInt32.size s).map UInt32.ofNat

def count64 (s : String) : Except NumberError UInt64 := (count UInt64.size s).map UInt64.ofNat

def boolean (s : String) : Except NumberError Bool :=
  if s = "true" then .ok true
  else if s = "false" then .ok false
  else .error .notBoolean

/-! ### Doubles -/

def infinity : Float := Float.ofBits 0x7FF0000000000000

def notANumber : Float := Float.ofBits 0x7FF8000000000000

/-- The number that a row of digits stands for. -/
def digitsValue (digits : List Char) : Nat := digits.foldl (fun n c => n * 10 + digitValue c) 0

/-- The double nearest to `mantissa * 10 ^ exponent`. Exponents far outside the range of doubles are
    decided by size, without computing the power. -/
def nearestFloat (mantissa : Nat) (exponent : Int) : Float :=
  let size := (Nat.toDigits 10 mantissa).length + exponent
  if mantissa = 0 ∨ size < -400 then 0.0
  else if 400 < size then infinity
  else Float.ofScientific mantissa (exponent < 0) exponent.natAbs

/-- A decimal exponent: digits with an optional sign and nothing after them. -/
def exponentValue? (cs : List Char) : Option Int :=
  let value? (digits : List Char) : Option Nat :=
    if digits ≠ [] ∧ digits.all Char.isDigit then some (digitsValue digits) else none
  match cs with
  | '+' :: digits => (value? digits).map Int.ofNat
  | '-' :: digits => (value? digits).map fun n => -(n : Int)
  | digits => (value? digits).map Int.ofNat

/-- An unsigned decimal: digits, a point among, before or after them, and an exponent. -/
def decimal? (cs : List Char) : Option Float :=
  let whole := cs.takeWhile Char.isDigit
  let rest := cs.dropWhile Char.isDigit
  let (fraction, rest) :=
    match rest with
    | '.' :: rest => (rest.takeWhile Char.isDigit, rest.dropWhile Char.isDigit)
    | rest => ([], rest)
  let digits := whole ++ fraction
  let value (exponent : Int) : Float := nearestFloat (digitsValue digits) (exponent - fraction.length)
  if digits = [] then none
  else
    match rest with
    | [] => some (value 0)
    | 'e' :: exponent => (exponentValue? exponent).map value
    | 'E' :: exponent => (exponentValue? exponent).map value
    | _ => none

/-- An unsigned double: a decimal, or a name in letters of either case. -/
def unsignedFloat? (cs : List Char) : Option Float :=
  match decimal? cs with
  | some x => some x
  | none =>
    let name := String.ofList (cs.map Char.toLower)
    if name = "inf" ∨ name = "infinity" then some infinity
    else if name = "nan" then some notANumber
    else none

/-- A double with an optional sign, rounded to nearest. -/
def float (s : String) : Except NumberError Float :=
  let required (x : Option Float) : Except NumberError Float :=
    match x with
    | some x => .ok x
    | none => .error .invalidFloat
  match s.toList with
  | [] => .error .emptyFloat
  | '+' :: cs => required (unsignedFloat? cs)
  | '-' :: cs => required ((unsignedFloat? cs).map (-·))
  | cs => required (unsignedFloat? cs)

end Resilience.Text
