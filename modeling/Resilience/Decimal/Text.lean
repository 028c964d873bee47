import Resilience.Decimal.Shortest

/-! How doubles are written. Messages write them in full, without an exponent. Documents keep a
    fraction or an exponent on every double, so that a reader can tell it from a whole number. -/

namespace Resilience.Decimal

def zeros (n : Nat) : String := String.ofList (List.replicate n '0')

/-- All digits in place, with zeros up to or after the point as needed; whole numbers have no point. -/
def inFull (d : Decimal) : String :=
  let digits := d.digitText
  let place := d.pointPlace
  if 0 ≤ d.exponent then digits ++ zeros d.exponent.toNat
  else if 0 < place then
    String.ofList (digits.toList.take place.toNat) ++ "." ++ String.ofList (digits.toList.drop place.toNat)
  else "0." ++ zeros (-place).toNat ++ digits

/-- One digit, the others after a point, and an exponent; `plus` is the sign of a positive exponent. -/
def withExponent (d : Decimal) (plus : String) : String :=
  let digits := d.digitText.toList
  let first := String.ofList (digits.take 1)
  let rest := String.ofList (digits.drop 1)
  let power := d.pointPlace - 1
  let exponent := if 0 ≤ power then plus ++ toString power.toNat else "-" ++ toString (-power).toNat
  first ++ (if rest.isEmpty then "" else "." ++ rest) ++ "e" ++ exponent

/-- In full from `0.0001` up to and without `10 ^ 16`, else with an exponent that shows only a negative
    sign. -/
def inDescription (d : Decimal) : String :=
  let place := d.pointPlace
  if -4 < place ∧ place ≤ 16 then
    if 0 ≤ d.exponent then d.inFull ++ ".0" else d.inFull
  else d.withExponent ""

/-- In full from `0.00001` up to and without `10 ^ 16`, else with an exponent. -/
def inDocument (d : Decimal) (plus : String) : String :=
  let place := d.pointPlace
  if -5 < place ∧ place ≤ 16 then
    if 0 ≤ d.exponent then d.inFull ++ ".0" else d.inFull
  else d.withExponent plus

end Resilience.Decimal

namespace Resilience.Binary64

def signText (negative : Bool) : String := if negative then "-" else ""

/-- A double as messages show it. -/
def display : Binary64 → String
  | .notANumber => "NaN"
  | .infinite negative => signText negative ++ "inf"
  | .finite negative m e =>
    signText negative ++ if m = 0 then "0" else (Decimal.shortest m e).inFull

/-- A double in the description of a value. -/
def describe : Binary64 → String
  | .notANumber => "NaN"
  | .infinite negative => signText negative ++ "inf"
  | .finite negative m e =>
    signText negative ++ if m = 0 then "0.0" else (Decimal.shortest m e).inDescription

/-- A finite double as documents hold it; nothing for the others, which have no such text. Formats
    differ in the sign of a positive exponent, which is `plus`. -/
def documentText? (x : Binary64) (plus : String) : Option String :=
  match x with
  | .notANumber => none
  | .infinite _ => none
  | .finite negative m e =>
    some (signText negative ++ if m = 0 then "0.0" else (Decimal.shortest m e).inDocument plus)

end Resilience.Binary64
