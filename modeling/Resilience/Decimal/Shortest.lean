import Resilience.Decimal.Binary64

/-! The shortest decimal that reads back as a given double. A double stands for every real number that
    rounds to it; of the decimals in that interval the ones with the fewest digits are the shortest, and
    of those the one nearest to the double is chosen. All of it is exact arithmetic on whole numbers. -/

namespace Resilience

/-- The number `digits * 10 ^ exponent`. -/
structure Decimal where
  digits : Nat
  exponent : Int
deriving DecidableEq

namespace Decimal

/-- Whether the quotient of the first two numbers is at least a power of ten. -/
def reaches (num den : Nat) (k : Int) : Bool :=
  if 0 ≤ k then den * Nat.pow 10 k.toNat ≤ num else den ≤ num * Nat.pow 10 (-k).toNat

/-- The largest of the powers of ten up to `k` that the quotient reaches, searched downwards in at most
    `fuel` steps. -/
def magnitudeBelow (num den : Nat) (k : Int) : Nat → Int
  | 0 => k
  | fuel + 1 => if reaches num den k then k else magnitudeBelow num den (k - 1) fuel

/-- The power of ten of the leading digit of a positive double `m * 2 ^ e`. The estimate from the
    binary logarithm is never too small and at most one too large. -/
def magnitude (m : Nat) (e : Int) : Int :=
  let num := m <<< e.toNat
  let den := 1 <<< (-e).toNat
  let estimate := ((m.log2 : Int) + e + 1) * 30103 / 100000 + 1
  magnitudeBelow num den estimate 4

/-- The real numbers that round to `m * 2 ^ e`, as numerators over four times the denominator, and
    whether the ends belong to it. Below a power of two the doubles are twice as dense. -/
structure Interval where
  low : Nat
  value : Nat
  high : Nat
  den : Nat
  closed : Bool

def interval (m : Nat) (e : Int) : Interval :=
  let scale := 1 <<< e.toNat
  let dense := m = 1 <<< 52 ∧ -1074 < e
  { low := (4 * m - (if dense then 1 else 2)) * scale
    value := 4 * m * scale
    high := (4 * m + 2) * scale
    den := 4 <<< (-e).toNat
    closed := m % 2 = 0 }

/-- Whether `q * 10 ^ k` lies in the interval. -/
def Interval.contains (i : Interval) (q : Nat) (k : Int) : Bool :=
  let x := q * Nat.pow 10 k.toNat * i.den
  let unit := Nat.pow 10 (-k).toNat
  if i.closed then i.low * unit ≤ x && x ≤ i.high * unit else i.low * unit < x && x < i.high * unit

/-- The point of the grid of multiples of `10 ^ k` that lies in the interval and is nearest to its
    value; a tie goes to the even multiple. -/
def Interval.nearest? (i : Interval) (k : Int) : Option Nat :=
  let num := i.value * Nat.pow 10 (-k).toNat
  let den := i.den * Nat.pow 10 k.toNat
  let below := num / den
  let above := below + 1
  let twiceRest := 2 * (num % den)
  let preferBelow := twiceRest < den ∨ (twiceRest = den ∧ below % 2 = 0)
  let hitBelow := 0 < below && i.contains below k
  let hitAbove := i.contains above k
  if hitBelow && hitAbove then some (if preferBelow then below else above)
  else if hitBelow then some below
  else if hitAbove then some above
  else none

/-- The first grid, from coarse to fine, with a point in the interval. Seventeen digits always have
    one. -/
def search (i : Interval) (top : Int) (digits : Nat) : Nat → Decimal
  | 0 => ⟨i.value / i.den, 0⟩
  | fuel + 1 =>
    let k := top + 1 - digits
    match i.nearest? k with
    | some q => ⟨q, k⟩
    | none => search i top (digits + 1) fuel

/-- Moves trailing zeros of the digits into the exponent. -/
def trim (d : Decimal) : Decimal :=
  if h : d.digits ≠ 0 ∧ d.digits % 10 = 0 then
    trim ⟨d.digits / 10, d.exponent + 1⟩
  else d
termination_by d.digits
decreasing_by omega

/-- The shortest decimal that rounds to the positive double `m * 2 ^ e`. -/
def shortest (m : Nat) (e : Int) : Decimal :=
  (search (interval m e) (magnitude m e) 1 17).trim

/-- The digits as text. -/
def digitText (d : Decimal) : String := toString d.digits

/-- The place of the decimal point counted from the first digit. -/
def pointPlace (d : Decimal) : Int := (d.digitText.length : Int) + d.exponent

end Decimal
end Resilience
