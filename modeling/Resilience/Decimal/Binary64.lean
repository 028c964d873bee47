/-! Doubles as exact numbers: a double is not a number, infinite, or a sign, a whole mantissa and a
    power of two. Comparing and truncating are done on that exact form. -/

namespace Resilience

/-- What a double stands for. -/
inductive Binary64
  | notANumber
  | infinite (negative : Bool)
  /-- The number `mantissa * 2 ^ exponent`, negated if `negative`. -/
  | finite (negative : Bool) (mantissa : Nat) (exponent : Int)
deriving DecidableEq

namespace Binary64

/-- Reads the sign, exponent and mantissa fields of a double. -/
def ofFloat (x : Float) : Binary64 :=
  let bits := x.toBits.toNat
  let negative : Bool := bits >>> 63 = 1
  let field : Nat := (bits >>> 52) % 2048
  let fraction : Nat := bits % (1 <<< 52)
  if field = 2047 then
    if fraction = 0 then .infinite negative else .notANumber
  else if field = 0 then .finite negative fraction (-1074)
  else .finite negative (fraction + 1 <<< 52) ((field : Int) - 1075)

/-- The whole number nearest to `n` that a double holds; of two equally near ones, the one with the
    even mantissa. Numbers below `2 ^ 53` are kept. -/
def ofNat (n : Nat) : Binary64 :=
  if n < 1 <<< 53 then .finite false n 0
  else
    let shift := n.log2 - 52
    let kept := n >>> shift
    let rest := n % (1 <<< shift)
    let half := 1 <<< (shift - 1)
    let up := half < rest ∨ (rest = half ∧ kept % 2 = 1)
    .finite false (if up then kept + 1 else kept) shift

/-- Mantissas of two finite numbers on the smaller of their exponents. -/
def align (m : Nat) (e : Int) (m' : Nat) (e' : Int) : Nat × Nat :=
  let low := min e e'
  (m <<< (e - low).toNat, m' <<< (e' - low).toNat)

/-- Strictly less, as for doubles: nothing is less or greater than what is not a number. -/
def lt : Binary64 → Binary64 → Bool
  | .notANumber, _ => false
  | _, .notANumber => false
  | .infinite a, .infinite b => a && !b
  | .infinite a, .finite .. => a
  | .finite .., .infinite b => !b
  | .finite a m e, .finite b m' e' =>
    let (x, y) := align m e m' e'
    match a, b with
    | false, false => x < y
    | true, true => y < x
    | true, false => 0 < x || 0 < y
    | false, true => false

/-- The lesser of a number and a bound; the bound where there is no number. -/
def capped (x bound : Binary64) : Binary64 :=
  match x with
  | .notANumber => bound
  | _ => if lt bound x then bound else x

/-- The whole part as a 64-bit count: nothing below zero, and no more than the largest count. -/
def toCount : Binary64 → UInt64
  | .notANumber => 0
  | .infinite negative => if negative then 0 else UInt64.ofNat (UInt64.size - 1)
  | .finite negative mantissa exponent =>
    if negative then 0
    else
      let whole :=
        if 0 ≤ exponent then mantissa <<< exponent.toNat else mantissa >>> (-exponent).toNat
      UInt64.ofNat (min whole (UInt64.size - 1))

end Binary64
end Resilience
