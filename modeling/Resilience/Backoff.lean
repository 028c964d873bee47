import Resilience.Time.Duration
import Resilience.Decimal.Binary64

/-! How long to wait before trying again. A policy is a pure function of the attempt number, and
    attempt `0` never waits. -/

namespace Resilience

inductive BackoffPolicy
  /-- The interval doubles with every attempt. -/
  | constant (interval : Duration)
  /-- A power of the factor in milliseconds, on top of the initial wait, up to a maximum. -/
  | exponential (initial longest : Duration) (factor : Float)

namespace BackoffPolicy

/-- A tenth of a second, doubling. -/
def standard : BackoffPolicy := .constant (Duration.ofMillis 100)

/-- The powers of two that a 32-bit count holds. -/
def doublings? (attempt : UInt32) : Option Nat :=
  if attempt < 32 then some (1 <<< attempt.toNat) else none

/-- Raises to a power by repeated squaring, least significant bit first; `acc` is the product so far. -/
def power (acc base : Float) (exponent : Nat) : Float :=
  let acc := if exponent % 2 = 1 then acc * base else acc
  if exponent / 2 = 0 then acc else power acc (base * base) (exponent / 2)
termination_by exponent
decreasing_by omega

/-- The wait of the exponential policy, if the power and the sum came to `millis`. -/
def cappedWait (millis : Float) (longest : Duration) : Duration :=
  Duration.ofMillis ((Binary64.ofFloat millis).capped (Binary64.ofNat longest.millis)).toCount

/-- The wait before retry number `attempt`. -/
def next (policy : BackoffPolicy) (attempt : UInt32) : Duration :=
  if attempt = 0 then Duration.zero
  else
    match policy with
    | .constant interval =>
      ((doublings? attempt).bind interval.mul?).getD Duration.longest
    | .exponential initial longest factor =>
      let exponent := min attempt.toNat 2147483647
      cappedWait (Float.ofNat initial.millis + power 1.0 factor exponent) longest

end BackoffPolicy
end Resilience
