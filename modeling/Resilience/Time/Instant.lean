import Resilience.Time.Duration

/-! Points in time, counted in nanoseconds from an arbitrary origin and held to signed 64-bit seconds.
    Moving an instant is refused at the ends of that range, and the distance between two instants
    always is a duration. -/

namespace Resilience

/-- Instants lie from minus this bound up to, and without, this bound. -/
def instantBound : Int := 9223372036854775808 * 1000000000

@[ext] structure Instant where
  nanos : Int
  lower : -instantBound ≤ nanos := by decide
  upper : nanos < instantBound := by decide
deriving DecidableEq

namespace Instant

/-- The origin of a timeline. -/
def origin : Instant := ⟨0, by decide, by decide⟩

instance : Inhabited Instant := ⟨origin⟩

def ofNanos? (n : Int) : Option Instant :=
  if h : -instantBound ≤ n ∧ n < instantBound then some ⟨n, h.1, h.2⟩ else none

/-- The instant `d` after `t`, if it is in range. -/
def add? (t : Instant) (d : Duration) : Option Instant := ofNanos? (t.nanos + d.nanos)

/-- The instant `d` before `t`, if it is in range. -/
def sub? (t : Instant) (d : Duration) : Option Instant := ofNanos? (t.nanos - d.nanos)

/-- The time from `earlier` to `t`, zero if `earlier` is not earlier. -/
def since (t earlier : Instant) : Duration :=
  ⟨(t.nanos - earlier.nanos).toNat, by
    have h₁ := t.upper
    have h₂ := earlier.lower
    simp only [instantBound] at h₁ h₂
    unfold maxDurationNanos
    omega⟩

instance : LE Instant := ⟨fun t u => t.nanos ≤ u.nanos⟩

instance : LT Instant := ⟨fun t u => t.nanos < u.nanos⟩

instance (t u : Instant) : Decidable (t ≤ u) := inferInstanceAs (Decidable (t.nanos ≤ u.nanos))

instance (t u : Instant) : Decidable (t < u) := inferInstanceAs (Decidable (t.nanos < u.nanos))

instance : Min Instant := ⟨fun t u => if t ≤ u then t else u⟩

end Instant
end Resilience
