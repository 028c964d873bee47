/-! Spans of time. A duration counts whole nanoseconds up to a fixed maximum, so sums and products
    either fit or are refused; nothing wraps around. -/

namespace Resilience

/-- The nanoseconds of the longest duration: `2^64 - 1` seconds and `999999999` nanoseconds. -/
def maxDurationNanos : Nat := 18446744073709551616 * 1000000000 - 1

/-- A span of time in whole nanoseconds. -/
@[ext] structure Duration where
  nanos : Nat
  nanos_le : nanos ≤ maxDurationNanos := by decide
deriving DecidableEq

namespace Duration

def zero : Duration := ⟨0, Nat.zero_le _⟩

/-- The longest duration. -/
def longest : Duration := ⟨maxDurationNanos, Nat.le_refl _⟩

instance : Inhabited Duration := ⟨zero⟩

/-- The duration of `n` nanoseconds, if there is one. -/
def ofNanos? (n : Nat) : Option Duration :=
  if h : n ≤ maxDurationNanos then some ⟨n, h⟩ else none

/-- The duration of `n` nanoseconds, or the longest one if `n` is too many. -/
def clamp (n : Nat) : Duration := ⟨min n maxDurationNanos, Nat.min_le_right _ _⟩

/-- Whole milliseconds always fit. -/
def ofMillis (n : UInt64) : Duration :=
  ⟨n.toNat * 1000000, by
    have := n.toNat_lt
    unfold maxDurationNanos
    omega⟩

/-- Whole seconds always fit. -/
def ofSeconds (n : UInt64) : Duration :=
  ⟨n.toNat * 1000000000, by
    have := n.toNat_lt
    unfold maxDurationNanos
    omega⟩

def isZero (d : Duration) : Bool := d.nanos == 0

/-- The whole milliseconds in a duration. -/
def millis (d : Duration) : Nat := d.nanos / 1000000

/-- A multiple of a duration, if it fits. -/
def mul? (d : Duration) (n : Nat) : Option Duration := ofNanos? (d.nanos * n)

def add? (d e : Duration) : Option Duration := ofNanos? (d.nanos + e.nanos)

instance : LE Duration := ⟨fun d e => d.nanos ≤ e.nanos⟩

instance : LT Duration := ⟨fun d e => d.nanos < e.nanos⟩

instance (d e : Duration) : Decidable (d ≤ e) := inferInstanceAs (Decidable (d.nanos ≤ e.nanos))

instance (d e : Duration) : Decidable (d < e) := inferInstanceAs (Decidable (d.nanos < e.nanos))

instance : Max Duration := ⟨fun d e => if d ≤ e then e else d⟩

instance : Min Duration := ⟨fun d e => if d ≤ e then d else e⟩

/-! ### Text -/

/-- The fraction `part / unit` as digits after a point, without trailing zeros; nothing if it is zero.
    `unit` is a power of ten. -/
def fractionText (part unit : Nat) : String :=
  if part = 0 then ""
  else
    let padded := toString (unit + part)
    let digits := (padded.toList.drop 1).reverse.dropWhile (· == '0')
    "." ++ String.ofList digits.reverse

/-- A duration in its largest fitting unit among `s`, `ms`, `µs` and `ns`, with the rest as a decimal
    fraction: `1.5µs`, `100ms`, `90061.5s`. -/
def text (d : Duration) : String :=
  let inUnit (size : Nat) (label : String) : String :=
    toString (d.nanos / size) ++ fractionText (d.nanos % size) size ++ label
  if 1000000000 ≤ d.nanos then inUnit 1000000000 "s"
  else if 1000000 ≤ d.nanos then inUnit 1000000 "ms"
  else if 1000 ≤ d.nanos then inUnit 1000 "µs"
  else inUnit 1 "ns"

end Duration
end Resilience
