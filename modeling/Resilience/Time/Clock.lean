import Resilience.Time.Instant

/-! A clock that moves only when told to. Sleeping on it records the wait and moves the clock by it,
    so a whole run is determined by its inputs. -/

namespace Resilience

/-- Time arithmetic that has no result. -/
inductive Overflow
  /-- The instant after a duration is out of range. -/
  | instant
  /-- A sum of durations is longer than the longest duration. -/
  | total
  /-- Seconds and a carry of nanoseconds are longer than the longest duration. -/
  | carry
deriving DecidableEq

def Overflow.message : Overflow → String
  | .instant => "overflow when adding duration to instant"
  | .total => "overflow in iter::sum over durations"
  | .carry => "overflow in Duration::new"

/-- The clock's time and every wait it was asked for, oldest first. -/
structure ManualClock where
  now : Instant := Instant.origin
  sleeps : List Duration := []
deriving DecidableEq

namespace ManualClock

/-- Moves the clock; a clock that cannot move stays where it is. -/
def advance (c : ManualClock) (d : Duration) : Except Overflow Unit × ManualClock :=
  match c.now.add? d with
  | some t => (.ok (), { c with now := t })
  | none => (.error .instant, c)

/-- Waits for `d` unless cancelled; the answer says whether the wait was completed. The wait is
    recorded even when the clock cannot move that far. -/
def sleep (c : ManualClock) (d : Duration) (cancelled : Bool) : Except Overflow Bool × ManualClock :=
  if cancelled then (.ok false, c)
  else
    match ({ c with sleeps := c.sleeps ++ [d] }).advance d with
    | (.ok (), c) => (.ok true, c)
    | (.error e, c) => (.error e, c)

/-- The sum of all waits. -/
def totalSlept (c : ManualClock) : Except Overflow Duration :=
  match Duration.ofNanos? (c.sleeps.foldl (fun n d => n + d.nanos) 0) with
  | some d => .ok d
  | none => .error .total

end ManualClock
end Resilience
