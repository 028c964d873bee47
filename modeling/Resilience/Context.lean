import Resilience.Time.Instant

/-! The scope of one call: a deadline and a cancellation flag. A derived context keeps the earlier
    deadline and shares the flag, so deriving only tightens. -/

namespace Resilience

/-- Names a cancellation flag; contexts with the same token are cancelled together. -/
structure Token where
  id : Nat
deriving DecidableEq

/-- The cancellation flags handed out so far. A raised flag is never lowered. -/
structure Cancellations where
  issued : Nat := 0
  raised : List Token := []
deriving DecidableEq

namespace Cancellations

/-- A flag that nothing else uses. -/
def fresh (f : Cancellations) : Token × Cancellations := (⟨f.issued⟩, { f with issued := f.issued + 1 })

def isCancelled (f : Cancellations) (t : Token) : Bool := f.raised.contains t

def cancel (f : Cancellations) (t : Token) : Cancellations :=
  if f.isCancelled t then f else { f with raised := t :: f.raised }

end Cancellations

/-- What bounds one logical call. -/
structure CallContext where
  deadline : Option Instant := none
  token : Token
deriving DecidableEq

namespace CallContext

/-- The time left until the deadline; nothing without a deadline, zero once it has passed. -/
def remaining (c : CallContext) (now : Instant) : Option Duration :=
  c.deadline.map fun deadline => deadline.since now

/-- Whether the deadline has been reached. -/
def isExpired (c : CallContext) (now : Instant) : Bool :=
  match c.deadline with
  | some deadline => deadline ≤ now
  | none => false

/-- The context for work that must also end `timeout` after `now`. A sum that is out of range sets no
    bound of its own. -/
def shrink (c : CallContext) (now : Instant) (timeout : Duration) : CallContext :=
  { c with deadline :=
      match c.deadline, now.add? timeout with
      | some parent, some child => some (min parent child)
      | some parent, none => some parent
      | none, child => child }

end CallContext
end Resilience
