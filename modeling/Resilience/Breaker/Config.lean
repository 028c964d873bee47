import Resilience.Backoff

/-! What a circuit breaker is told: when to open, how long to stay open, and what counts. -/

namespace Resilience.Breaker

/-- How a breaker treats calls: it lets them pass, refuses them, or lets a few pass on trial. -/
inductive Phase
  | closed | opened | halfOpen
deriving DecidableEq

namespace Phase

/-- The name used in messages. -/
def name : Phase → String
  | .closed => "closed"
  | .opened => "open"
  | .halfOpen => "half-open"

/-- The name of the phase as a constructor. -/
def label : Phase → String
  | .closed => "Closed"
  | .opened => "Open"
  | .halfOpen => "HalfOpen"

end Phase

structure Config where
  /-- Failures within one counting window that open the breaker. -/
  failureThreshold : UInt64 := 3
  /-- Length of the counting window; zero never starts a new one. -/
  counterResetInterval : Duration := Duration.ofSeconds 60
  /-- How long the breaker stays open the first time. -/
  openTimeout : Duration := Duration.ofSeconds 20
  /-- Lengthens the open time with every trial period that failed. -/
  openTimeoutBackoff : BackoffPolicy := .constant (Duration.ofSeconds 20)
  /-- Successful trials that close the breaker; zero counts as one. -/
  halfOpenMaxSuccesses : UInt64 := 10
  /-- Whether a cancelled call counts as a failure. -/
  failOnCancel : Bool := true
  /-- Whether a call that missed its deadline counts as a failure. -/
  failOnDeadline : Bool := true

/-- The number of successful trials that close the breaker. -/
def Config.trialBudget (c : Config) : Nat := max c.halfOpenMaxSuccesses.toNat 1

/-- How a call ended, as its caller reports it. -/
structure Outcome where
  succeeded : Bool
  cancelled : Bool := false
  deadlineExceeded : Bool := false
  latency : Duration := Duration.zero
deriving DecidableEq

namespace Outcome

def success (latency : Duration) : Outcome := { succeeded := true, latency }

def failure (latency : Duration) : Outcome := { succeeded := false, latency }

def cancellation (latency : Duration) : Outcome := { failure latency with cancelled := true }

def missedDeadline (latency : Duration) : Outcome := { failure latency with deadlineExceeded := true }

end Outcome

/-- What a reported outcome counts as. -/
inductive Verdict
  | success | failure | ignored
deriving DecidableEq

/-- Cancellations and missed deadlines that are not failures count as nothing. -/
def Config.classify (c : Config) (o : Outcome) : Verdict :=
  if o.succeeded then .success
  else if o.cancelled && !c.failOnCancel then .ignored
  else if o.deadlineExceeded && !c.failOnDeadline then .ignored
  else .failure

end Resilience.Breaker
