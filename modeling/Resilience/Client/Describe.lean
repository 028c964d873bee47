import Resilience.Client.Basic
import Resilience.Decimal.Text
import Resilience.Text.Quoted

/-! Descriptions of policies, breakers and clients for diagnosis: the name of the kind of value and its
    fields. What is left out is marked by two dots. -/

namespace Resilience

/-- A described value: its kind and its fields with their texts. -/
def describeRecord (kind : String) (fields : List (String × String)) (complete : Bool) : String :=
  let shown := fields.map fun field => field.1 ++ ": " ++ field.2
  kind ++ " \x7b " ++ ", ".intercalate (if complete then shown else shown ++ [".."]) ++ " \x7d"

def BackoffPolicy.describe : BackoffPolicy → String
  | .constant interval => describeRecord "Constant" [("interval", interval.text)] true
  | .exponential initial longest factor =>
    describeRecord "Exponential"
      [("initial", initial.text), ("max", longest.text),
       ("factor", (Binary64.ofFloat factor).describe)] true

def boolText (b : Bool) : String := if b then "true" else "false"

namespace Breaker

def Config.describe (c : Config) : String :=
  describeRecord "CircuitBreakerConfig"
    [("failure_threshold", toString c.failureThreshold.toNat),
     ("counter_reset_interval", c.counterResetInterval.text),
     ("open_timeout", c.openTimeout.text),
     ("open_timeout_backoff", c.openTimeoutBackoff.describe),
     ("half_open_max_successes", toString c.halfOpenMaxSuccesses.toNat),
     ("fail_on_cancel", boolText c.failOnCancel),
     ("fail_on_deadline", boolText c.failOnDeadline)] true

/-- A breaker shows its name, what it was told, and its phase as it stands. -/
def describe (name : String) (c : Config) (s : State) : String :=
  describeRecord "CircuitBreaker"
    [("name", Text.quoted name), ("config", c.describe), ("state", s.phase.label)] false

end Breaker

def Retrier.describe (r : Retrier) (clock : String) : String :=
  let policy :=
    match r.policy with
    | some policy => "Some(" ++ policy.describe ++ ")"
    | none => "None"
  describeRecord "Retrier" [("policy", policy), ("clock", clock)] true

/-- A client shows its breaker and retrier; `clock` describes the clock it was given. -/
def Client.describe {τ : Type} (c : Client τ) (clock : String) (s : Breaker.State) : String :=
  describeRecord "ResilientClient"
    [("target", Text.quoted c.target), ("breaker", Breaker.describe c.target c.breaker s),
     ("retrier", c.retrier.describe clock),
     ("max_retry_attempts", toString c.maxRetryAttempts.toNat),
     ("per_call_timeout", c.perCallTimeout.text)] false

/-- The description of any telemetry. -/
def Telemetry.description : String := describeRecord "Telemetry" [] false

def SpanStatus.describe : SpanStatus → String
  | .ok => "Ok"
  | .error message => "Error(" ++ Text.quoted message ++ ")"

end Resilience
