import Resilience.Client.Basic
import Resilience.Settings.Validation

/-! Putting a client together from settings and single choices. -/

namespace Resilience.Client

/-- The choices from which a client is built; without any, it is the client of the default settings. -/
structure Plan where
  target : String := "default"
  backoff : BackoffPolicy := BackoffPolicy.standard
  retriesDisabled : Bool := false
  maxRetryAttempts : UInt32 := 0
  perCallTimeout : Duration := Duration.ofSeconds 1
  breaker : Breaker.Config := {}

namespace Plan

/-- Takes over all client settings. -/
def withSettings (p : Plan) (s : Settings.Client) : Plan :=
  { p with
    backoff := s.backoff.policy
    maxRetryAttempts := s.maxRetryAttempts
    perCallTimeout := s.perCallTimeout
    breaker := s.breaker.config }

/-- A client that may not or need not retry has no backoff. -/
def retrier (p : Plan) : Retrier :=
  if p.retriesDisabled ∨ p.maxRetryAttempts = 0 then Retrier.never else ⟨some p.backoff⟩

def build {τ : Type} (p : Plan) (telemetry : Telemetry τ) (callId : Nat → String) (hook observed : Bool) :
    Client τ where
  target := p.target
  retrier := p.retrier
  breaker := p.breaker
  maxRetryAttempts := p.maxRetryAttempts
  perCallTimeout := p.perCallTimeout
  telemetry
  callId
  hook
  observed

end Plan

/-- A client without diagnostics for settings that are sound. -/
def ofSettings (callId : Nat → String) (s : Settings.Client) : Except Settings.Violation (Client Unit) := do
  s.validate
  return (({} : Plan).withSettings s).build Telemetry.silent callId false false

/-- A client that has not been called, on a clock at `now`. -/
def State.start {σ τ : Type} (c : Client τ) (world : σ) (spans : τ) (now : Instant) : State σ τ :=
  { stage := ⟨world, Breaker.State.fresh c.breaker now⟩, spans }

end Resilience.Client
