import Resilience.Breaker.Config

/-! How a call fails: what a transport reports, and what the caller of a guarded client gets. -/

namespace Resilience

/-- A failure reported by a transport. -/
inductive TransportError
  | connection (message : String)
  /-- The target answered with an error status. -/
  | status (code : UInt16) (message : String)
  | deadlineExceeded
  | cancelled
deriving DecidableEq

def TransportError.text : TransportError → String
  | .connection message => "Connection error: " ++ message
  | .status code message => s!"Status {code.toNat}: {message}"
  | .deadlineExceeded => "Deadline exceeded"
  | .cancelled => "Call cancelled"

inductive CallError
  /-- The exchange could not be completed. -/
  | transport (message : String)
  /-- The attempt outlived its deadline. -/
  | timeout
  /-- The target failed to process the request. -/
  | server (code : UInt16) (message : String)
  /-- The target refused the request itself. -/
  | client (code : UInt16) (message : String)
  /-- The breaker did not let the request pass. -/
  | breakerOpen
  | cancelled
  /-- Every permitted attempt failed. -/
  | exhausted (attempts : Nat) (elapsed : Duration) (source : CallError)
deriving DecidableEq

namespace CallError

def text : CallError → String
  | .transport message => "Transport error: " ++ message
  | .timeout => "Deadline exceeded"
  | .server code message => s!"Server error {code.toNat}: {message}"
  | .client code message => s!"Client error {code.toNat}: {message}"
  | .breakerOpen => "Circuit breaker is open"
  | .cancelled => "Call cancelled"
  | .exhausted attempts elapsed source =>
    s!"Retries exhausted after {attempts} attempts in {elapsed.text}: {source.text}"

/-- The error of the last attempt. -/
def root : CallError → CallError
  | .exhausted _ _ source => source.root
  | error => error

/-- Whether the breaker refused the last attempt. -/
def isRefusal (e : CallError) : Bool := e.root = .breakerOpen

/-- Failures of the exchange, the deadline or the target may pass; the others will not. -/
def isRetryable : CallError → Bool
  | .transport _ | .timeout | .server .. => true
  | _ => false

/-- Status codes that blame the request become client errors, all others server errors. -/
def ofTransport : TransportError → CallError
  | .connection message => .transport message
  | .status code message => if 400 ≤ code ∧ code < 500 then .client code message else .server code message
  | .deadlineExceeded => .timeout
  | .cancelled => .cancelled

/-- What the breaker is told of an attempt that failed this way. A target that refuses the request is
    healthy. -/
def outcome (latency : Duration) : CallError → Breaker.Outcome
  | .client .. => .success latency
  | .cancelled => .cancellation latency
  | .timeout => .missedDeadline latency
  | _ => .failure latency

end CallError
end Resilience
