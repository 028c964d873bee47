import Resilience.Breaker.State
import Resilience.Time.Clock
import Resilience.LogEvent

/-! What can be seen of a run from outside: log lines, waits, calls of the transport and of callbacks,
    structured records and trace spans. A run leaves a list of entries in the order they happened. -/

namespace Resilience

structure SpanId where
  value : UInt64
deriving DecidableEq

/-- How a traced operation ended. -/
inductive SpanStatus
  | ok
  | error (message : String)
deriving DecidableEq

/-- One visible action; `ρ` is the type of requests. -/
inductive Entry (ρ : Type)
  /-- A line of the diagnostic log. -/
  | log (level : Level) (text : String)
  /-- The work was started for the attempt with this index. -/
  | attempt (index : Nat)
  /-- The clock was asked to wait. -/
  | sleep (d : Duration)
  /-- The transport was given a request, under this deadline and cancellation. -/
  | dispatch (request : ρ) (deadline : Option Instant) (cancelled : Bool)
  /-- A state observer was told of a change of phase. -/
  | transition (t : Breaker.Transition)
  /-- A state observer looked at the breaker. -/
  | observed (s : Breaker.Snapshot)
  /-- The callback for refused requests was run. -/
  | refused (request : ρ)
  /-- A structured record was handed to the logger. -/
  | event (e : LogEvent)
  | spanStarted (id : SpanId) (name : String) (fields : Json)
  | spanEnded (id : SpanId) (status : SpanStatus)

/-- Whether an entry was left by telemetry. -/
def Entry.isTelemetry {ρ : Type} : Entry ρ → Bool
  | .event _ => true
  | .spanStarted .. => true
  | .spanEnded .. => true
  | _ => false

/-- The outcome of something that runs in surroundings `σ`: its result, unless time arithmetic failed,
    the surroundings it left, and what could be seen. -/
structure Performed (σ ρ α : Type) where
  result : Except Overflow α
  state : σ
  journal : List (Entry ρ) := []

end Resilience
