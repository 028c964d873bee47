import Resilience.CallError
import Resilience.Retry
import Resilience.Telemetry
import Resilience.Breaker.Observer

/-! A client that guards one target: every attempt asks the breaker, runs under a deadline of its own,
    and is reported to the breaker; failed attempts are retried. -/

namespace Resilience

/-- A transport sends one request under a context. It may move time or cancel in its surroundings; it
    does not see the breaker. -/
structure Transport (σ ρ α : Type) where
  send : σ → ρ → CallContext → Except Overflow (Except TransportError α) × σ

structure Client (τ : Type) where
  target : String
  retrier : Retrier
  breaker : Breaker.Config
  maxRetryAttempts : UInt32
  /-- The time that each attempt gets unless a call says otherwise. -/
  perCallTimeout : Duration
  telemetry : Telemetry τ
  /-- The id of each call, from the number of calls before it. Ids are drawn elsewhere. -/
  callId : Nat → String
  /-- Whether a callback is run with each refused request. -/
  hook : Bool := false
  /-- Whether a state observer is told of the breaker's changes. -/
  observed : Bool := false

namespace Client

/-- What a client changes during an attempt. -/
structure Stage (σ : Type) where
  world : σ
  breaker : Breaker.State

/-- Everything that lasts from one call of a client to the next. -/
structure State (σ τ : Type) where
  stage : Stage σ
  spans : τ
  /-- Calls made so far. -/
  calls : Nat := 0

/-- Identifies a call in records and spans. -/
structure Call where
  id : String
  span : SpanId

variable {σ τ ρ α : Type}

/-- The surroundings of a client's retry loop are those of its transport. -/
def surroundings (env : Surroundings σ) : Surroundings (Stage σ) where
  now s := env.now s.world
  cancelled s token := env.cancelled s.world token
  sleep s d token :=
    let slept := env.sleep s.world d token
    (slept.1, { s with world := slept.2 })

def errors : ErrorKind CallError := ⟨CallError.text, CallError.isRetryable⟩

/-- The name under which a client's records are written. -/
def sourceName : String := "tuba-resilience"

/-- The entry for a record of a call. Its context starts with the target. -/
def record (c : Client τ) (call : Call) (level : Level) (message : String)
    (fields : List (String × Json)) : List (Entry ρ) :=
  let start : LogEvent :=
    { level, message, source := some sourceName, correlationId := some call.id
      spanId := some call.span.value }
  c.telemetry.entry (fields.foldl (fun e field => e.withField field.1 field.2)
    (start.withField "target" (.text c.target)))

/-- Tells the logger and the state observer of a change of phase. -/
def announce (c : Client τ) (t : Breaker.Transition) : List (Entry ρ) :=
  let event : LogEvent :=
    { level := if t.target = .opened then .warn else .info
      message :=
        s!"circuit breaker for '{c.target}' changed from {t.source.name} to {t.target.name}"
      source := some sourceName
      context := Json.record
        [("target", .text c.target), ("from", .text t.source.name), ("to", .text t.target.name)] }
  c.telemetry.entry event ++ if c.observed then [.transition t] else []

/-- Logs and announces what an operation on the client's breaker did. -/
def settle {β : Type} (c : Client τ) (step : Breaker.Step β) : Breaker.State × List (Entry ρ) :=
  step.settle c.target fun t s => (s, c.announce t)

/-- Whole milliseconds as a field, which holds 64 bits. -/
def millisField (d : Duration) : Json := Json.ofNat (d.millis % UInt64.size)

/-- Whether a failed attempt leaves room for another one. -/
def mayRetry (c : Client τ) (attempt : Nat) : Bool :=
  !c.retrier.isNever && attempt < c.maxRetryAttempts.toNat

/-- The record of a failed attempt. It names the coming wait exactly if there will be one. -/
def failureRecord (c : Client τ) (call : Call) (attempt : Nat) (latency : Duration) (e : CallError) :
    List (Entry ρ) :=
  let wait :=
    if e.isRetryable && c.mayRetry attempt then
      [("next_delay_ms", millisField (c.retrier.nextInterval attempt))]
    else []
  c.record call .warn s!"attempt {attempt + 1} to '{c.target}' failed: {e.text}"
    ([("attempt", Json.ofNat attempt), ("error", .text e.text), ("retryable", .bool e.isRetryable),
      ("latency_ms", millisField latency)] ++ wait)

/-- What the breaker is told of a finished attempt. -/
def outcome (latency : Duration) : Except CallError α → Breaker.Outcome
  | .ok _ => .success latency
  | .error e => e.outcome latency

/-- Sends an admitted request and reports how it ended. -/
def dispatch (c : Client τ) (env : Surroundings σ) (transport : Transport σ ρ α) (ctx : CallContext)
    (request : ρ) (timeout : Duration) (call : Call) (attempt : Nat) (s : Stage σ) :
    Performed (Stage σ) ρ (Except CallError α) :=
  let started := env.now s.world
  let bounded := ctx.shrink started timeout
  let sent : List (Entry ρ) :=
    [.dispatch request bounded.deadline (env.cancelled s.world bounded.token)]
  match transport.send s.world request bounded with
  | (.error overflow, world) => ⟨.error overflow, { s with world }, sent⟩
  | (.ok answer, world) =>
    let answer := answer.mapError CallError.ofTransport
    let latency := (env.now world).since started
    let told := c.settle (s.breaker.report c.breaker (env.now world) (outcome latency answer))
    let failure :=
      match answer with
      | .ok _ => []
      | .error e => c.failureRecord call attempt latency e
    ⟨.ok answer, ⟨world, told.1⟩, sent ++ told.2 ++ failure⟩

/-- One guarded attempt. Nothing is asked of the breaker once the caller has cancelled or the caller's
    deadline has passed. -/
def attempt (c : Client τ) (env : Surroundings σ) (transport : Transport σ ρ α) (ctx : CallContext)
    (request : ρ) (timeout : Duration) (call : Call) (index : Nat) (s : Stage σ) :
    Performed (Stage σ) ρ (Except CallError α) :=
  if env.cancelled s.world ctx.token then ⟨.ok (.error .cancelled), s, []⟩
  else if ctx.isExpired (env.now s.world) then ⟨.ok (.error .timeout), s, []⟩
  else
    let asked := s.breaker.allow c.breaker (env.now s.world)
    let told := c.settle asked
    let s := { s with breaker := told.1 }
    if asked.result then
      let sent := c.dispatch env transport ctx request timeout call index s
      { sent with journal := told.2 ++ sent.journal }
    else
      ⟨.ok (.error .breakerOpen), s, told.2 ++ (if c.hook then [.refused request] else []) ++
        c.record call .info s!"circuit breaker for '{c.target}' is open, rejecting call"
          [("attempt", Json.ofNat index)]⟩

/-- The error of a call whose retrying failed. -/
def callError : RetryError CallError → CallError
  | .exhausted attempts elapsed last => .exhausted attempts elapsed last
  | .aborted _ e => e
  | .interrupted _ .cancelled _ => .cancelled
  | .interrupted _ .deadlineExceeded _ => .timeout

/-- The fields of the span around a call. -/
def spanFields (c : Client τ) (callId : String) (timeout : Duration) : Json :=
  Json.record
    [("target", .text c.target), ("call_id", .text callId),
     ("max_retry_attempts", Json.ofNat c.maxRetryAttempts.toNat),
     ("per_call_timeout_ms", millisField timeout)]

/-- What is recorded when a call has ended: a failed call leaves a record, and the span says how the
    call ended. -/
def conclusion (c : Client τ) (call : Call) : Except CallError α → List (Entry ρ) × SpanStatus
  | .ok _ => ([], .ok)
  | .error e =>
    (c.record call .error s!"call to '{c.target}' failed: {e.text}" [("error", .text e.text)],
      .error e.text)

/-- Calls the target, giving every attempt at most `timeout`. -/
def executeWithin (c : Client τ) (env : Surroundings σ) (transport : Transport σ ρ α)
    (ctx : CallContext) (request : ρ) (timeout : Duration) (s : State σ τ) :
    Performed (State σ τ) ρ (Except CallError α) :=
  let id := c.callId s.calls
  let fields := c.spanFields id timeout
  let opened := c.telemetry.startSpan s.spans "resilient_call" fields
  let call : Call := ⟨id, opened.1⟩
  let before : List (Entry ρ) := [.spanStarted call.span "resilient_call" fields]
  let done := c.retrier.run (surroundings env) ctx errors
    (c.attempt env transport ctx request timeout call) c.maxRetryAttempts s.stage
  match done.result with
  | .error overflow => ⟨.error overflow, ⟨done.state, opened.2, s.calls + 1⟩, before ++ done.journal⟩
  | .ok answer =>
    let answer := answer.mapError callError
    let last := c.conclusion call answer
    ⟨.ok answer, ⟨done.state, c.telemetry.endSpan opened.2 call.span last.2, s.calls + 1⟩,
      before ++ done.journal ++ last.1 ++ [.spanEnded call.span last.2]⟩

/-- Calls the target with the client's own timeout for each attempt. -/
def execute (c : Client τ) (env : Surroundings σ) (transport : Transport σ ρ α) (ctx : CallContext)
    (request : ρ) (s : State σ τ) : Performed (State σ τ) ρ (Except CallError α) :=
  c.executeWithin env transport ctx request c.perCallTimeout s

end Client
end Resilience
