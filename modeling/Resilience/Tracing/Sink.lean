import Resilience.Telemetry
import Resilience.Json.Text

/-! Telemetry that goes to a trace subscriber. Records become trace events. A span sink numbers spans
    from one, keeps those that are open, and closes each at the first end with its number. -/

namespace Resilience.Tracing

/-- What a subscriber gets to see. -/
inductive Signal
  | spanNew (level : Level) (target name : String) (fields : List (String × Json))
  | spanRecord (id : UInt64) (fields : List (String × Json))
  | spanClose (id : UInt64)
  /-- An event with the numbers of the spans around it, innermost first. -/
  | event (level : Level) (target : String) (fields : List (String × Json)) (spans : List UInt64)

/-- The target of everything a call leaves. -/
def callTarget : String := "tuba"

/-- The compact text of a context; nothing for an absent one. -/
def contextText (context : Json) : String :=
  match context with
  | .null => ""
  | context => context.compact

/-- The trace event for a record that a logger with this threshold is given. -/
def logged (least : Level) (e : LogEvent) : List Signal :=
  if e.level.reaches least then
    [.event e.level callTarget
      [("source", .text (e.source.getD "-")), ("correlation_id", .text (e.correlationId.getD "-")),
       ("span_id", Json.ofNat (e.spanId.getD 0).toNat), ("fields", .text (contextText e.context)),
       ("message", .text e.message)] []]
  else []

/-- The threshold of a logger unless told otherwise. -/
def standardLevel : Level := .info

/-- The number of the next span and the numbers of the open ones, newest first. -/
structure Sink where
  next : UInt64 := 1
  opened : List UInt64 := []
deriving DecidableEq

namespace Sink

def openCount (s : Sink) : Nat := s.opened.length

/-- Opens a span. A number that is still open is taken over by the new span. -/
def start (s : Sink) : SpanId × Sink :=
  (⟨s.next⟩, { next := s.next + 1, opened := s.next :: s.opened.erase s.next })

/-- Closes a span if it is open. -/
def finish (s : Sink) (id : SpanId) : Sink := { s with opened := s.opened.erase id.value }

def startSignals (id : SpanId) (operation : String) (fields : Json) : List Signal :=
  [.spanNew .info callTarget "tuba_span"
    [("operation", .text operation), ("span_id", Json.ofNat id.value.toNat),
     ("fields", .text fields.compact)]]

/-- A span that ends gets its status and is closed; a failed one leaves an event before that. An end
    for a span that is not open leaves nothing. -/
def finishSignals (s : Sink) (id : SpanId) (status : SpanStatus) : List Signal :=
  if s.opened.contains id.value then
    match status with
    | .ok => [.spanRecord id.value [("status", .text "ok")], .spanClose id.value]
    | .error message =>
      [.spanRecord id.value [("status", .text "error")],
       .event .debug callTarget [("error", .text message), ("message", .text "span failed")] [id.value],
       .spanClose id.value]
  else []

end Sink

/-- Telemetry over a sink, with a threshold for records. -/
def telemetry (least : Level) : Telemetry Sink where
  accepts level := level.reaches least
  startSpan s _ _ := s.start
  endSpan s id _ := s.finish id

/-- What one entry of a journal sends to the subscriber, and the sink after it. -/
def signals {ρ : Type} (least : Level) (s : Sink) : Entry ρ → List Signal × Sink
  | .event e => (logged least e, s)
  | .spanStarted id name fields => (Sink.startSignals id name fields, s.start.2)
  | .spanEnded id status => (s.finishSignals id status, s.finish id)
  | _ => ([], s)

/-- A journal with the signals for a subscriber in place of what telemetry left. -/
def transcript {ρ : Type} (least : Level) (s : Sink) : List (Entry ρ) → List (Entry ρ ⊕ Signal)
  | [] => []
  | e :: journal =>
    let (sent, next) := signals least s e
    (if e.isTelemetry then [] else [.inl e]) ++ sent.map .inr ++ transcript least next journal

end Resilience.Tracing
