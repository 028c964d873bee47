import Resilience.Json.Value
import Resilience.Level

/-! A structured log record and how it is put together. -/

namespace Resilience

structure LogEvent where
  level : Level
  message : String
  source : Option String := none
  /-- Free-form fields, usually an object. -/
  context : Json := .null
  /-- Shared by all records of one call. -/
  correlationId : Option String := none
  spanId : Option UInt64 := none

namespace LogEvent

/-- Puts a field into the context. An absent context becomes an object; a context that is no object is
    left alone. -/
def withField (e : LogEvent) (key : String) (value : Json) : LogEvent :=
  match e.context with
  | .null => { e with context := .object [(key, value)] }
  | .object members => { e with context := .object (Json.insert key value members) }
  | _ => e

/-- The record as a document, with absent parts as `null`. -/
def toDocument (e : LogEvent) : Json :=
  .object
    [("level", .text e.level.name), ("message", .text e.message),
     ("source", (e.source.map .text).getD .null), ("context", e.context),
     ("correlation_id", (e.correlationId.map .text).getD .null),
     ("span_id", (e.spanId.map fun id => Json.ofNat id.toNat).getD .null)]

def field? (e : LogEvent) (key : String) : Option Json := e.context.member? key

end LogEvent
end Resilience
