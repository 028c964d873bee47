import Resilience.Json.Decode
import Resilience.Settings.Names

/-! Settings in documents. Each kind of settings is an object whose keys all may be left out; a missing
    key means the default of the settings that it is in. The backoff of a client is not nested: its keys
    stand among those of the client. -/

namespace Resilience.Settings

open Json (DecodeError RecordField field)

def strategies : List (String × Strategy) := [("constant", .constant), ("exponential", .exponential)]

/-- The fields of a backoff. `lenient` concerns how a strategy may be spelled. -/
def Backoff.fields (lenient : Bool) : List (RecordField Backoff) :=
  [field "strategy" .word (Json.toVariant strategies lenient) (fun x b => { b with strategy := x })
     fun b => .text b.strategy.name,
   field "initial_interval" .text Json.toDuration (fun x b => { b with initialInterval := x })
     fun b => Json.ofDuration b.initialInterval,
   field "max_interval" .text Json.toDuration (fun x b => { b with maxInterval := x })
     fun b => Json.ofDuration b.maxInterval,
   field "exponent_factor" .real Json.toFloat (fun x b => { b with exponentFactor := x })
     fun b => .number (.float b.exponentFactor)]

def Backoff.toDocument (b : Backoff) : Json := .object (RecordField.members (fields false) b)

def Backoff.ofDocument (v : Json) : Except DecodeError Backoff :=
  RecordField.toRecord (fields false) "BackoffSettings" {} v

def Breaker.fields : List (RecordField Breaker) :=
  [field "failure_threshold" .count Json.toCount64 (fun x b => { b with failureThreshold := x })
     fun b => Json.ofNat b.failureThreshold.toNat,
   field "counter_reset_interval" .text Json.toDuration (fun x b => { b with counterResetInterval := x })
     fun b => Json.ofDuration b.counterResetInterval,
   field "open_timeout" .text Json.toDuration (fun x b => { b with openTimeout := x })
     fun b => Json.ofDuration b.openTimeout,
   field "open_timeout_backoff" (.record (RecordField.shapes (Backoff.fields false))) Backoff.ofDocument
     (fun x b => { b with openTimeoutBackoff := x }) fun b => b.openTimeoutBackoff.toDocument,
   field "half_open_max_successes" .count Json.toCount64 (fun x b => { b with halfOpenMaxSuccesses := x })
     fun b => Json.ofNat b.halfOpenMaxSuccesses.toNat,
   field "fail_on_cancel" .bool Json.toBool (fun x b => { b with failOnCancel := x })
     fun b => .bool b.failOnCancel,
   field "fail_on_deadline" .bool Json.toBool (fun x b => { b with failOnDeadline := x })
     fun b => .bool b.failOnDeadline]

def Breaker.toDocument (b : Breaker) : Json := .object (RecordField.members fields b)

def Breaker.ofDocument (v : Json) : Except DecodeError Breaker :=
  RecordField.toRecord fields "BreakerSettings" {} v

/-- The fields of a client apart from those of its backoff. -/
def Client.ownFields : List (RecordField Client) :=
  [field "max_retry_attempts" .count Json.toCount32 (fun x c => { c with maxRetryAttempts := x })
     fun c => Json.ofNat c.maxRetryAttempts.toNat,
   field "per_call_timeout" .text Json.toDuration (fun x c => { c with perCallTimeout := x })
     fun c => Json.ofDuration c.perCallTimeout,
   field "breaker" (.record (RecordField.shapes Breaker.fields)) Breaker.ofDocument
     (fun x c => { c with breaker := x }) fun c => c.breaker.toDocument]

def Client.toDocument (c : Client) : Json :=
  .object (RecordField.members (Backoff.fields true) c.backoff ++ RecordField.members ownFields c)

/-- Reads the client's own keys first and then those of its backoff. Only an object will do. -/
def Client.ofDocument (v : Json) : Except DecodeError Client :=
  match v with
  | .object members => do
    let c ← RecordField.readMembers ownFields [] members {}
    let backoff ← RecordField.readMembers (Backoff.fields true) [] members c.backoff
    return { c with backoff }
  | v => Json.wrongType v "struct ClientConfig"

/-- The names of the levels, most severe first. -/
def levels : List (String × Level) :=
  [("error", .error), ("warn", .warn), ("info", .info), ("debug", .debug), ("trace", .trace)]

def formats : List (String × Format) :=
  [("json", .json), ("text", .text), ("compact", .compact), ("pretty", .pretty)]

/-- An absent filter is not written. -/
def Logging.fields : List (RecordField Logging) :=
  [field "level" .word (Json.toVariant levels false) (fun x l => { l with level := x })
     fun l => .text l.level.name,
   field "format" .word (Json.toVariant formats false) (fun x l => { l with format := x })
     fun l => .text l.format.name,
   { name := "filter"
     shape := .optionalText
     read := fun v l => (Json.toOptionalText v).map fun x => { l with filter := x }
     write := fun l => l.filter.map .text },
   field "include_location" .bool Json.toBool (fun x l => { l with includeLocation := x })
     fun l => .bool l.includeLocation,
   field "include_thread_ids" .bool Json.toBool (fun x l => { l with includeThreadIds := x })
     fun l => .bool l.includeThreadIds]

def Logging.toDocument (l : Logging) : Json := .object (RecordField.members fields l)

def Logging.ofDocument (v : Json) : Except DecodeError Logging :=
  RecordField.toRecord fields "LoggingConfig" {} v

def Config.fields : List (RecordField Config) :=
  [field "client" (.flattened (RecordField.shapes Client.ownFields)) Client.ofDocument
      (fun x c => { c with client := x }) fun c => c.client.toDocument,
   field "logging" (.record (RecordField.shapes Logging.fields)) Logging.ofDocument
      (fun x c => { c with logging := x }) fun c => c.logging.toDocument]

def Config.toDocument (c : Config) : Json := .object (RecordField.members fields c)

/-- What is looked at of a document with a whole configuration. -/
def Config.shape : Shape := .record (RecordField.shapes fields)

def Config.ofDocument (v : Json) : Except DecodeError Config := RecordField.toRecord fields "TubaConfig" {} v

end Resilience.Settings
