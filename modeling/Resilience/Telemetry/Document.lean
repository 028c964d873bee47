import Resilience.Json.Decode
import Resilience.Journal

/-! Log records in documents, and the values that go with records and spans. A record is an object in which its
    severity, its message and its context must be given; what is not given of the rest is absent. -/

namespace Resilience

open Json (DecodeError RecordField field)

/-- The names of severities, least severe first. -/
def Level.ofDocument (v : Json) : Except DecodeError Level :=
  Json.toVariant (Level.all.map fun l => (l.name, l)) false v

def Level.toDocument (l : Level) : Json := .text l.name

def SpanId.toDocument (id : SpanId) : Json := Json.ofNat id.value.toNat

def SpanId.ofDocument (v : Json) : Except DecodeError SpanId := (Json.toCount64 v).map SpanId.mk

namespace SpanStatus

def toDocument : SpanStatus → Json
  | .ok => .text "Ok"
  | .error message => .object [("Error", .text message)]

/-- The variants and whether they carry a text. -/
def variants : List (String × Bool) := [("Ok", false), ("Error", true)]

/-- A status is a bare name, or an object with the name as its only key and the text under it. -/
def ofDocument (v : Json) : Except DecodeError SpanStatus :=
  match v with
  | .text name => do
    let hasText ← Json.variant variants name
    if hasText then .error (.wrongType .bareVariant "newtype variant") else .ok .ok
  | .object [(name, content)] => do
    let hasText ← Json.variant variants name
    if hasText then (Json.toText content).map .error
    else
      match content with
      | .null => .ok .ok
      | content => Json.wrongType content "unit"
  | .object _ => Json.wrongValue v "map with a single key"
  | v => Json.wrongType v "string or map"

end SpanStatus

namespace LogEvent

/-- The fields of a record. When it was made is kept elsewhere: a time may be given, and is passed over. -/
def fields : List (RecordField LogEvent) :=
  [field "level" .word Level.ofDocument (fun x e => { e with level := x }) fun e => e.level.toDocument,
   field "message" .text Json.toText (fun x e => { e with message := x }) fun e => .text e.message,
   { name := "timestamp", shape := .text, read := fun _ e => .ok e, write := fun _ => none },
   field "source" .optionalText Json.toOptionalText (fun x e => { e with source := x })
     fun e => (e.source.map .text).getD .null,
   field "context" (.flattened []) .ok (fun x e => { e with context := x }) fun e => e.context,
   field "correlation_id" .optionalText Json.toOptionalText (fun x e => { e with correlationId := x })
     fun e => (e.correlationId.map .text).getD .null,
   field "span_id" .count (Json.toOptional Json.toCount64) (fun x e => { e with spanId := x })
     fun e => (e.spanId.map fun id => Json.ofNat id.toNat).getD .null]

/-- The fields that must be given, in the order in which they are missed. -/
def required : List String := ["level", "message", "context"]

/-- A record from an object, or from an array of all its fields. -/
def ofDocument (v : Json) : Except DecodeError LogEvent :=
  let start : LogEvent := { level := .trace, message := "" }
  match v with
  | .object members => do
    let e ← RecordField.readMembers fields [] members start
    match required.find? fun name => (Json.find? name members).isNone with
    | some name => .error (.missingField name)
    | none => .ok e
  | .array items => do
    let e ← RecordField.readItems fields items start
    if items.length < fields.length then .error (.wrongLength items.length "struct LogEvent with 7 elements")
    else if fields.length < items.length then .error (.wrongLength items.length "fewer elements in array")
    else .ok e
  | v => Json.wrongType v "struct LogEvent"

end LogEvent
end Resilience
