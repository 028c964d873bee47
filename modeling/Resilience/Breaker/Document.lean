import Resilience.Json.Decode
import Resilience.Breaker.State

/-! Backoff policies, configurations of breakers and their phases, in documents. A policy is an object whose
    `type` names its variant; the fields of the variant must all be there. -/

namespace Resilience

open Json (DecodeError RecordField field)

namespace BackoffPolicy

def toDocument : BackoffPolicy → Json
  | .constant interval => .object [("type", .text "constant"), ("interval", Json.ofDuration interval)]
  | .exponential initial longest factor =>
    .object
      [("type", .text "exponential"), ("initial", Json.ofDuration initial),
       ("max", Json.ofDuration longest), ("factor", .number (.float factor))]

/-- The fields of a policy as far as they have been read. -/
structure Parts where
  interval : Option Duration := none
  initial : Option Duration := none
  longest : Option Duration := none
  factor : Option Float := none

/-- What is written for a part that is there. -/
def part {α : Type} (name : String) (shape : Shape) (read : Json → Except DecodeError α)
    (set : α → Parts → Parts) : RecordField Parts where
  name
  shape
  read v p := (read v).map fun value => set value p
  write _ := none

def constantParts : List (RecordField Parts) :=
  [part "interval" .text Json.toDuration fun x p => { p with interval := some x }]

def exponentialParts : List (RecordField Parts) :=
  [part "initial" .text Json.toDuration fun x p => { p with initial := some x },
   part "max" .text Json.toDuration fun x p => { p with longest := some x },
   part "factor" .real Json.toFloat fun x p => { p with factor := some x }]

inductive Variant
  | constant | exponential
deriving DecidableEq

def variants : List (String × Variant) := [("constant", .constant), ("exponential", .exponential)]

/-- A variant is named by a string. -/
def toVariant : Json → Except DecodeError Variant
  | .text name => Json.variant variants name
  | v => Json.wrongType v "variant identifier"

def Variant.parts : Variant → List (RecordField Parts)
  | .constant => constantParts
  | .exponential => exponentialParts

/-- What a variant is called when it is given by position and too short. -/
def Variant.expected : Variant → String
  | .constant => "struct variant BackoffPolicy::Constant with 1 element"
  | .exponential => "struct variant BackoffPolicy::Exponential with 3 elements"

def required {α : Type} (name : String) (x : Option α) : Except DecodeError α :=
  match x with
  | some x => .ok x
  | none => .error (.missingField name)

/-- The policy of a variant from its parts. -/
def ofParts (v : Variant) (p : Parts) : Except DecodeError BackoffPolicy := do
  match v with
  | .constant =>
    let interval ← required "interval" p.interval
    return .constant interval
  | .exponential =>
    let initial ← required "initial" p.initial
    let longest ← required "max" p.longest
    let factor ← required "factor" p.factor
    return .exponential initial longest factor

def elementsText (n : Nat) : String :=
  if n = 1 then "1 element in sequence" else toString n ++ " elements in sequence"

/-- The tag of a policy and its other members. -/
def splitTag :
    List (String × Json) → Option Variant → Except DecodeError (Option Variant × List (String × Json))
  | [], tag => .ok (tag, [])
  | (key, v) :: members, tag =>
    if key = "type" then
      if tag.isSome then .error (.duplicateField "type")
      else do
        let variant ← toVariant v
        splitTag members (some variant)
    else do
      let (tag, others) ← splitTag members tag
      return (tag, (key, v) :: others)

/-- A policy from an object, or from an array of its tag and its fields. -/
def ofDocument (v : Json) : Except DecodeError BackoffPolicy :=
  match v with
  | .object members => do
    let (tag, others) ← splitTag members none
    let variant ← required "type" tag
    let parts ← RecordField.readMembers variant.parts [] others {}
    ofParts variant parts
  | .array [] => .error (.missingField "type")
  | .array (tag :: items) => do
    let variant ← toVariant tag
    let wanted := variant.parts.length
    let parts ← RecordField.readItems variant.parts items {}
    if items.length < wanted then .error (.wrongLength items.length variant.expected)
    else if wanted < items.length then .error (.wrongLength items.length (elementsText wanted))
    else ofParts variant parts
  | v => Json.wrongType v "internally tagged enum BackoffPolicy"

end BackoffPolicy

namespace Breaker

def Config.fields : List (RecordField Config) :=
  [field "failure_threshold" .count Json.toCount64 (fun x c => { c with failureThreshold := x })
     fun c => Json.ofNat c.failureThreshold.toNat,
   field "counter_reset_interval" .text Json.toDuration (fun x c => { c with counterResetInterval := x })
     fun c => Json.ofDuration c.counterResetInterval,
   field "open_timeout" .text Json.toDuration (fun x c => { c with openTimeout := x })
     fun c => Json.ofDuration c.openTimeout,
   field "open_timeout_backoff" (.record []) BackoffPolicy.ofDocument
     (fun x c => { c with openTimeoutBackoff := x }) fun c => c.openTimeoutBackoff.toDocument,
   field "half_open_max_successes" .count Json.toCount64 (fun x c => { c with halfOpenMaxSuccesses := x })
     fun c => Json.ofNat c.halfOpenMaxSuccesses.toNat,
   field "fail_on_cancel" .bool Json.toBool (fun x c => { c with failOnCancel := x })
     fun c => .bool c.failOnCancel,
   field "fail_on_deadline" .bool Json.toBool (fun x c => { c with failOnDeadline := x })
     fun c => .bool c.failOnDeadline]

def Config.toDocument (c : Config) : Json := .object (RecordField.members fields c)

def Config.ofDocument (v : Json) : Except DecodeError Config :=
  RecordField.toRecord fields "CircuitBreakerConfig" {} v

/-- The names of phases in documents. -/
def phases : List (String × Phase) :=
  [("closed", .closed), ("open", .opened), ("half_open", .halfOpen)]

def Phase.toDocument : Phase → Json
  | .closed => .text "closed"
  | .opened => .text "open"
  | .halfOpen => .text "half_open"

def Phase.ofDocument (v : Json) : Except DecodeError Phase := Json.toVariant phases false v

end Breaker

end Resilience
