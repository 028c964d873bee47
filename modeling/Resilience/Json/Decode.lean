import Resilience.Json.Text
import Resilience.Json.Shape
import Resilience.Time.Notation

/-! Reading typed data out of structured values, and writing it into them. A record is described once,
    as a list of fields that each know how to be read and written. -/

namespace Resilience.Json

/-- What was found in place of what was expected. -/
inductive Found
  | value (v : Json)
  /-- A bare name of a variant that carries data. -/
  | bareVariant

/-- Why a value is refused. -/
inductive DecodeError
  | wrongType (found : Found) (expected : String)
  | wrongValue (found : Found) (expected : String)
  | wrongLength (length : Nat) (expected : String)
  | unknownVariant (name : String) (variants : List String)
  | missingField (name : String)
  | duplicateField (name : String)
  /-- A duration that cannot be computed. -/
  | overflow (cause : Overflow)

/-- A value as an error shows it: its type, with the value itself if it is a single one. -/
def kindText : Json → String
  | .null => "null"
  | .bool b => "boolean `" ++ (if b then "true" else "false") ++ "`"
  | .number (.whole n) => "integer `" ++ toString n ++ "`"
  | .number (.float x) => "floating point `" ++ numberText (.float x) ++ "`"
  | .text s => "string " ++ Text.quoted s
  | .array _ => "sequence"
  | .object _ => "map"

def Found.text : Found → String
  | .value v => v.kindText
  | .bareVariant => "unit variant"

/-- The names that a variant may have. -/
def variantsText (variants : List String) : String :=
  match variants.map fun name => "`" ++ name ++ "`" with
  | [] => "there are no variants"
  | [a] => "expected " ++ a
  | [a, b] => "expected " ++ a ++ " or " ++ b
  | names => "expected one of " ++ ", ".intercalate names

def DecodeError.message : DecodeError → String
  | .wrongType found expected => s!"invalid type: {found.text}, expected {expected}"
  | .wrongValue found expected => s!"invalid value: {found.text}, expected {expected}"
  | .wrongLength length expected => s!"invalid length {length}, expected {expected}"
  | .unknownVariant name variants => "unknown variant `" ++ name ++ "`, " ++ variantsText variants
  | .missingField name => "missing field `" ++ name ++ "`"
  | .duplicateField name => "duplicate field `" ++ name ++ "`"
  | .overflow cause => cause.message

def wrongType {α : Type} (v : Json) (expected : String) : Except DecodeError α :=
  .error (.wrongType (.value v) expected)

def wrongValue {α : Type} (v : Json) (expected : String) : Except DecodeError α :=
  .error (.wrongValue (.value v) expected)

/-! ### Single values -/

def toBool : Json → Except DecodeError Bool
  | .bool b => .ok b
  | v => wrongType v "a boolean"

/-- A count below a bound; `expected` names its type. -/
def toCount (expected : String) (bound : Nat) (v : Json) : Except DecodeError Nat :=
  match v with
  | .number (.whole n) => if 0 ≤ n ∧ n < bound then .ok n.toNat else wrongValue v expected
  | v => wrongType v expected

def toCount32 (v : Json) : Except DecodeError UInt32 := (toCount "u32" UInt32.size v).map UInt32.ofNat

def toCount64 (v : Json) : Except DecodeError UInt64 := (toCount "u64" UInt64.size v).map UInt64.ofNat

/-- Whole numbers may stand for doubles. -/
def toFloat : Json → Except DecodeError Float
  | .number (.float x) => .ok x
  | .number (.whole n) =>
    let size := (UInt64.ofNat n.natAbs).toFloat
    .ok (if n < 0 then -size else size)
  | v => wrongType v "f64"

def toText : Json → Except DecodeError String
  | .text s => .ok s
  | v => wrongType v "a string"

/-- A value that may be absent. -/
def toOptional {α : Type} (read : Json → Except DecodeError α) : Json → Except DecodeError (Option α)
  | .null => .ok none
  | v => (read v).map some

def toOptionalText : Json → Except DecodeError (Option String) := toOptional toText

def toDuration : Json → Except DecodeError Duration
  | .text s =>
    match Notation.read s with
    | .ok d => .ok d
    | .error (.overflow cause) => .error (.overflow cause)
    | .error _ => wrongValue (.text s) "a duration"
  | v => wrongType v "a duration"

def ofDuration (d : Duration) : Json := .text (Notation.write d)

/-- The value with a name. -/
def variant {α : Type} (variants : List (String × α)) (name : String) : Except DecodeError α :=
  match variants.find? fun v => v.1 = name with
  | some v => .ok v.2
  | none => .error (.unknownVariant name (variants.map (·.1)))

/-- A variant without data: its name, or an object with its name as the only key and nothing under it.
    If `lenient`, an empty object counts as nothing. -/
def toVariant {α : Type} (variants : List (String × α)) (lenient : Bool) (v : Json) :
    Except DecodeError α :=
  match v with
  | .text name => variant variants name
  | .object [(name, content)] => do
    let value ← variant variants name
    match content with
    | .null => .ok value
    | .object [] => if lenient then .ok value else wrongType content "unit"
    | _ => wrongType content "unit"
  | .object _ => wrongValue v "map with a single key"
  | v => wrongType v "string or map"

/-! ### Records -/

/-- A field of a record: what it looks like, how it is read into a record, and what is written for it,
    if anything. -/
structure RecordField (σ : Type) where
  name : String
  shape : Shape
  read : Json → σ → Except DecodeError σ
  write : σ → Option Json

/-- A field that is always written. -/
def field {σ α : Type} (name : String) (shape : Shape) (read : Json → Except DecodeError α)
    (set : α → σ → σ) (write : σ → Json) : RecordField σ where
  name
  shape
  read v s := (read v).map fun value => set value s
  write s := some (write s)

namespace RecordField

variable {σ : Type}

/-- The shapes of fields under their names. -/
def shapes (fields : List (RecordField σ)) : List (String × Shape) := fields.map fun f => (f.name, f.shape)

/-- The members written for a record, in the order of its fields. -/
def members (fields : List (RecordField σ)) (s : σ) : List (String × Json) :=
  fields.filterMap fun f => (f.write s).map fun v => (f.name, v)

/-- Reads members into a record, in their order. Members that are no fields are passed over; a field
    that was read before (`seen`) must not come again. -/
def readMembers (fields : List (RecordField σ)) :
    List String → List (String × Json) → σ → Except DecodeError σ
  | _, [], s => .ok s
  | seen, (key, v) :: members, s =>
    match fields.find? fun f => f.name = key with
    | none => readMembers fields seen members s
    | some f =>
      if seen.contains key then .error (.duplicateField key)
      else do
        let s ← f.read v s
        readMembers fields (key :: seen) members s

/-- Reads items into the fields in their order; fields beyond the last item are left alone. -/
def readItems : List (RecordField σ) → List Json → σ → Except DecodeError σ
  | f :: fields, v :: items, s => do
    let s ← f.read v s
    readItems fields items s
  | _, _, s => .ok s

/-- A record from an object, or from an array of its fields; what is not given is as in `start`. -/
def toRecord (fields : List (RecordField σ)) (kind : String) (start : σ) (v : Json) :
    Except DecodeError σ :=
  match v with
  | .object members => readMembers fields [] members start
  | .array items => do
    let s ← readItems fields items start
    if items.length ≤ fields.length then .ok s
    else .error (.wrongLength items.length "fewer elements in array")
  | v => wrongType v ("struct " ++ kind)

end RecordField
end Resilience.Json
