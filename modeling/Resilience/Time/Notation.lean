import Resilience.Time.Clock
import Resilience.Text.Blank
import Resilience.Text.Quoted

/-! Durations written for people, such as `1h 30m` or `2.5s`: a row of spans, each a number and a unit.
    Reading goes through the text once, character by character; writing splits a duration into units
    from years down to nanoseconds. -/

namespace Resilience

inductive TimeUnit
  | nanosecond | microsecond | millisecond | second | minute | hour | day | week | month | year
deriving DecidableEq

namespace TimeUnit

/-- Every name of a unit. -/
def names : TimeUnit → List String
  | .nanosecond => ["nanos", "nsec", "ns"]
  | .microsecond => ["usec", "us", "µs"]
  | .millisecond => ["millis", "msec", "ms"]
  | .second => ["seconds", "second", "secs", "sec", "s"]
  | .minute => ["minutes", "minute", "min", "mins", "m"]
  | .hour => ["hours", "hour", "hr", "hrs", "h"]
  | .day => ["days", "day", "d"]
  | .week => ["weeks", "week", "wk", "wks", "w"]
  | .month => ["months", "month", "M"]
  | .year => ["years", "year", "yr", "yrs", "y"]

def all : List TimeUnit :=
  [.nanosecond, .microsecond, .millisecond, .second, .minute, .hour, .day, .week, .month, .year]

def ofName? (name : String) : Option TimeUnit := all.find? fun u => u.names.contains name

/-- A unit as whole seconds, or as nanoseconds if it is shorter than a second. A month is the twelfth
    part of a year and a year has 365 days and a quarter, both to the second. -/
def size : TimeUnit → Nat × Nat
  | .nanosecond => (0, 1)
  | .microsecond => (0, 1000)
  | .millisecond => (0, 1000000)
  | .second => (1, 0)
  | .minute => (60, 0)
  | .hour => (3600, 0)
  | .day => (86400, 0)
  | .week => (604800, 0)
  | .month => (2630016, 0)
  | .year => (31557600, 0)

/-- What a fraction of a unit is counted in: nanoseconds up to the minute, seconds from the hour on. A
    nanosecond has no fractions. -/
def fractionSize? : TimeUnit → Option (Nat × Nat)
  | .nanosecond => none
  | .second => some (0, 1000000000)
  | .minute => some (0, 60000000000)
  | unit => some unit.size

end TimeUnit

namespace Notation

/-- Why a text is not a duration. Offsets count bytes. -/
inductive Fault
  | empty
  | numberExpected (offset : Nat)
  | invalidCharacter (offset : Nat)
  | unitNeeded (number : Nat)
  | unknownUnit (name : String)
  | imprecise
  /-- The spans fit, but not with the carry of their nanoseconds. -/
  | overflow (cause : Overflow)
deriving DecidableEq

def Fault.message : Fault → String
  | .empty => "value was empty"
  | .numberExpected offset => s!"expected number at {offset}"
  | .invalidCharacter offset => s!"invalid character at {offset}"
  | .unitNeeded n => s!"time unit needed, for example {n}sec or {n}ms"
  | .unknownUnit name =>
    "unknown time unit " ++ Text.quoted name ++
      ", supported units: ns, us/µs, ms, sec, min, hours, days, weeks, months, years (and few variations)"
  | .imprecise =>
    "number is too large or cannot be represented without a lack of precision (values below 1ns are not supported)"
  | .overflow cause => cause.message

/-- A count of 64 bits. -/
def count64 (n : Nat) : Except Fault Nat := if n < UInt64.size then .ok n else .error .imprecise

/-- Adds seconds and nanoseconds to a duration. Nanoseconds are carried into seconds when they are more
    than a second, so exactly one second of them is left for the last sum. -/
def addSpan (total : Duration) (seconds nanos : Nat) : Except Fault Duration := do
  let nanos ← count64 (total.nanos % 1000000000 + nanos)
  let carried := 1000000000 < nanos
  let seconds ← count64 (if carried then seconds + nanos / 1000000000 else seconds)
  let nanos := if carried then nanos % 1000000000 else nanos
  let seconds ← count64 (total.nanos / 1000000000 + seconds)
  match Duration.ofNanos? (seconds * 1000000000 + nanos) with
  | some d => .ok d
  | none => .error (.overflow .carry)

/-- Digits after a point: their value and how many they are. -/
structure Fraction where
  value : Nat := 0
  places : Nat := 0
deriving DecidableEq

/-- Adds `n` units. -/
def addWhole (total : Duration) (unit : TimeUnit) (n : Nat) : Except Fault Duration := do
  let seconds ← count64 (n * unit.size.1)
  let nanos ← count64 (n * unit.size.2)
  addSpan total seconds nanos

/-- Adds a fraction of a unit, which must come to a whole number of what it is counted in. -/
def addFraction (total : Duration) (unit : TimeUnit) (f : Fraction) : Except Fault Duration :=
  match unit.fractionSize? with
  | none => .error .imprecise
  | some (seconds, nanos) => do
    let seconds ← count64 (f.value * seconds)
    let nanos ← count64 (f.value * nanos)
    let scale := Nat.pow 10 f.places
    if seconds % scale ≠ 0 ∨ nanos % scale ≠ 0 then .error .imprecise
    else addSpan total (seconds / scale) (nanos / scale)

/-- Adds one span, a number with the name of its unit. -/
def close (total : Duration) (number : Nat) (fraction : Option Fraction) (name : List Char) :
    Except Fault Duration := do
  match TimeUnit.ofName? (String.ofList name) with
  | none =>
    .error (if name.isEmpty then .unitNeeded number else .unknownUnit (String.ofList name))
  | some unit =>
    let total ← addWhole total unit number
    match fraction with
    | none => .ok total
    | some f => addFraction total unit f

/-- Where a reader stands in the text. -/
inductive Place
  /-- Before the first number. -/
  | start
  /-- After a span. -/
  | gap
  | number (n : Nat)
  /-- Behind a point; `mark` is where a fault is reported. -/
  | fraction (n : Nat) (f : Fraction) (mark : Nat)
  /-- In the name of a unit, whose letters are kept in reverse. -/
  | unit (n : Nat) (f : Option Fraction) (letters : List Char)
deriving DecidableEq

structure Reader where
  place : Place := .start
  total : Duration := Duration.zero
  offset : Nat := 0
deriving DecidableEq

/-- The letters of unit names. -/
def isLetter (c : Char) : Bool := c.isAlpha || c = 'µ'

def digitValue (c : Char) : Nat := c.toNat - 48

/-- Takes one character of the text. -/
def Reader.step (r : Reader) (c : Char) : Except Fault Reader := do
  let after := r.offset + c.utf8Size
  let waiting (place : Place) : Except Fault Reader :=
    if c.isDigit then .ok { r with place := .number (digitValue c), offset := after }
    else if Text.isBlank c then .ok { r with place, offset := after }
    else .error (.numberExpected r.offset)
  match r.place with
  | .start => waiting .start
  | .gap => waiting .gap
  | .number n =>
    if c.isDigit then
      let n ← count64 (n * 10 + digitValue c)
      .ok { r with place := .number n, offset := after }
    else if Text.isBlank c then .ok { r with offset := after }
    else if isLetter c then .ok { r with place := .unit n none [c], offset := after }
    else if c = '.' then .ok { r with place := .fraction n {} r.offset, offset := after }
    else .error (.invalidCharacter r.offset)
  | .fraction n f mark =>
    if c.isDigit then
      let places := f.places + 1
      let _ ← count64 (Nat.pow 10 places)
      let value ← count64 (f.value * 10 + digitValue c)
      .ok { r with place := .fraction n ⟨value, places⟩ after, offset := after }
    else if Text.isBlank c then .ok { r with place := .fraction n f after, offset := after }
    else if isLetter c ∧ f.places ≠ 0 then
      .ok { r with place := .unit n (some f) [c], offset := after }
    else .error (.invalidCharacter mark)
  | .unit n f letters =>
    if isLetter c then .ok { r with place := .unit n f (c :: letters), offset := after }
    else if c.isDigit then
      let total ← close r.total n f letters.reverse
      .ok { place := .number (digitValue c), total, offset := after }
    else if Text.isBlank c then
      let total ← close r.total n f letters.reverse
      .ok { place := .gap, total, offset := after }
    else .error (.invalidCharacter r.offset)

/-- The duration read when the text ends. -/
def Reader.finish (r : Reader) : Except Fault Duration :=
  match r.place with
  | .start => .error .empty
  | .gap => .ok r.total
  | .number n => close r.total n none []
  | .fraction n f mark =>
    if f.places = 0 then .error (.invalidCharacter mark) else close r.total n (some f) []
  | .unit n f letters => close r.total n f letters.reverse

/-- The duration that a row of characters stands for. A lone zero needs no unit. -/
def readChars (cs : List Char) : Except Fault Duration :=
  if cs = ['0'] then .ok Duration.zero
  else cs.foldlM Reader.step {} >>= Reader.finish

def read (s : String) : Except Fault Duration := readChars s.toList

/-! ### Writing -/

/-- A span with a unit that is spelled out, in the plural if there are several. -/
def longItem (name : String) (n : Nat) : List String :=
  if n = 0 then [] else [toString n ++ name ++ if 1 < n then "s" else ""]

/-- A span with an abbreviated unit. -/
def shortItem (name : String) (n : Nat) : List String :=
  if n = 0 then [] else [toString n ++ name]

/-- The spans of a duration, longest unit first; units that do not occur are left out. -/
def items (d : Duration) : List String :=
  let seconds := d.nanos / 1000000000
  let nanos := d.nanos % 1000000000
  let inYear := seconds % 31557600
  let inMonth := inYear % 2630016
  let inDay := inMonth % 86400
  longItem "year" (seconds / 31557600) ++ longItem "month" (inYear / 2630016) ++
    longItem "day" (inMonth / 86400) ++ shortItem "h" (inDay / 3600) ++
    shortItem "m" (inDay % 3600 / 60) ++ shortItem "s" (inDay % 60) ++
    shortItem "ms" (nanos / 1000000) ++ shortItem "us" (nanos / 1000 % 1000) ++
    shortItem "ns" (nanos % 1000)

/-- A duration as its spans separated by spaces. -/
def write (d : Duration) : String :=
  if d.isZero then "0s" else " ".intercalate (items d)

end Notation
end Resilience
