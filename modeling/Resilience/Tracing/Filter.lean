import Resilience.Text.Alphanumeric
import Resilience.Text.Blank
import Resilience.Settings.Validation
import Resilience.Tracing.Sink

/-! Which filter texts a subscriber accepts. A filter is a list of directives separated by commas; each
    names a level, a target, a span or fields of a span, and may end with a level. -/

namespace Resilience.Tracing

/-- Where a reader stands in a directive. Texts are kept in reverse. -/
inductive DirectivePlace
  | start
  /-- In a word that is a level or a target. -/
  | word
  | span
  | field (read : List Char)
  | fields
  | target
  | level (read : List Char)
deriving DecidableEq

/-- Whether a text names a level: a word in letters of either case, a digit up to five, or nothing. -/
def isLevel (cs : List Char) : Bool :=
  let word := String.ofList (cs.map Char.toLower)
  let digits := if cs.head? = some '+' then cs.drop 1 else cs
  ["", "error", "warn", "info", "debug", "trace", "off"].contains word ||
    (!digits.isEmpty && digits.all Char.isDigit &&
      (digits.foldl (fun n c => n * 10 + (c.toNat - 48)) 0) ≤ 5)

/-- Whether brackets are closed in order and nothing is repeated that is not there; `expected` are the
    closing brackets still to come, and `repeatable` says whether something stands before. -/
def patternOk (expected : List Char) (repeatable : Bool) : List Char → Bool
  | [] => expected.isEmpty
  | '\\' :: _ :: cs => patternOk expected true cs
  | '\\' :: [] => false
  | c :: cs =>
    if expected.head? = some ']' then
      patternOk (if c = ']' then expected.tail else expected) true cs
    else if c = '(' then patternOk (')' :: expected) false cs
    else if c = '[' then patternOk (']' :: expected) false cs
    else if c = ')' then expected.head? = some ')' && patternOk expected.tail true cs
    else if c = '*' ∨ c = '+' ∨ c = '?' then repeatable && patternOk expected true cs
    else patternOk expected (c ≠ '|') cs

/-- Whether a field condition is well formed: a name, or a name and the pattern of its value. -/
def isField (cs : List Char) : Bool :=
  match Text.splitAt '=' cs with
  | _ :: value :: _ => patternOk [] false value
  | _ => true

/-- Takes one character of a directive. -/
def DirectivePlace.step (p : DirectivePlace) (c : Char) : Option DirectivePlace :=
  match p with
  | .start =>
    if c = '[' then some .span
    else if c = '-' ∨ c = ':' ∨ c = '_' ∨ Text.isAlphanumeric c then some .word
    else none
  | .word => some (if c = '=' then .level [] else if c = '[' then .span else .word)
  | .span => some (if c = ']' then .target else if c.toNat = 0x7B then .field [] else .span)
  | .field read =>
    if c.toNat = 0x7D then
      if isField read.reverse then some .fields else none
    else some (.field (c :: read))
  | .fields => if c = ']' then some .target else none
  | .target => if c = '=' then some (.level []) else none
  | .level read => some (.level (c :: read))

/-- Whether a directive may end here. -/
def DirectivePlace.isEnd : DirectivePlace → Bool
  | .word => true
  | .target => true
  | .level read => isLevel read.reverse
  | _ => false

def isDirective (cs : List Char) : Bool :=
  match cs.foldlM DirectivePlace.step .start with
  | some place => place.isEnd
  | none => false

/-- Whether every piece of a filter that is not empty is a directive. -/
def acceptsFilter (filter : String) : Bool :=
  (Settings.filterPieces filter).all fun piece => piece.isEmpty || isDirective piece

/-! ### Installing a subscriber -/

/-- The event left when a subscriber is installed already. -/
def alreadyInstalled : Signal :=
  .event .debug "tuba_logging::init"
    [("message", .text "Global tracing subscriber already initialized, skipping")] []

/-- Installs a subscriber with the filter of these settings beside the one that is there. The error is
    the filter that was refused. -/
def install (l : Settings.Logging) : Except String (List Signal) :=
  if acceptsFilter l.directives then .ok [alreadyInstalled]
  else .error s!"Invalid log filter '{l.directives}'"

/-- Installs a subscriber with any text for a filter; a refused text is replaced. -/
def installSimple (_filter : String) : List Signal := [alreadyInstalled]

end Resilience.Tracing
