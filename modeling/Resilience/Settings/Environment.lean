import Resilience.Settings.Validation
import Resilience.Text.Number
import Resilience.Time.Notation

/-! Settings from environment variables. Fifteen variables, in a fixed order, each replace one setting;
    a variable that is not set changes nothing, and the first unacceptable one is reported. -/

namespace Resilience.Settings

/-- The value of a variable by its name, for those that are set to text. -/
abbrev Environment := String → Option String

/-- Why a variable is refused. -/
inductive VariableError
  /-- The text is no value of the variable's kind. -/
  | invalid (name cause : String)
  /-- The text is none of the words to choose from. -/
  | violation (v : Violation)
  /-- The text is a duration that cannot be computed. -/
  | overflow (cause : Overflow)
deriving DecidableEq

/-- A variable: its name and how a text for it changes a configuration. -/
structure Variable where
  name : String
  apply : String → Config → Except VariableError Config

namespace Variable

/-- A variable whose blanks at both ends do not count, read as a number or truth value. -/
def number {α : Type} (name : String) (read : String → Except Text.NumberError α)
    (set : α → Config → Config) : Variable where
  name
  apply s c :=
    match read (Text.trim s) with
    | .ok value => .ok (set value c)
    | .error e => .error (.invalid name e.message)

/-- A variable whose blanks at both ends do not count, read as a duration. -/
def duration (name : String) (set : Duration → Config → Config) : Variable where
  name
  apply s c :=
    match Notation.read (Text.trim s) with
    | .ok value => .ok (set value c)
    | .error (.overflow cause) => .error (.overflow cause)
    | .error e => .error (.invalid name e.message)

/-- A variable that holds a word; a refused word is shown as it is. -/
def word {α : Type} (name : String) (parse : String → Except String α) (set : α → Config → Config) :
    Variable where
  name
  apply s c :=
    match parse s with
    | .ok value => .ok (set value c)
    | .error _ => .error (.invalid name s)

/-- The strategy is compared with its choices before it is read. -/
def strategy (name : String) (set : Strategy → Config → Config) : Variable where
  name
  apply s c :=
    match oneOf Strategy.choices s "strategy" Client.domain with
    | .error v => .error (.violation v)
    | .ok () =>
      match Strategy.parse s with
      | .ok value => .ok (set value c)
      | .error e => .error (.invalid name e)

/-- A variable that takes any text. -/
def text (name : String) (set : String → Config → Config) : Variable where
  name
  apply s c := .ok (set s c)

end Variable

namespace Config

def mapClient (f : Client → Client) (c : Config) : Config := { c with client := f c.client }

def mapBackoff (f : Backoff → Backoff) (c : Config) : Config :=
  c.mapClient fun client => { client with backoff := f client.backoff }

def mapBreaker (f : Breaker → Breaker) (c : Config) : Config :=
  c.mapClient fun client => { client with breaker := f client.breaker }

def mapLogging (f : Logging → Logging) (c : Config) : Config := { c with logging := f c.logging }

end Config

open Config Variable

/-- All variables in the order in which they are read. -/
def Variable.all : List Variable :=
  [number "MAX_RETRY_ATTEMPTS" Text.count32 fun n => mapClient fun c => { c with maxRetryAttempts := n },
   duration "PER_CALL_TIMEOUT" fun d => mapClient fun c => { c with perCallTimeout := d },
   strategy "BACKOFF_STRATEGY" fun s => mapBackoff fun b => { b with strategy := s },
   duration "BACKOFF_INITIAL_INTERVAL" fun d => mapBackoff fun b => { b with initialInterval := d },
   duration "BACKOFF_MAX_INTERVAL" fun d => mapBackoff fun b => { b with maxInterval := d },
   number "BACKOFF_EXPONENT_FACTOR" Text.float fun x => mapBackoff fun b => { b with exponentFactor := x },
   number "BREAKER_FAILURE_THRESHOLD" Text.count64 fun n =>
     mapBreaker fun b => { b with failureThreshold := n },
   duration "BREAKER_COUNTER_RESET_INTERVAL" fun d =>
     mapBreaker fun b => { b with counterResetInterval := d },
   duration "BREAKER_OPEN_TIMEOUT" fun d => mapBreaker fun b => { b with openTimeout := d },
   number "BREAKER_HALF_OPEN_MAX_SUCCESSES" Text.count64 fun n =>
     mapBreaker fun b => { b with halfOpenMaxSuccesses := n },
   number "BREAKER_FAIL_ON_CANCEL" Text.boolean fun b => mapBreaker fun c => { c with failOnCancel := b },
   number "BREAKER_FAIL_ON_DEADLINE" Text.boolean fun b =>
     mapBreaker fun c => { c with failOnDeadline := b },
   word "LOG_LEVEL" parseLevel fun l => mapLogging fun c => { c with level := l },
   word "LOG_FORMAT" Format.parse fun f => mapLogging fun c => { c with format := f },
   text "LOG_FILTER" fun s => mapLogging fun c => { c with filter := some s }]

/-- Reads one variable if it is set. `stem` comes before an underscore and the variable's name. -/
def Variable.overlay (stem : String) (env : Environment) (c : Config) (v : Variable) :
    Except VariableError Config :=
  match env (stem ++ "_" ++ v.name) with
  | some s => v.apply s c
  | none => .ok c

/-- A configuration with every set variable in place of its setting. -/
def Config.overlay (stem : String) (env : Environment) (c : Config) : Except VariableError Config :=
  Variable.all.foldlM (Variable.overlay stem env) c

/-- What variable names start with unless told otherwise. -/
def standardStem : String := "TUBA"

end Resilience.Settings
