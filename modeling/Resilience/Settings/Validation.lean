import Resilience.Settings.Names
import Resilience.Decimal.Text
import Resilience.Text.Blank

/-! Which settings are sound. Every check names the part of the configuration that it looks at, and the
    first check that fails is reported. -/

namespace Resilience.Settings

/-- A setting that is refused: the part of the configuration it belongs to, and why. -/
structure Violation where
  domain : String
  reason : String
deriving DecidableEq

def Violation.message (v : Violation) : String :=
  s!"Domain configuration error in {v.domain}: {v.reason}"

/-- Passes if a condition holds. -/
def require (holds : Bool) (domain reason : String) : Except Violation Unit :=
  if holds then .ok () else .error ⟨domain, reason⟩

/-! ### Checks of single values -/

def positiveCount (n : Nat) (field domain : String) : Except Violation Unit :=
  require (0 < n) domain s!"{field} must be greater than 0, got {n}"

def positiveInt (n : Int) (field domain : String) : Except Violation Unit :=
  require (0 < n) domain s!"{field} must be greater than 0, got {n}"

/-- Refuses doubles that are at most zero; what is not a number passes. -/
def positiveFloat (x : Float) (field domain : String) : Except Violation Unit :=
  require (!(x ≤ 0.0)) domain
    s!"{field} must be greater than 0, got {(Binary64.ofFloat x).display}"

def positiveDuration (d : Duration) (field domain : String) : Except Violation Unit :=
  require (!d.isZero) domain s!"{field} must be longer than 0"

def finiteFactor (x : Float) (field domain : String) : Except Violation Unit :=
  require (x.isFinite && !(x ≤ 0.0)) domain
    s!"{field} must be a finite number above 0, got {(Binary64.ofFloat x).display}"

/-- Accepts one of the given words, up to the case of ASCII letters. -/
def oneOf (choices : List String) (value field domain : String) : Except Violation Unit :=
  require (choices.any fun choice => Text.sameIgnoringCase choice value) domain
    (s!"{field} has invalid value '{value}'. Valid choices: " ++ ", ".intercalate choices)

/-! ### Checks of settings -/

def Backoff.domain : String := "client.backoff"

def Backoff.validate (b : Backoff) : Except Violation Unit := do
  positiveDuration b.initialInterval "initial_interval" domain
  match b.strategy with
  | .constant => .ok ()
  | .exponential =>
    finiteFactor b.exponentFactor "exponent_factor" domain
    require (b.initialInterval ≤ b.maxInterval) domain
      (s!"max_interval ({b.maxInterval.text}) must not be shorter than " ++
        s!"initial_interval ({b.initialInterval.text})")

def Breaker.domain : String := "client.breaker"

def Breaker.validate (b : Breaker) : Except Violation Unit := do
  positiveCount b.failureThreshold.toNat "failure_threshold" domain
  positiveDuration b.counterResetInterval "counter_reset_interval" domain
  positiveDuration b.openTimeout "open_timeout" domain
  positiveCount b.halfOpenMaxSuccesses.toNat "half_open_max_successes" domain
  b.openTimeoutBackoff.validate

def Client.domain : String := "client"

def Client.validate (c : Client) : Except Violation Unit := do
  c.backoff.validate
  positiveDuration c.perCallTimeout "per_call_timeout" domain
  c.breaker.validate

/-- What sound client settings are warned about. -/
def Client.warnings (c : Client) : List String :=
  if 100 < c.maxRetryAttempts then
    [s!"max_retry_attempts is {c.maxRetryAttempts.toNat}; long retry loops hold the calling thread"]
  else []

/-- The pieces of a filter between its commas. -/
def filterPieces (filter : String) : List (List Char) := Text.splitAt ',' filter.toList

def Logging.validate (l : Logging) : Except Violation Unit :=
  match l.filter with
  | none => .ok ()
  | some filter =>
    require (!(filterPieces filter).any Text.isBlankText) "logging"
      s!"filter '{filter}' contains an empty directive"

/-- The level, followed by the filter if it is not blank. -/
def Logging.directives (l : Logging) : String :=
  match l.filter with
  | none => l.level.name
  | some filter =>
    let more := Text.trim filter
    if more.isEmpty then l.level.name else l.level.name ++ "," ++ more

def Config.validate (c : Config) : Except Violation Unit := do
  c.client.validate
  c.logging.validate

/-- The warnings written while a configuration is checked. They are written once the client settings
    are found sound, whatever becomes of the rest. -/
def Config.warnings (c : Config) : List String :=
  match c.client.validate with
  | .ok () => c.client.warnings
  | .error _ => []

end Resilience.Settings
