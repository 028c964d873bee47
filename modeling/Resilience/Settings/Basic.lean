import Resilience.Breaker.Config
import Resilience.Level

/-! Settings of a client and of logging, with their defaults. -/

namespace Resilience.Settings

/-- Which growth law a backoff follows. -/
inductive Strategy
  | constant | exponential
deriving DecidableEq

structure Backoff where
  strategy : Strategy := .constant
  initialInterval : Duration := Duration.ofMillis 100
  /-- Upper bound, for the exponential strategy only. -/
  maxInterval : Duration := Duration.ofSeconds 2
  exponentFactor : Float := 2.0

/-- The backoff of a breaker's open time unless told otherwise: it starts at the default open time, so
    every failed trial period lengthens it. -/
def Backoff.forOpenTimeout : Backoff where
  initialInterval := Duration.ofSeconds 20
  maxInterval := Duration.ofSeconds 300

structure Breaker where
  failureThreshold : UInt64 := 3
  counterResetInterval : Duration := Duration.ofSeconds 60
  openTimeout : Duration := Duration.ofSeconds 20
  openTimeoutBackoff : Backoff := Backoff.forOpenTimeout
  halfOpenMaxSuccesses : UInt64 := 10
  failOnCancel : Bool := true
  failOnDeadline : Bool := true

structure Client where
  backoff : Backoff := {}
  /-- Retries after the first attempt. -/
  maxRetryAttempts : UInt32 := 0
  perCallTimeout : Duration := Duration.ofSeconds 1
  breaker : Breaker := {}

/-- How console output is laid out. -/
inductive Format
  | json | text | compact | pretty
deriving DecidableEq

structure Logging where
  level : Level := .info
  format : Format := .text
  /-- More filter directives, besides the level. -/
  filter : Option String := none
  includeLocation : Bool := false
  includeThreadIds : Bool := true

/-- Everything that can be configured. -/
structure Config where
  client : Client := {}
  logging : Logging := {}

/-! ### Use -/

/-- The policy that a backoff stands for. -/
def Backoff.policy (b : Backoff) : BackoffPolicy :=
  match b.strategy with
  | .constant => .constant b.initialInterval
  | .exponential => .exponential b.initialInterval b.maxInterval b.exponentFactor

/-- What a breaker with these settings is told. -/
def Breaker.config (b : Breaker) : Resilience.Breaker.Config where
  failureThreshold := b.failureThreshold
  counterResetInterval := b.counterResetInterval
  openTimeout := b.openTimeout
  openTimeoutBackoff := b.openTimeoutBackoff.policy
  halfOpenMaxSuccesses := b.halfOpenMaxSuccesses
  failOnCancel := b.failOnCancel
  failOnDeadline := b.failOnDeadline

end Resilience.Settings
