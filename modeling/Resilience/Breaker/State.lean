import Resilience.Breaker.Config
import Resilience.Time.Instant

/-! The state of a circuit breaker and its four operations: asking permission, reporting an outcome,
    taking a snapshot and resetting. Each takes the current instant and says which change of phase it
    made, if any; the counting window and the open time are applied when an operation looks at them. -/

namespace Resilience.Breaker

/-- Running totals; they never influence what the breaker does. An operation adds at most one to each of them
    and to each counter of a state, so all fit into 64 bits for fewer than `2 ^ 64` operations. -/
structure Metrics where
  requests : Nat := 0
  successes : Nat := 0
  failures : Nat := 0
  ignored : Nat := 0
  rejected : Nat := 0
  transitions : Nat := 0
  lastLatency : Option Duration := none
  lastFailure : Option Instant := none
  lastSuccess : Option Instant := none
  lastChange : Option Instant := none
deriving DecidableEq

structure State where
  phase : Phase
  failures : Nat
  successes : Nat
  /-- Start of the counting window. -/
  windowStart : Instant
  openedAt : Option Instant
  /-- Trial periods that failed since the breaker was last closed. -/
  reopens : Nat
  /-- The open time in force. -/
  timeout : Duration
  /-- Trials admitted and not yet reported. -/
  inFlight : Nat
  metrics : Metrics
deriving DecidableEq

structure Transition where
  source : Phase
  target : Phase
deriving DecidableEq

/-- The counters as seen at one point in time. -/
structure Snapshot where
  phase : Phase
  failures : Nat
  successes : Nat
  reopens : Nat
  openedAt : Option Instant
  timeout : Duration
deriving DecidableEq

/-- What an operation did: its answer, the state it left, and the change of phase it made. -/
structure Step (α : Type) where
  result : α
  state : State
  transition : Option Transition

namespace State

/-- A closed breaker that has seen nothing, built at `now`. -/
def fresh (c : Config) (now : Instant) : State where
  phase := .closed
  failures := 0
  successes := 0
  windowStart := now
  openedAt := none
  reopens := 0
  timeout := c.openTimeout
  inFlight := 0
  metrics := {}

/-- The last boundary, at most `now`, of the windows of length `interval` that start at `start`. A
    remainder beyond 64 bits of nanoseconds counts as the largest such number. -/
def windowBoundary (interval : Duration) (start now : Instant) : Instant :=
  let into := (now.since start).nanos % interval.nanos
  (now.sub? (Duration.clamp (min into (UInt64.size - 1)))).getD now

/-- Starts a new counting window if the current one has elapsed. Only a closed breaker counts in
    windows. -/
def rollWindow (c : Config) (now : Instant) (s : State) : State :=
  if s.phase ≠ .closed ∨ c.counterResetInterval.isZero then s
  else if now.since s.windowStart < c.counterResetInterval then s
  else
    { s with
      windowStart := windowBoundary c.counterResetInterval s.windowStart now
      failures := 0
      successes := 0 }

/-- Records a change of phase. -/
def mark (target : Phase) (now : Instant) (s : State) : State :=
  { s with
    phase := target
    metrics := { s.metrics with transitions := s.metrics.transitions + 1, lastChange := some now } }

/-- The open time after the `n`th trial period that failed. -/
def reopenTimeout (c : Config) (n : Nat) : Duration :=
  max c.openTimeout (c.openTimeoutBackoff.next (UInt32.ofNat (min n (UInt32.size - 1))))

/-- Refuses calls from now on; coming from a trial period this is one more failed trial period. -/
def trip (c : Config) (now : Instant) (s : State) : State :=
  let again := s.phase = .halfOpen
  let reopens := if again then s.reopens + 1 else s.reopens
  { s.mark .opened now with
    reopens
    timeout := if again then reopenTimeout c reopens else c.openTimeout
    openedAt := some now
    successes := 0
    inFlight := 0 }

/-- Lets trials pass from now on. -/
def probe (now : Instant) (s : State) : State :=
  { s.mark .halfOpen now with failures := 0, successes := 0, inFlight := 0 }

/-- Lets all calls pass from now on and forgets the outage. -/
def recover (c : Config) (now : Instant) (s : State) : State :=
  { s.mark .closed now with
    failures := 0
    successes := 0
    windowStart := now
    openedAt := none
    reopens := 0
    timeout := c.openTimeout
    inFlight := 0 }

/-- Whether an open breaker has been open long enough. -/
def isDue (now : Instant) (s : State) : Bool :=
  s.phase = .opened && s.timeout ≤ now.since (s.openedAt.getD now)

/-- Applies what the passing of time brings: a new window, or the start of a trial period. -/
def catchUp (c : Config) (now : Instant) (s : State) : State × Option Transition :=
  let s := s.rollWindow c now
  if s.isDue now then (s.probe now, some ⟨.opened, .halfOpen⟩) else (s, none)

/-- Asks permission for one call. Whoever finds the open time over becomes the first trial. -/
def allow (c : Config) (now : Instant) (s : State) : Step Bool :=
  let (s, transition) := s.catchUp c now
  let refused := { s with metrics := { s.metrics with rejected := s.metrics.rejected + 1 } }
  match s.phase with
  | .closed => ⟨true, s, transition⟩
  | .opened => ⟨false, refused, transition⟩
  | .halfOpen =>
    if s.successes + s.inFlight < c.trialBudget then
      ⟨true, { s with inFlight := s.inFlight + 1 }, transition⟩
    else ⟨false, refused, transition⟩

/-- Takes note that a call has ended. A report during a trial period frees one trial, whichever call
    it comes from. -/
def receive (c : Config) (now : Instant) (o : Outcome) (s : State) : State :=
  let s := s.rollWindow c now
  { s with
    inFlight := if s.phase = .halfOpen then s.inFlight - 1 else s.inFlight
    metrics := { s.metrics with requests := s.metrics.requests + 1, lastLatency := some o.latency } }

def noteIgnored (s : State) : State :=
  { s with metrics := { s.metrics with ignored := s.metrics.ignored + 1 } }

def noteSuccess (now : Instant) (s : State) : State :=
  { s with
    metrics := { s.metrics with successes := s.metrics.successes + 1, lastSuccess := some now } }

def noteFailure (now : Instant) (s : State) : State :=
  { s with
    metrics := { s.metrics with failures := s.metrics.failures + 1, lastFailure := some now } }

/-- Counts a success: enough of them close a breaker on trial. -/
def succeed (c : Config) (now : Instant) (s : State) : State × Option Transition :=
  match s.phase with
  | .opened => (s, none)
  | .closed => ({ s with successes := s.successes + 1 }, none)
  | .halfOpen =>
    let s := { s with successes := s.successes + 1 }
    if c.trialBudget ≤ s.successes then (s.recover c now, some ⟨.halfOpen, .closed⟩) else (s, none)

/-- Counts a failure: enough of them in one window open a closed breaker, one opens a breaker on
    trial. -/
def fail (c : Config) (now : Instant) (s : State) : State × Option Transition :=
  match s.phase with
  | .opened => (s, none)
  | .closed =>
    let s := { s with failures := s.failures + 1 }
    if c.failureThreshold.toNat ≤ s.failures then (s.trip c now, some ⟨.closed, .opened⟩)
    else (s, none)
  | .halfOpen => (s.trip c now, some ⟨.halfOpen, .opened⟩)

/-- Reports the outcome of a call. -/
def report (c : Config) (now : Instant) (o : Outcome) (s : State) : Step Unit :=
  let s := s.receive c now o
  let (s, transition) :=
    match c.classify o with
    | .ignored => (s.noteIgnored, none)
    | .success => (s.noteSuccess now).succeed c now
    | .failure => (s.noteFailure now).fail c now
  ⟨(), s, transition⟩

def view (s : State) : Snapshot where
  phase := s.phase
  failures := s.failures
  successes := s.successes
  reopens := s.reopens
  openedAt := s.openedAt
  timeout := s.timeout

/-- The counters once everything due has been applied. -/
def snapshot (c : Config) (now : Instant) (s : State) : Step Snapshot :=
  let (s, transition) := s.catchUp c now
  ⟨s.view, s, transition⟩

/-- Closes the breaker and clears its counters and totals. -/
def reset (c : Config) (now : Instant) (s : State) : Step Unit :=
  let closed := s.phase = .closed
  let recovered := if closed then s else s.recover c now
  let cleared :=
    { recovered with
      failures := 0
      successes := 0
      windowStart := now
      metrics := { lastChange := some now } }
  ⟨(), cleared, if closed then none else some ⟨s.phase, .closed⟩⟩

end State
end Resilience.Breaker
