import Resilience.Client.Basic

/-! Runs in simulated surroundings. Time is a manual clock, and scripts say what every attempt and every
    wait does, so a run is determined by its scripts. -/

namespace Resilience

namespace Simulation

/-- What one attempt does: time passes, the caller may cancel, and the attempt ends. -/
structure Cue (ε α : Type) where
  advance : Duration := Duration.zero
  cancel : Bool := false
  /-- Whether the attempt gives up once its context is cancelled or has expired. -/
  honour : Bool := false
  result : Except ε α

/-- What happens around one wait. -/
structure Wait where
  cancelBefore : Bool := false
  /-- Time that passes after the wait. -/
  extra : Duration := Duration.zero
  cancelAfter : Bool := false

end Simulation

/-- The clock, the cancellation flags, and what is still to come of the scripts. -/
structure Simulation (ε α : Type) where
  clock : ManualClock := {}
  flags : Cancellations := {}
  cues : List (Simulation.Cue ε α) := []
  waits : List Simulation.Wait := []

namespace Simulation

variable {ε α ρ : Type}

def advance (s : Simulation ε α) (d : Duration) : Except Overflow Unit × Simulation ε α :=
  let moved := s.clock.advance d
  (moved.1, { s with clock := moved.2 })

/-- Cancels if a condition holds. -/
def cancelIf (s : Simulation ε α) (condition : Bool) (t : Token) : Simulation ε α :=
  if condition then { s with flags := s.flags.cancel t } else s

/-- One wait. A wait that the clock cannot make ends the run. -/
def sleep (s : Simulation ε α) (d : Duration) (t : Token) : Except Overflow Bool × Simulation ε α :=
  let wait := s.waits.headD {}
  let s := ({ s with waits := s.waits.tail }).cancelIf wait.cancelBefore t
  match s.clock.sleep d (s.flags.isCancelled t) with
  | (.error e, clock) => (.error e, { s with clock })
  | (.ok done, clock) =>
    match ({ s with clock }).advance wait.extra with
    | (.error e, s) => (.error e, s)
    | (.ok (), s) => (.ok done, s.cancelIf wait.cancelAfter t)

def surroundings : Surroundings (Simulation ε α) where
  now s := s.clock.now
  cancelled s t := s.flags.isCancelled t
  sleep := sleep

/-- Surroundings in which waits take no time. -/
def timeless : Surroundings (Simulation ε α) where
  now _ := Instant.origin
  cancelled s t := s.flags.isCancelled t
  sleep s _ t := (.ok !(s.flags.isCancelled t), s)

/-- Makes the next attempt of the script. `givesUp` says how an attempt ends that looks at its context;
    an attempt beyond the script fails with `missing`. -/
def perform (givesUp : Simulation ε α → Option ε) (missing : ε) (t : Token) (s : Simulation ε α) :
    Except Overflow (Except ε α) × Simulation ε α :=
  match s.cues with
  | [] => (.ok (.error missing), s)
  | cue :: cues =>
    match ({ s with cues }).advance cue.advance with
    | (.error e, s) => (.error e, s)
    | (.ok (), s) =>
      let s := s.cancelIf cue.cancel t
      match if cue.honour then givesUp s else none with
      | some e => (.ok (.error e), s)
      | none => (.ok cue.result, s)

/-- Work that follows the script. -/
def work (missing : ε) (t : Token) (s : Simulation ε α) :
    Performed (Simulation ε α) ρ (Except ε α) :=
  let done := perform (fun _ => none) missing t s
  ⟨done.1, done.2, []⟩

/-- How a transport gives up under a context; cancellation goes before the deadline. -/
def refusal (ctx : CallContext) (s : Simulation ε α) : Option TransportError :=
  if s.flags.isCancelled ctx.token then some .cancelled
  else if ctx.isExpired s.clock.now then some .deadlineExceeded
  else none

/-- A transport that follows the script. -/
def transport (missing : TransportError) : Transport (Simulation TransportError α) ρ α where
  send s _ ctx := perform (refusal ctx) missing ctx.token s

/-- A context with a flag of its own, which may be raised from the start. -/
def context (s : Simulation ε α) (deadline : Option Instant) (cancelled : Bool) :
    CallContext × Simulation ε α :=
  let issued := s.flags.fresh
  (⟨deadline, issued.1⟩, ({ s with flags := issued.2 }).cancelIf cancelled issued.1)

end Simulation
end Resilience
