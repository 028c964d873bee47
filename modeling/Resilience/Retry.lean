import Resilience.Context
import Resilience.Journal

/-! Running work until it succeeds. A failed attempt is repeated after a wait while the error permits
    it, the budget lasts, and the caller's context leaves room for the wait. -/

namespace Resilience

/-- What work runs in: a clock, waits that can be cancelled, and cancellation flags. -/
structure Surroundings (σ : Type) where
  now : σ → Instant
  cancelled : σ → Token → Bool
  /-- Waits unless the flag is raised; the answer says whether the wait was completed. -/
  sleep : σ → Duration → Token → Except Overflow Bool × σ

/-- Why the caller's context ended a retry loop. -/
inductive Interrupt
  | cancelled | deadlineExceeded
deriving DecidableEq

def Interrupt.text : Interrupt → String
  | .cancelled => "cancelled"
  | .deadlineExceeded => "deadline exceeded"

/-- How retrying failed; each case carries the number of attempts and the error of the last one. -/
inductive RetryError (ε : Type)
  /-- Every permitted attempt failed. -/
  | exhausted (attempts : Nat) (elapsed : Duration) (last : ε)
  /-- An attempt failed with an error that must not be retried. -/
  | aborted (attempts : Nat) (error : ε)
  /-- The caller's context ended the loop before the next attempt. -/
  | interrupted (attempts : Nat) (cause : Interrupt) (last : ε)
deriving DecidableEq

namespace RetryError

def attempts {ε : Type} : RetryError ε → Nat
  | .exhausted n _ _ => n
  | .aborted n _ => n
  | .interrupted n _ _ => n

/-- The error of the last attempt. -/
def last {ε : Type} : RetryError ε → ε
  | .exhausted _ _ e => e
  | .aborted _ e => e
  | .interrupted _ _ e => e

def text {ε : Type} (describe : ε → String) : RetryError ε → String
  | .exhausted n elapsed e =>
    s!"Retries exhausted after {n} attempts in {elapsed.text}. Last error: {describe e}"
  | .aborted n e => s!"Non-retryable error after {n} attempts: {describe e}"
  | .interrupted n cause e =>
    s!"Retry interrupted ({cause.text}) after {n} attempts. Last error: {describe e}"

end RetryError

/-- Retries with a policy, or never without one. -/
structure Retrier where
  policy : Option BackoffPolicy

/-- The kinds of errors: how they are described and which of them may be retried. -/
structure ErrorKind (ε : Type) where
  describe : ε → String
  retryable : ε → Bool

/-- What to do about the wait before the next attempt. -/
inductive Pause
  | refused (cause : Interrupt)
  /-- There is nothing to wait for. -/
  | none
  | wait
deriving DecidableEq

namespace Retrier

def standard : Retrier := ⟨some BackoffPolicy.standard⟩

/-- Never retries: the work runs once. -/
def never : Retrier := ⟨none⟩

def isNever (r : Retrier) : Bool := r.policy.isNone

/-- The wait after the failed attempt with this index. -/
def nextInterval (r : Retrier) (attempt : Nat) : Duration :=
  match r.policy with
  | some policy => policy.next (UInt32.ofNat attempt)
  | none => Duration.zero

/-- The number of retries that a loop may make. -/
def budget (r : Retrier) (maxRetries : UInt32) : Nat := if r.isNever then 0 else maxRetries.toNat

variable {σ ρ ε α : Type}

/-- Cancellation ends the loop first, then a deadline that the wait would reach. -/
def pause (env : Surroundings σ) (ctx : CallContext) (delay : Duration) (s : σ) : Pause :=
  if env.cancelled s ctx.token then .refused .cancelled
  else
    match ctx.remaining (env.now s) with
    | some left =>
      if left ≤ delay then .refused .deadlineExceeded else if delay.isZero then .none else .wait
    | none => if delay.isZero then .none else .wait

/-- Makes the pause after a failed attempt; the answer names what cut it short. -/
def rest (env : Surroundings σ) (ctx : CallContext) (delay : Duration) (s : σ) :
    Performed σ ρ (Option Interrupt) :=
  match pause env ctx delay s with
  | .refused cause => { result := .ok (some cause), state := s }
  | .none => { result := .ok none, state := s }
  | .wait =>
    match env.sleep s delay ctx.token with
    | (.ok true, s) => { result := .ok none, state := s, journal := [.sleep delay] }
    | (.ok false, s) => { result := .ok (some .cancelled), state := s, journal := [.sleep delay] }
    | (.error e, s) => { result := .error e, state := s, journal := [.sleep delay] }

/-- The attempts from `attempt` on, with `left` retries to spare. -/
def loop (r : Retrier) (env : Surroundings σ) (ctx : CallContext) (kind : ErrorKind ε)
    (work : Nat → σ → Performed σ ρ (Except ε α)) (budget : Nat) (started : Instant) :
    Nat → Nat → σ → Performed σ ρ (Except (RetryError ε) α)
  | left, attempt, s =>
    let attempts := attempt + 1
    let announced : List (Entry ρ) :=
      [.log .debug s!"Executing attempt {attempts} of {min (budget + 1) (UInt32.size - 1)}", .attempt attempt]
    match work attempt s with
    | ⟨.error overflow, s, seen⟩ => ⟨.error overflow, s, announced ++ seen⟩
    | ⟨.ok (.ok value), s, seen⟩ =>
      let success : List (Entry ρ) :=
        if 0 < attempt then [.log .info s!"Operation succeeded after {attempts} attempts"] else []
      ⟨.ok (.ok value), s, announced ++ seen ++ success⟩
    | ⟨.ok (.error e), s, seen⟩ =>
      let failure := kind.describe e
      if !kind.retryable e then
        ⟨.ok (.error (.aborted attempts e)), s, announced ++ seen ++
          [.log .debug s!"Operation failed with non-retryable error: {failure}"]⟩
      else
        match left with
        | 0 =>
          ⟨.ok (.error (.exhausted attempts ((env.now s).since started) e)), s, announced ++ seen ++
            [.log .warn s!"Operation failed after {attempts} attempts: {failure}"]⟩
        | left + 1 =>
          let delay := r.nextInterval attempt
          let before := announced ++ seen ++
            [.log .warn s!"Attempt {attempts} failed: {failure}. Retrying in {delay.text}"]
          match rest env ctx delay s with
          | ⟨.error overflow, s, rested⟩ => ⟨.error overflow, s, before ++ rested⟩
          | ⟨.ok (some cause), s, rested⟩ =>
            ⟨.ok (.error (.interrupted attempts cause e)), s, before ++ rested ++
              [.log .warn s!"Retry loop stopped: {cause.text}"]⟩
          | ⟨.ok none, s, rested⟩ =>
            let more := loop r env ctx kind work budget started left (attempt + 1) s
            { more with journal := before ++ rested ++ more.journal }

/-- Runs the work, at most `maxRetries` times more after a first failure. -/
def run (r : Retrier) (env : Surroundings σ) (ctx : CallContext) (kind : ErrorKind ε)
    (work : Nat → σ → Performed σ ρ (Except ε α)) (maxRetries : UInt32) (s : σ) :
    Performed σ ρ (Except (RetryError ε) α) :=
  let budget := r.budget maxRetries
  r.loop env ctx kind work budget (env.now s) budget 0 s

/-- Runs the work under a context that nothing bounds and retries every error. `token` is a flag that
    nobody raises. -/
def runAlways (r : Retrier) (env : Surroundings σ) (token : Token) (describe : ε → String)
    (work : σ → Performed σ ρ (Except ε α)) (maxRetries : UInt32) (s : σ) :
    Performed σ ρ (Except (RetryError ε) α) :=
  r.run env { token } ⟨describe, fun _ => true⟩ (fun _ => work) maxRetries s

end Retrier
end Resilience
