import Resilience.Proofs.Journal
import Resilience.Proofs.Retry.Loop

/-! What a pause comes to, and what a turn comes to once its attempt is known. Cancellation goes first,
    then a deadline that the wait would reach; so a wait that is made ends before the deadline. -/

namespace Resilience

theorem Instant.since_le_iff {t u : Instant} {d : Duration} : t.since u ≤ d ↔ t.nanos ≤ u.nanos + d.nanos := by
  show (t.nanos - u.nanos).toNat ≤ d.nanos ↔ t.nanos ≤ u.nanos + d.nanos
  omega

/-- A completed wait takes exactly the time that was asked for. -/
def Surroundings.Exact {σ : Type} (env : Surroundings σ) : Prop :=
  ∀ s d token t, env.sleep s d token = (.ok true, t) → (env.now t).nanos = (env.now s).nanos + d.nanos

/-- A wait is cut short only by the flag. -/
def Surroundings.CutByFlag {σ : Type} (env : Surroundings σ) : Prop :=
  ∀ s d token t, env.sleep s d token = (.ok false, t) → env.cancelled t token = true

namespace Retrier

variable {σ ρ ε α : Type} {r : Retrier} {env : Surroundings σ} {ctx : CallContext} {kind : ErrorKind ε}
  {work : Nat → σ → Performed σ ρ (Except ε α)} {budget left attempt : Nat} {started : Instant} {s t u : σ}
  {delay : Duration}

/-! ### Pauses -/

theorem pause_of_cancelled (hc : env.cancelled s ctx.token = true) : pause env ctx delay s = .refused .cancelled := by
  unfold pause
  rw [if_pos hc]

theorem pause_of_late {deadline : Instant} (hc : env.cancelled s ctx.token = false)
    (hd : ctx.deadline = some deadline) (hl : deadline.nanos ≤ (env.now s).nanos + delay.nanos) :
    pause env ctx delay s = .refused .deadlineExceeded := by
  have hr : ctx.remaining (env.now s) = some (deadline.since (env.now s)) := by
    rw [CallContext.remaining, hd]
    rfl
  unfold pause
  rw [if_neg (by simp [hc]), hr]
  exact if_pos (Instant.since_le_iff.mpr hl)

theorem cancelled_of_pause (h : pause env ctx delay s = .refused .cancelled) : env.cancelled s ctx.token = true := by
  unfold pause at h
  split at h
  · assumption
  · split at h
    · split at h
      · cases h
      · split at h <;> cases h
    · split at h <;> cases h

theorem not_cancelled_of_pause (h : pause env ctx delay s ≠ .refused .cancelled) :
    env.cancelled s ctx.token = false :=
  Bool.eq_false_iff.mpr fun hc => h (pause_of_cancelled hc)

theorem remaining_le_of_pause (h : pause env ctx delay s = .refused .deadlineExceeded) :
    ∃ left, ctx.remaining (env.now s) = some left ∧ left ≤ delay := by
  unfold pause at h
  split at h
  · cases h
  · split at h
    · rename_i left hr
      split at h
      · exact ⟨left, hr, ‹_›⟩
      · split at h <;> cases h
    · split at h <;> cases h

/-- Only a pause that would end before the deadline is made. -/
theorem lt_deadline_of_pause {deadline : Instant} (h : ∀ cause, pause env ctx delay s ≠ .refused cause)
    (hd : ctx.deadline = some deadline) : (env.now s).nanos + delay.nanos < deadline.nanos := by
  refine Int.not_le.mp fun hl => ?_
  exact h _ (pause_of_late (not_cancelled_of_pause (h _)) hd hl)

theorem rest_cases {result : Except Overflow (Option Interrupt)} {journal : List (Entry ρ)}
    (h : rest env ctx delay s = ⟨result, t, journal⟩) :
    (∃ cause, pause env ctx delay s = .refused cause ∧ result = .ok (some cause) ∧ t = s ∧ journal = []) ∨
      (pause env ctx delay s = .none ∧ result = .ok none ∧ t = s ∧ journal = []) ∨
      (pause env ctx delay s = .wait ∧ journal = [.sleep delay] ∧
        ∃ answer, env.sleep s delay ctx.token = (answer, t) ∧
          result = answer.map fun done => if done then none else some .cancelled) := by
  unfold rest at h
  split at h
  · rename_i cause hp
    cases h
    exact .inl ⟨cause, hp, rfl, rfl, rfl⟩
  · rename_i hp
    cases h
    exact .inr (.inl ⟨hp, rfl, rfl, rfl⟩)
  · rename_i hp
    refine .inr (.inr ⟨hp, ?_⟩)
    rcases hs : env.sleep s delay ctx.token with ⟨cause | _ | _, u⟩ <;> rw [hs] at h <;> cases h <;>
      exact ⟨rfl, _, rfl, rfl⟩

/-! ### Turns whose attempt is known -/

section
variable {ended : Except Overflow (Option (Except (RetryError ε) α))} {seen journal : List (Entry ρ)}

/-- Around an attempt and the wait after it the loop leaves only log lines. -/
theorem acts_turn (budget attempt : Nat) (seen : List (Entry ρ)) :
    acts (announced budget attempt ++ seen) = .attempt attempt :: acts seen := acts_append ..

theorem acts_log {level : Level} {text : String} (journal : List (Entry ρ)) :
    acts (journal ++ [.log level text]) = acts journal := (acts_append ..).trans (List.append_nil _)

theorem Turn.of_overflow {cause : Overflow} (hw : work attempt s = ⟨.error cause, t, seen⟩)
    (h : Turn r env ctx kind work budget started left attempt s ended u journal) :
    ended = .error cause ∧ u = t ∧ acts journal = .attempt attempt :: acts seen := by
  cases h with
  | broken hw' =>
    rw [hw] at hw'
    cases hw'
    exact ⟨rfl, rfl, acts_turn ..⟩
  | succeeded hw' | aborted hw' | exhausted hw' | stuck hw' | interrupted hw' | again hw' =>
    rw [hw] at hw'
    cases hw'

theorem Turn.of_value {value : α} (hw : work attempt s = ⟨.ok (.ok value), t, seen⟩)
    (h : Turn r env ctx kind work budget started left attempt s ended u journal) :
    ended = .ok (some (.ok value)) ∧ u = t ∧ acts journal = .attempt attempt :: acts seen := by
  cases h with
  | succeeded hw' =>
    rw [hw] at hw'
    cases hw'
    refine ⟨rfl, rfl, ?_⟩
    rw [acts_append, acts_turn]
    split <;> exact List.append_nil _
  | broken hw' | aborted hw' | exhausted hw' | stuck hw' | interrupted hw' | again hw' =>
    rw [hw] at hw'
    cases hw'

theorem Turn.of_final {e : ε} (hw : work attempt s = ⟨.ok (.error e), t, seen⟩) (hr : kind.retryable e = false)
    (h : Turn r env ctx kind work budget started left attempt s ended u journal) :
    ended = .ok (some (.error (.aborted (attempt + 1) e))) ∧ u = t ∧
      acts journal = .attempt attempt :: acts seen := by
  cases h with
  | aborted hw' =>
    rw [hw] at hw'
    cases hw'
    exact ⟨rfl, rfl, (acts_log _).trans (acts_turn ..)⟩
  | broken hw' | succeeded hw' =>
    rw [hw] at hw'
    cases hw'
  | exhausted hw' hr' | stuck hw' hr' | interrupted hw' hr' | again hw' hr' =>
    rw [hw] at hw'
    cases hw'
    rw [hr] at hr'
    cases hr'

/-- After a failure that may be repeated the budget decides, and then the pause. -/
theorem Turn.of_retryable {e : ε} (hw : work attempt s = ⟨.ok (.error e), t, seen⟩)
    (hr : kind.retryable e = true)
    (h : Turn r env ctx kind work budget started left attempt s ended u journal) :
    (left = 0 ∧ u = t ∧ ended = .ok (some (.error (.exhausted (attempt + 1) ((env.now t).since started) e))) ∧
        acts journal = .attempt attempt :: acts seen) ∨
      (left ≠ 0 ∧ ∃ result, ∃ rested : List (Entry ρ),
        rest env ctx (r.nextInterval attempt) t = ⟨result, u, rested⟩ ∧
          acts journal = .attempt attempt :: (acts seen ++ acts rested) ∧
          ended = match result with
            | .error cause => .error cause
            | .ok none => .ok none
            | .ok (some cause) => .ok (some (.error (.interrupted (attempt + 1) cause e)))) := by
  have hrested (rested : List (Entry ρ)) :
      acts (announced budget attempt ++ seen ++ r.retrying kind attempt e ++ rested) =
        .attempt attempt :: (acts seen ++ acts rested) := by
    rw [acts_append, retrying, acts_log, acts_turn]
    rfl
  cases h with
  | broken hw' | succeeded hw' =>
    rw [hw] at hw'
    cases hw'
  | aborted hw' hr' =>
    rw [hw] at hw'
    cases hw'
    rw [hr] at hr'
    cases hr'
  | exhausted hw' _ hl =>
    rw [hw] at hw'
    cases hw'
    exact .inl ⟨hl, rfl, rfl, (acts_log _).trans (acts_turn ..)⟩
  | stuck hw' _ hl hp | again hw' _ hl hp =>
    rw [hw] at hw'
    cases hw'
    exact .inr ⟨hl, _, _, hp, hrested _, rfl⟩
  | interrupted hw' _ hl hp =>
    rw [hw] at hw'
    cases hw'
    exact .inr ⟨hl, _, _, hp, (acts_log _).trans (hrested _), rfl⟩

end

end Retrier
end Resilience
