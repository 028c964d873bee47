import Resilience.Proofs.Retry.Course

/-! Cancellation of a run. The flag is read in the pause after a failed attempt and nowhere else, so an attempt
    that leaves it raised is the last one. A flag that is raised before the run, or while a wait is being
    completed, is met by one more attempt. -/

namespace Resilience

namespace Retrier

variable {σ ρ ε α : Type} {r : Retrier} {env : Surroundings σ} {ctx : CallContext} {kind : ErrorKind ε}
  {work : Nat → σ → Performed σ ρ (Except ε α)} {budget k : Nat} {s u : σ}
  {result : Except Overflow (Except (RetryError ε) α)} {rest : List (Entry ρ)}

/-- No work lowers the flag of the context. -/
def Steady (env : Surroundings σ) (ctx : CallContext) (work : Nat → σ → Performed σ ρ (Except ε α)) : Prop :=
  ∀ k t, env.cancelled t ctx.token = true → env.cancelled (work k t).state ctx.token = true

/-- Attempt `k` is met by a flag that was raised while the wait before it was being completed. -/
structure Overtaken (r : Retrier) (env : Surroundings σ) (ctx : CallContext)
    (work : Nat → σ → Performed σ ρ (Except ε α)) (s : σ) (k : Nat) : Prop where
  before : env.cancelled (r.tried env ctx work s k).state ctx.token = false
  takesTime : (r.nextInterval k).isZero = false
  completed : env.sleep (r.tried env ctx work s k).state (r.nextInterval k) ctx.token =
    (.ok true, r.startOf env ctx work s (k + 1))
  after : env.cancelled (r.startOf env ctx work s (k + 1)) ctx.token = true

/-- How a run fails whose last attempt is `k`, ends in this error and leaves the flag raised. -/
def lastFailure (kind : ErrorKind ε) (budget k : Nat) (elapsed : Duration) (e : ε) : RetryError ε :=
  if kind.retryable e = false then .aborted (k + 1) e
  else if k = budget then .exhausted (k + 1) elapsed e
  else .interrupted (k + 1) .cancelled e

theorem lastFailure_final {elapsed : Duration} {e : ε} (hr : kind.retryable e = false) :
    lastFailure kind budget k elapsed e = .aborted (k + 1) e := if_pos hr

theorem lastFailure_exhausted {elapsed : Duration} {e : ε} (hr : kind.retryable e = true) (hk : k = budget) :
    lastFailure kind budget k elapsed e = .exhausted (k + 1) elapsed e := by
  rw [lastFailure, if_neg (by simp [hr]), if_pos hk]

theorem lastFailure_spare {elapsed : Duration} {e : ε} (hr : kind.retryable e = true) (hk : k ≠ budget) :
    lastFailure kind budget k elapsed e = .interrupted (k + 1) .cancelled e := by
  rw [lastFailure, if_neg (by simp [hr]), if_neg hk]

/-- An attempt that leaves the flag raised is not followed by another one. -/
theorem GoesOn.calm (h : r.GoesOn env ctx kind work budget s k) :
    env.cancelled (r.tried env ctx work s k).state ctx.token = false := h.room.calm

/-- Only a wait that takes time can leave a flag raised that it has not found so. -/
theorem GoesOn.overtaken (h : r.GoesOn env ctx kind work budget s k)
    (hc : env.cancelled (r.startOf env ctx work s (k + 1)) ctx.token = true) :
    r.Overtaken env ctx work s k := by
  have hnext : r.startOf env ctx work s (k + 1) =
      waited env ctx (r.nextInterval k) (r.tried env ctx work s k).state := rfl
  cases hd : (r.nextInterval k).isZero with
  | true =>
    rw [hnext, waited, if_pos hd, h.calm] at hc
    cases hc
  | false =>
    rw [waited, hd] at hnext
    exact ⟨h.calm, hd, Prod.ext (h.completed hd) hnext.symm, hc⟩

/-- A run whose last attempt leaves the flag raised ends with what that attempt makes of it. -/
theorem Ending.of_raised (h : r.Ending env ctx kind work budget s k result u rest)
    (hc : env.cancelled (r.tried env ctx work s k).state ctx.token = true) :
    u = (r.tried env ctx work s k).state ∧ rest = [] ∧
      result = (r.tried env ctx work s k).result.map (Except.mapError
        (lastFailure kind budget k ((env.now (r.tried env ctx work s k).state).since (env.now s)))) := by
  cases h with
  | broken hw | succeeded hw =>
    rw [hw]
    exact ⟨rfl, rfl, rfl⟩
  | aborted hw hr =>
    rw [hw]
    exact ⟨rfl, rfl, congrArg (fun e => Except.ok (Except.error e)) (lastFailure_final hr).symm⟩
  | exhausted hw hr hk =>
    rw [hw]
    exact ⟨rfl, rfl, congrArg (fun e => Except.ok (Except.error e)) (lastFailure_exhausted hr hk).symm⟩
  | interrupted hw hr hk hp =>
    rw [hw] at hc ⊢
    cases hp with
    | cancelled => exact ⟨rfl, rfl, congrArg (fun e => Except.ok (Except.error e)) (lastFailure_spare hr hk).symm⟩
    | late hcalm => exact absurd (hcalm.symm.trans hc) Bool.false_ne_true
    | cut room => exact absurd (room.calm.symm.trans hc) Bool.false_ne_true
  | stuck hw _ _ room =>
    rw [hw] at hc
    exact absurd (room.calm.symm.trans hc) Bool.false_ne_true

/-- A wait that was begun and not completed was begun under a lowered flag, and nothing follows it. -/
theorem Ending.of_rest (h : r.Ending env ctx kind work budget s k result u rest) (hrest : rest ≠ []) :
    env.cancelled (r.tried env ctx work s k).state ctx.token = false ∧ rest = [.sleep (r.nextInterval k)] := by
  cases h with
  | broken | succeeded | aborted | exhausted => exact absurd rfl hrest
  | interrupted hw _ _ hp =>
    rw [hw]
    cases hp with
    | cancelled | late => exact absurd rfl hrest
    | cut room => exact ⟨room.calm, rfl⟩
  | stuck hw _ _ room =>
    rw [hw]
    exact ⟨room.calm, rfl⟩

/-- A run makes its attempts up to the first one that leaves the flag raised, at the latest. It then ends with
    the answer of that attempt, or with a cancellation where another attempt would have followed. An attempt
    that finds the flag raised is the last one too: it is the first of all, under a flag raised before the run,
    or the flag was raised during the wait before it and that wait was completed all the same. A wait that is
    begun and not completed is the last that a run does. -/
theorem cancelled_run_law (r : Retrier) (env : Surroundings σ) (ctx : CallContext) (kind : ErrorKind ε)
    (work : Nat → σ → Performed σ ρ (Except ε α)) (steady : Steady env ctx work) (maxRetries : UInt32)
    (s : σ) :
    let budget := r.budget maxRetries
    let done := r.run env ctx kind work maxRetries s
    let start := r.startOf env ctx work s
    let tried := r.tried env ctx work s
    let raised (t : σ) : Prop := env.cancelled t ctx.token = true
    ∃ k rest, k ≤ budget ∧
      acts done.journal = (List.range k).flatMap (r.shown env ctx work s) ++
        .attempt k :: (acts (tried k).journal ++ rest) ∧
      (∀ j ≤ k, raised (tried j).state → j = k) ∧
      (∀ j ≤ k, raised (start j) → j = k ∧ raised (tried j).state ∧
        (j = 0 ∨ ∃ i, j = i + 1 ∧ r.Overtaken env ctx work s i)) ∧
      (raised (tried k).state → done.state = (tried k).state ∧ rest = [] ∧
        done.result = (tried k).result.map (Except.mapError
          (lastFailure kind budget k ((env.now (tried k).state).since (env.now s))))) ∧
      (rest ≠ [] → ¬raised (tried k).state ∧ rest = [.sleep (r.nextInterval k)]) := by
  intro budget done start tried raised
  obtain ⟨k, rest, hk, earlier, hend, hj⟩ := r.run_course env ctx kind work maxRetries s
  have last {j : Nat} (hle : j ≤ k) (hc : raised (tried j).state) : j = k :=
    (Nat.lt_or_eq_of_le hle).resolve_left fun hlt => by cases (earlier j hlt).calm.symm.trans hc
  refine ⟨k, rest, hk, hj, fun j => last, fun j hle hc => ?_, hend.of_raised, fun hrest => ?_⟩
  · have hends : raised (tried j).state := steady j _ hc
    refine ⟨last hle hends, hends, ?_⟩
    cases j with
    | zero => exact .inl rfl
    | succ i => exact .inr ⟨i, rfl, (earlier i hle).overtaken hc⟩
  · obtain ⟨hcalm, hrest⟩ := hend.of_rest hrest
    exact ⟨Bool.eq_false_iff.mp hcalm, hrest⟩

/-- Scripted work raises the flag or leaves it as it is. -/
theorem steady_work (missing : ε) (ctx : CallContext) :
    Steady (ρ := ρ) (Simulation.surroundings (α := α)) ctx fun _ => Simulation.work missing ctx.token := by
  intro _ s hc
  have hc : s.flags.isCancelled ctx.token = true := hc
  show (Simulation.work (ρ := ρ) missing ctx.token s).state.flags.isCancelled ctx.token = true
  unfold Simulation.work Simulation.perform
  rcases hcues : s.cues with _ | ⟨cue, cues⟩ <;> dsimp only
  · exact hc
  · rcases hm : s.clock.advance cue.advance with ⟨cause | _, m⟩ <;>
      simp only [Simulation.advance, hm, ite_self, Simulation.isCancelled_cancelIf, hc, Bool.or_true]

/-- Under a flag that is raised before the run, one attempt is made. -/
theorem cancelled_run_law_before :
    let env : Surroundings (Simulation String Unit) := Simulation.surroundings
    let ctx : CallContext := ⟨none, ⟨0⟩⟩
    let work (_ : Nat) : Simulation String Unit → Performed (Simulation String Unit) Unit (Except String Unit) :=
      Simulation.work "down" ctx.token
    let s : Simulation String Unit := { flags := ⟨1, [⟨0⟩]⟩ }
    let done := Retrier.standard.run env ctx ⟨fun e => e, fun _ => true⟩ work 5 s
    Steady env ctx work ∧ env.cancelled s ctx.token = true ∧
      acts done.journal = [.attempt 0] ∧ done.result = .ok (.error (.interrupted 1 .cancelled "down")) := by
  intro env ctx work s done
  have steady : Steady env ctx work := steady_work "down" ctx
  obtain ⟨k, rest, -, hj, -, hstart, hraised, -⟩ :=
    cancelled_run_law Retrier.standard env ctx ⟨fun e => e, fun _ => true⟩ work steady 5 s
  obtain ⟨rfl, hends, -⟩ := hstart 0 (Nat.zero_le _) rfl
  obtain ⟨-, rfl, hresult⟩ := hraised hends
  exact ⟨steady, rfl, hj, hresult⟩

/-- The work is called under a flag that was raised before the run, and under one that was raised while the
    wait before the third attempt was completed. -/
theorem attempts_under_raised_flag :
    let env : Surroundings (Simulation String Unit) := Simulation.surroundings
    let ctx : CallContext := ⟨none, ⟨0⟩⟩
    let r : Retrier := ⟨some (.constant (.ofMillis 50))⟩
    let work (_ : Nat) : Simulation String Unit → Performed (Simulation String Unit) Unit (Except String Unit) :=
      Simulation.work "down" ctx.token
    let run := r.run env ctx ⟨fun e => e, fun _ => true⟩ work 5
    let before : Simulation String Unit := { flags := ⟨1, [⟨0⟩]⟩, cues := [{ result := .ok () }] }
    let during : Simulation String Unit := { waits := [{ cancelAfter := true }] }
    (env.cancelled before ctx.token = true ∧ attemptIndices (run before).journal = [0] ∧
        (run before).result = .ok (.ok ())) ∧
      env.cancelled (r.startOf env ctx work during 2) ctx.token = true ∧
      attemptIndices (run during).journal = [0, 1, 2] ∧
      (run during).result = .ok (.error (.interrupted 3 .cancelled "down")) := by
  intro env ctx r work run before during
  exact ⟨⟨rfl, by decide +kernel, rfl⟩, by decide +kernel, by decide +kernel,
    eq_of_failure? (by decide +kernel)⟩

end Retrier
end Resilience
