import Resilience.Proofs.Retry.Course

/-! The time of a run on a manual clock. Only the waits between the attempts are recorded by the clock, and what
    else moves it, attempts and other parties during the waits, is accounted for by name (`spent`). -/

namespace Resilience

namespace Duration

/-- The nanoseconds of all the durations. -/
def total (ds : List Duration) : Nat := ds.foldl (fun n d => n + d.nanos) 0

theorem foldl_nanos (ds : List Duration) (n : Nat) : ds.foldl (fun n d => n + d.nanos) n = n + total ds := by
  unfold total
  induction ds generalizing n with
  | nil => rfl
  | cons d ds ih =>
    rw [List.foldl_cons, ih, List.foldl_cons, ih (0 + d.nanos)]
    omega

@[simp] theorem total_nil : total [] = 0 := rfl

@[simp] theorem total_cons (d : Duration) (ds : List Duration) : total (d :: ds) = d.nanos + total ds := by
  rw [total, List.foldl_cons, foldl_nanos, Nat.zero_add]

@[simp] theorem total_append (ds es : List Duration) : total (ds ++ es) = total ds + total es := by
  rw [total, List.foldl_append, foldl_nanos]
  rfl

end Duration

namespace ManualClock

variable {c c' : ManualClock} {d : Duration} {ds : List Duration} {done cancelled : Bool}

/-- The clock is moved by these durations, one after the other. -/
inductive Moved : ManualClock → List Duration → ManualClock → Prop
  | refl (c : ManualClock) : Moved c [] c
  | step {c m c' : ManualClock} {d : Duration} {ds : List Duration} (h : c.advance d = (.ok (), m))
    (rest : Moved m ds c') : Moved c (d :: ds) c'

/-- One sleep on the clock, which others move before and after it. -/
def Waited (c : ManualClock) (d : Duration) (done : Bool) (others : List Duration) (c' : ManualClock) : Prop :=
  ∃ before after cancelled m m', others = before ++ after ∧ Moved c before m ∧
    m.sleep d cancelled = (.ok done, m') ∧ Moved m' after c'

theorem sleeps_advance {answer : Except Overflow Unit} (h : c.advance d = (answer, c')) : c'.sleeps = c.sleeps := by
  unfold advance at h
  split at h <;> cases h <;> rfl

theorem Moved.sleeps (h : c.Moved ds c') : c'.sleeps = c.sleeps := by
  induction h with
  | refl => rfl
  | step h _ ih => rw [ih, sleeps_advance h]

theorem Moved.now (h : c.Moved ds c') : c'.now.nanos = c.now.nanos + Duration.total ds := by
  induction h with
  | refl => simp
  | step h _ ih =>
    rw [ih, now_advance h, Duration.total_cons]
    omega

theorem sleeps_sleep (h : c.sleep d cancelled = (.ok done, c')) :
    c'.sleeps = c.sleeps ++ if done then [d] else [] := by
  unfold sleep at h
  split at h
  · cases h
    simp
  · rcases hm : ManualClock.advance { c with sleeps := c.sleeps ++ [d] } d with ⟨cause | _, m⟩ <;> rw [hm] at h <;>
      cases h
    exact sleeps_advance hm

theorem Waited.sleeps (h : c.Waited d done ds c') : c'.sleeps = c.sleeps ++ if done then [d] else [] := by
  obtain ⟨before, after, cancelled, m, m', -, hbefore, hsleep, hafter⟩ := h
  rw [hafter.sleeps, sleeps_sleep hsleep, hbefore.sleeps]

theorem Waited.now (h : c.Waited d true ds c') : c'.now.nanos = c.now.nanos + d.nanos + Duration.total ds := by
  obtain ⟨before, after, cancelled, m, m', rfl, hbefore, hsleep, hafter⟩ := h
  rw [hafter.now, now_sleep hsleep, hbefore.now, Duration.total_append]
  omega

end ManualClock

namespace Retrier

variable {σ ρ ε α : Type}

/-- Time is kept on a manual clock on which nobody but the loop sleeps: an attempt moves it by `moved`, and
    during a wait others move it by `others`. -/
structure OnManualClock (env : Surroundings σ) (work : Nat → σ → Performed σ ρ (Except ε α))
    (clock : σ → ManualClock) (moved : Nat → σ → List Duration)
    (others : σ → Duration → Token → List Duration) : Prop where
  now : ∀ t, env.now t = (clock t).now
  slept : ∀ {t d token done u}, env.sleep t d token = (.ok done, u) →
    (clock t).Waited d done (others t d token) (clock u)
  worked : ∀ {k t answer u seen}, work k t = ⟨.ok answer, u, seen⟩ → (clock t).Moved (moved k t) (clock u)

section
variable (r : Retrier) (env : Surroundings σ) (ctx : CallContext)
  (work : Nat → σ → Performed σ ρ (Except ε α)) (moved : Nat → σ → List Duration)
  (others : σ → Duration → Token → List Duration) (s : σ)

/-- The waits that are recorded before attempt `k`. -/
def waits (k : Nat) : List Duration := ((List.range k).map r.nextInterval).filter fun d => !d.isZero

/-- What moves the clock during attempt `j` and the wait after it, besides the wait itself. -/
def spent (j : Nat) : List Duration :=
  moved j (r.startOf env ctx work s j) ++
    if (r.nextInterval j).isZero then []
    else others (r.tried env ctx work s j).state (r.nextInterval j) ctx.token

end

section
variable {r : Retrier} {env : Surroundings σ} {ctx : CallContext} {kind : ErrorKind ε}
  {work : Nat → σ → Performed σ ρ (Except ε α)} {budget k : Nat} {s u : σ}
  {result : Except (RetryError ε) α} {rest : List (Entry ρ)} {clock : σ → ManualClock}
  {moved : Nat → σ → List Duration} {others : σ → Duration → Token → List Duration}

theorem waits_succ (r : Retrier) (k : Nat) :
    r.waits (k + 1) = r.waits k ++ if (r.nextInterval k).isZero then [] else [r.nextInterval k] := by
  unfold waits
  rw [List.range_succ, List.map_append, List.filter_append]
  cases hz : (r.nextInterval k).isZero <;> simp [hz]

theorem OnManualClock.tried (timed : OnManualClock env work clock moved others) {answer : Except ε α}
    (h : (r.tried env ctx work s k).result = .ok answer) :
    (clock (r.startOf env ctx work s k)).Moved (moved k (r.startOf env ctx work s k))
      (clock (r.tried env ctx work s k).state) := by
  have hw : work k (r.startOf env ctx work s k) =
      ⟨.ok answer, (r.tried env ctx work s k).state, (r.tried env ctx work s k).journal⟩ := by
    rw [← h]
    rfl
  exact timed.worked hw

/-- An attempt that is followed by another one adds its wait to the record. -/
theorem OnManualClock.next (timed : OnManualClock env work clock moved others)
    (h : r.GoesOn env ctx kind work budget s k) :
    let start := clock (r.startOf env ctx work s k)
    let next := clock (r.startOf env ctx work s (k + 1))
    let wait := if (r.nextInterval k).isZero then [] else [r.nextInterval k]
    next.sleeps = start.sleeps ++ wait ∧
      next.now.nanos = start.now.nanos + Duration.total wait +
        Duration.total (r.spent env ctx work moved others s k) := by
  intro start next wait
  obtain ⟨e, he, -⟩ := h.failed
  have hwork := timed.tried he
  have hnext : next = clock (waited env ctx (r.nextInterval k) (r.tried env ctx work s k).state) := rfl
  unfold spent
  cases hz : (r.nextInterval k).isZero with
  | true =>
    have hwait : wait = [] := if_pos hz
    rw [waited, if_pos hz] at hnext
    rw [hnext, hwait, hwork.sleeps, hwork.now]
    simp [start]
  | false =>
    have hwait : wait = [r.nextInterval k] := if_neg (by simp [hz])
    rw [waited, if_neg (by simp [hz])] at hnext
    have hslept : (clock (r.tried env ctx work s k).state).Waited (r.nextInterval k) true _ next :=
      hnext ▸ timed.slept (Prod.ext (h.completed hz) rfl)
    rw [hslept.sleeps, hslept.now, hwait, hwork.sleeps, hwork.now]
    refine ⟨rfl, ?_⟩
    simp only [Duration.total_append, Duration.total_cons, Duration.total_nil, Bool.false_eq_true, ↓reduceIte, start]
    omega

theorem OnManualClock.startOf (timed : OnManualClock env work clock moved others)
    (h : ∀ j < k, r.GoesOn env ctx kind work budget s j) :
    let start := clock (r.startOf env ctx work s k)
    start.sleeps = (clock s).sleeps ++ r.waits k ∧
      start.now.nanos = (clock s).now.nanos + Duration.total (r.waits k) +
        Duration.total ((List.range k).flatMap (r.spent env ctx work moved others s)) := by
  induction k with
  | zero => exact ⟨(List.append_nil _).symm, by simp [waits]; rfl⟩
  | succ k ih =>
    obtain ⟨hsleeps, hnow⟩ := ih fun j hj => h j (Nat.lt_succ_of_lt hj)
    obtain ⟨hsleeps', hnow'⟩ := timed.next (h k (Nat.lt_succ_self k))
    intro start
    rw [waits_succ, List.range_succ, List.flatMap_append, List.flatMap_singleton, Duration.total_append,
      Duration.total_append]
    refine ⟨by rw [hsleeps', hsleeps, List.append_assoc], ?_⟩
    rw [hnow', hnow]
    omega

/-- After the last attempt nothing is recorded. -/
theorem OnManualClock.ending (timed : OnManualClock env work clock moved others)
    (h : r.Ending env ctx kind work budget s k (.ok result) u rest) :
    (clock u).sleeps = (clock (r.startOf env ctx work s k)).sleeps := by
  cases h with
  | succeeded hw | aborted hw | exhausted hw => exact (timed.worked hw).sleeps
  | interrupted hw _ _ hp =>
    cases hp with
    | cancelled | late => exact (timed.worked hw).sleeps
    | cut _ _ hs =>
      rw [(timed.slept hs).sleeps, (timed.worked hw).sleeps]
      exact List.append_nil _

theorem OnManualClock.elapsed (timed : OnManualClock env work clock moved others)
    (earlier : ∀ j < k, r.GoesOn env ctx kind work budget s j) {attempts : Nat} {elapsed : Duration} {e : ε}
    (h : r.Ending env ctx kind work budget s k (.ok (.error (.exhausted attempts elapsed e))) u rest) :
    elapsed.nanos = Duration.total (r.waits k) +
      Duration.total ((List.range k).flatMap (r.spent env ctx work moved others s) ++
        moved k (r.startOf env ctx work s k)) := by
  obtain ⟨-, hnow⟩ := timed.startOf earlier
  cases h with
  | exhausted hw =>
    have hwork := (timed.worked hw).now
    rw [Duration.total_append]
    simp only [Instant.since, timed.now]
    omega

end

/-- A run with a policy that ends after attempt `k` has made the clock record the waits `next 0`, …, `next (k - 1)`
    in this order, without those that take no time. Each of them was shorter than the time that remained when
    it began. If the budget is used up, the time that the error reports is the sum of the recorded waits and of
    all that moved the clock besides, in the attempts and during the waits. -/
theorem time_law (policy : BackoffPolicy) (env : Surroundings σ) (ctx : CallContext) (kind : ErrorKind ε)
    (work : Nat → σ → Performed σ ρ (Except ε α)) (maxRetries : UInt32) {clock : σ → ManualClock}
    {moved : Nat → σ → List Duration} {others : σ → Duration → Token → List Duration}
    (timed : OnManualClock env work clock moved others) (s : σ) {result : Except (RetryError ε) α}
    (returns : (run ⟨some policy⟩ env ctx kind work maxRetries s).result = .ok result) :
    let r : Retrier := ⟨some policy⟩
    let done := r.run env ctx kind work maxRetries s
    let next (j : Nat) := policy.next (UInt32.ofNat j)
    ∃ k rest,
      acts done.journal = (List.range k).flatMap (r.shown env ctx work s) ++
        .attempt k :: (acts (r.tried env ctx work s k).journal ++ rest) ∧
      (let waits := ((List.range k).map next).filter fun d => !d.isZero
       let besides := (List.range k).flatMap (r.spent env ctx work moved others s) ++
         moved k (r.startOf env ctx work s k)
       (clock done.state).sleeps = (clock s).sleeps ++ waits ∧
         (∀ j < k, ∀ left,
           ctx.remaining (env.now (r.tried env ctx work s j).state) = some left → next j < left) ∧
         ∀ attempts elapsed e, result = .error (.exhausted attempts elapsed e) →
           attempts = k + 1 ∧ elapsed.nanos = Duration.total waits + Duration.total besides) := by
  intro r done next
  obtain ⟨k, rest, -, earlier, hend, hj⟩ := r.run_course env ctx kind work maxRetries s
  rw [show (r.run env ctx kind work maxRetries s).result = .ok result from returns] at hend
  refine ⟨k, rest, hj, ?_, fun j hj left => (earlier j hj).room.shorter left, ?_⟩
  · rw [timed.ending hend, (timed.startOf earlier).1]
    rfl
  · rintro attempts elapsed e rfl
    exact ⟨(hend.last rfl).1, timed.elapsed earlier hend⟩

end Retrier

namespace Simulation

variable {ρ ε α : Type}

/-- What the next attempt of the script takes. -/
def cueAdvance (s : Simulation ε α) : List Duration := (s.cues.head?.map (·.advance)).toList

theorem sleep_waited {s u : Simulation ε α} {d : Duration} {t : Token} {done : Bool}
    (h : s.sleep d t = (.ok done, u)) : s.clock.Waited d done [(s.waits.headD {}).extra] u.clock := by
  rw [sleep_eq] at h
  rcases hc : (s.beforeWait t).clock.sleep d ((s.beforeWait t).flags.isCancelled t) with ⟨cause | done', m⟩ <;>
    rw [hc] at h
  · cases h
  rw [clock_beforeWait] at hc
  rcases hm : m.advance (s.waits.headD {}).extra with ⟨cause | _, m'⟩ <;>
    simp only [afterWait, advance, hm] at h <;> cases h
  rw [clock_cancelIf]
  exact ⟨[], _, _, _, _, rfl, .refl _, hc, .step hm (.refl _)⟩

theorem work_moved {missing : ε} {t : Token} {s u : Simulation ε α} {answer : Except ε α} {seen : List (Entry ρ)}
    (h : work missing t s = ⟨.ok answer, u, seen⟩) : s.clock.Moved s.cueAdvance u.clock := by
  unfold work perform at h
  unfold cueAdvance
  rcases hcues : s.cues with _ | ⟨cue, cues⟩ <;> simp only [hcues] at h
  · cases h
    exact .refl _
  · rcases hm : s.clock.advance cue.advance with ⟨cause | _, m⟩ <;>
      simp only [advance, hm, ite_self] at h <;> cases h
    rw [clock_cancelIf]
    exact .step hm (.refl _)

theorem onManualClock (missing : ε) (token : Token) :
    Retrier.OnManualClock surroundings (fun _ => work (α := α) (ρ := ρ) missing token) clock
      (fun _ s => s.cueAdvance) fun s _ _ => [(s.waits.headD {}).extra] where
  now _ := rfl
  slept := sleep_waited
  worked := work_moved

end Simulation

/-- Three attempts that take 5 ms, no time and 7 ms. The wait after the first one takes no time, and 1 ms passes
    besides in the wait after the second one. -/
theorem Retrier.time_law_exhausted :
    let env : Surroundings (Simulation String Unit) := Simulation.surroundings
    let work (_ : Nat) := Simulation.work (α := Unit) (ρ := Unit) "missing" ⟨0⟩
    let s : Simulation String Unit :=
      { cues := [5, 0, 7].map fun n => { advance := .ofMillis n, result := .error "down" }
        waits := [{ extra := .ofMillis 1 }] }
    let done := Retrier.run ⟨some .standard⟩ env ⟨none, ⟨0⟩⟩ ⟨fun e => e, fun _ => true⟩ work 2 s
    OnManualClock env work Simulation.clock (fun _ s => s.cueAdvance) (fun s _ _ => [(s.waits.headD {}).extra]) ∧
      done.result = .ok (.error (.exhausted 3 (.ofMillis 213) "down")) ∧
      done.state.clock.sleeps = [.ofMillis 200] ∧
      (Duration.ofMillis 213).nanos =
        Duration.total [.ofMillis 200] + Duration.total [.ofMillis 5, .ofMillis 0, .ofMillis 1, .ofMillis 7] := by
  intro env work s
  have timed : OnManualClock env work Simulation.clock (fun _ s => s.cueAdvance)
      (fun s _ _ => [(s.waits.headD {}).extra]) := Simulation.onManualClock "missing" ⟨0⟩
  have returns :
      (Retrier.run ⟨some .standard⟩ env ⟨none, ⟨0⟩⟩ ⟨fun e => e, fun _ => true⟩ work 2 s).result =
        .ok (.error (.exhausted 3 (.ofMillis 213) "down")) := eq_of_failure? (by decide +kernel)
  obtain ⟨k, rest, -, hsleeps, -, helapsed⟩ := time_law .standard env _ _ work 2 timed s returns
  obtain ⟨hk, htotal⟩ := helapsed _ _ _ rfl
  obtain rfl : k = 2 := Nat.succ.inj hk.symm
  exact ⟨timed, returns, hsleeps.trans (by decide +kernel), htotal.trans (by decide +kernel)⟩

end Resilience
