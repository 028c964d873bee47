import Resilience.Proofs.Retry.Pause
import Resilience.Proofs.Simulation

/-! The course of a run. Attempts follow each other, each from the surroundings that the one before it and
    the wait after that have left (`startOf`). A run makes the attempts up to the first one that is not
    followed by another (`run_course`), and that one decides what the run comes to (`Ending`). -/

namespace Resilience

namespace Retrier

variable {σ ρ ε α : Type}

/-! ### Waits -/

/-- The context leaves room for the wait. -/
structure Room (env : Surroundings σ) (ctx : CallContext) (delay : Duration) (t : σ) : Prop where
  calm : env.cancelled t ctx.token = false
  shorter : ∀ left, ctx.remaining (env.now t) = some left → delay < left

/-- The context refuses the wait after an attempt that left `t`: for this cause, leaving these surroundings and
    these entries. -/
inductive Refusal (env : Surroundings σ) (ctx : CallContext) (delay : Duration) (t : σ) :
    Interrupt → σ → List (Entry ρ) → Prop
  | cancelled (hc : env.cancelled t ctx.token = true) : Refusal env ctx delay t .cancelled t []
  /-- The time that remains is not longer than the wait. -/
  | late {left : Duration} (hc : env.cancelled t ctx.token = false)
    (hr : ctx.remaining (env.now t) = some left) (hl : left ≤ delay) :
    Refusal env ctx delay t .deadlineExceeded t []
  /-- The wait has begun and is cut short. -/
  | cut {u : σ} (room : Room env ctx delay t) (hd : delay.isZero = false)
    (hs : env.sleep t delay ctx.token = (.ok false, u)) : Refusal env ctx delay t .cancelled u [.sleep delay]

/-- The surroundings after a wait. A wait that takes no time is not made. -/
def waited (env : Surroundings σ) (ctx : CallContext) (delay : Duration) (t : σ) : σ :=
  if delay.isZero then t else (env.sleep t delay ctx.token).2

def waitEntries (delay : Duration) : List (Entry ρ) := if delay.isZero then [] else [.sleep delay]

section
variable {env : Surroundings σ} {ctx : CallContext} {delay : Duration} {t u : σ}

theorem room_of_pause (h : ∀ cause, pause env ctx delay t ≠ .refused cause) : Room env ctx delay t where
  calm := not_cancelled_of_pause (h _)
  shorter left hr := by
    refine Nat.not_le.mp fun hl => h .deadlineExceeded ?_
    unfold pause
    rw [if_neg (by simp [not_cancelled_of_pause (h _)]), hr]
    exact if_pos hl

theorem refusal_of_pause {cause : Interrupt} (h : pause env ctx delay t = .refused cause) :
    Refusal env ctx delay t cause t ([] : List (Entry ρ)) := by
  cases cause with
  | cancelled => exact .cancelled (cancelled_of_pause h)
  | deadlineExceeded =>
    obtain ⟨left, hr, hl⟩ := remaining_le_of_pause h
    exact .late (not_cancelled_of_pause (by rw [h]; exact nofun)) hr hl

theorem pause_of_room (h : Room env ctx delay t) :
    pause env ctx delay t = if delay.isZero then .none else .wait := by
  unfold pause
  rw [if_neg (by simp [h.calm])]
  split
  · rename_i left hr
    exact if_neg (Nat.not_le.mpr (h.shorter left hr))
  · rfl

/-- What the pause after a failed attempt comes to: the wait is completed, or refused, or time arithmetic fails
    in it. -/
theorem rest_course {paused : Except Overflow (Option Interrupt)} {rested : List (Entry ρ)}
    (h : rest env ctx delay t = ⟨paused, u, rested⟩) :
    (paused = .ok none ∧ Room env ctx delay t ∧
        (delay.isZero = false → (env.sleep t delay ctx.token).1 = .ok true) ∧
        u = waited env ctx delay t ∧ rested = waitEntries delay) ∨
      (∃ cause, paused = .ok (some cause) ∧ Refusal env ctx delay t cause u rested) ∨
      ∃ cause, paused = .error cause ∧ Room env ctx delay t ∧ delay.isZero = false ∧
        env.sleep t delay ctx.token = (.error cause, u) ∧ rested = [.sleep delay] := by
  rcases rest_cases h with ⟨cause, hp, rfl, rfl, rfl⟩ | ⟨hp, rfl, rfl, rfl⟩ | ⟨hp, rfl, answer, hs, rfl⟩
  · exact .inr (.inl ⟨cause, rfl, refusal_of_pause hp⟩)
  · have room := room_of_pause (fun cause hc => by cases hp.symm.trans hc)
    have hd : delay.isZero = true := by
      cases hd : delay.isZero with
      | true => rfl
      | false => simp [pause_of_room room, hd] at hp
    exact .inl ⟨rfl, room, fun hd' => absurd (hd'.symm.trans hd) Bool.false_ne_true, (if_pos hd).symm,
      (if_pos hd).symm⟩
  · have room := room_of_pause (fun cause hc => by cases hp.symm.trans hc)
    have hd : delay.isZero = false := by
      cases hd : delay.isZero with
      | true => simp [pause_of_room room, hd] at hp
      | false => rfl
    rcases answer with cause | _ | _
    · exact .inr (.inr ⟨cause, rfl, room, hd, hs, rfl⟩)
    · exact .inr (.inl ⟨.cancelled, rfl, .cut room hd hs⟩)
    · refine .inl ⟨rfl, room, fun _ => congrArg Prod.fst hs, ?_, ?_⟩
      · rw [waited, hd]
        exact (congrArg Prod.snd hs).symm
      · rw [waitEntries, hd]
        rfl

theorem acts_waitEntries (delay : Duration) : acts (waitEntries delay : List (Entry ρ)) = waitEntries delay := by
  unfold waitEntries
  split <;> rfl

theorem mem_waitEntries {x : Entry ρ} (h : x ∈ waitEntries delay) : x = .sleep delay := by
  unfold waitEntries at h
  split at h
  · cases h
  · exact List.mem_singleton.mp h

theorem Refusal.acts {cause : Interrupt} {rest : List (Entry ρ)} (h : Refusal env ctx delay t cause u rest) :
    Resilience.acts rest = rest := by
  cases h <;> rfl

end

/-! ### Attempts -/

section
variable (r : Retrier) (env : Surroundings σ) (ctx : CallContext) (kind : ErrorKind ε)
  (work : Nat → σ → Performed σ ρ (Except ε α)) (budget : Nat) (s : σ)

/-- The surroundings in which attempt `k` starts, if every attempt before it is made and waited for. -/
def startOf : Nat → σ
  | 0 => s
  | k + 1 => waited env ctx (r.nextInterval k) (work k (startOf k)).state

/-- What attempt `k` comes to. -/
def tried (k : Nat) : Performed σ ρ (Except ε α) := work k (r.startOf env ctx work s k)

/-- The acts of attempt `k` and of the wait after it. -/
def shown (k : Nat) : List (Entry ρ) :=
  .attempt k :: (acts (r.tried env ctx work s k).journal ++ waitEntries (r.nextInterval k))

/-- Attempt `k` is followed by another one: it fails with an error that may be repeated, it is not the last
    one of the budget, and the wait after it is completed. -/
structure GoesOn (k : Nat) : Prop where
  failed : ∃ e, (r.tried env ctx work s k).result = .ok (.error e) ∧ kind.retryable e = true
  spare : k ≠ budget
  room : Room env ctx (r.nextInterval k) (r.tried env ctx work s k).state
  completed : (r.nextInterval k).isZero = false →
    (env.sleep (r.tried env ctx work s k).state (r.nextInterval k) ctx.token).1 = .ok true

/-- How a run ends with attempt `k`: its result, the surroundings it leaves, and the entries of a wait that
    was not completed. -/
inductive Ending (k : Nat) : Except Overflow (Except (RetryError ε) α) → σ → List (Entry ρ) → Prop
  /-- Time arithmetic fails in the attempt. -/
  | broken {cause : Overflow} {t : σ} {seen : List (Entry ρ)}
    (hw : r.tried env ctx work s k = ⟨.error cause, t, seen⟩) : Ending k (.error cause) t []
  | succeeded {value : α} {t : σ} {seen : List (Entry ρ)}
    (hw : r.tried env ctx work s k = ⟨.ok (.ok value), t, seen⟩) : Ending k (.ok (.ok value)) t []
  | aborted {e : ε} {t : σ} {seen : List (Entry ρ)}
    (hw : r.tried env ctx work s k = ⟨.ok (.error e), t, seen⟩) (hr : kind.retryable e = false) :
    Ending k (.ok (.error (.aborted (k + 1) e))) t []
  | exhausted {e : ε} {t : σ} {seen : List (Entry ρ)}
    (hw : r.tried env ctx work s k = ⟨.ok (.error e), t, seen⟩) (hr : kind.retryable e = true)
    (hk : k = budget) :
    Ending k (.ok (.error (.exhausted (k + 1) ((env.now t).since (env.now s)) e))) t []
  | interrupted {e : ε} {t : σ} {seen : List (Entry ρ)}
    (hw : r.tried env ctx work s k = ⟨.ok (.error e), t, seen⟩) (hr : kind.retryable e = true) (hk : k ≠ budget)
    {cause : Interrupt} {u : σ} {rest : List (Entry ρ)}
    (hp : Refusal env ctx (r.nextInterval k) t cause u rest) :
    Ending k (.ok (.error (.interrupted (k + 1) cause e))) u rest
  /-- Time arithmetic fails in the wait. -/
  | stuck {e : ε} {t : σ} {seen : List (Entry ρ)}
    (hw : r.tried env ctx work s k = ⟨.ok (.error e), t, seen⟩) (hr : kind.retryable e = true) (hk : k ≠ budget)
    (room : Room env ctx (r.nextInterval k) t) (hd : (r.nextInterval k).isZero = false) {cause : Overflow} {u : σ}
    (hs : env.sleep t (r.nextInterval k) ctx.token = (.error cause, u)) :
    Ending k (.error cause) u [.sleep (r.nextInterval k)]

/-- The loop comes to attempt `k`: every attempt before it is followed by another one. -/
structure Reached (k : Nat) (t : σ) (seen : List (Entry ρ)) : Prop where
  within : k ≤ budget
  start : t = r.startOf env ctx work s k
  earlier : ∀ j < k, r.GoesOn env ctx kind work budget s j
  entries : acts seen = (List.range k).flatMap (r.shown env ctx work s)

/-- A run makes its attempts up to `k` and ends with that one. -/
structure Course (k : Nat) (result : Except Overflow (Except (RetryError ε) α)) (u : σ)
    (rest journal : List (Entry ρ)) : Prop where
  within : k ≤ budget
  earlier : ∀ j < k, r.GoesOn env ctx kind work budget s j
  ending : r.Ending env ctx kind work budget s k result u rest
  entries : acts journal = (List.range k).flatMap (r.shown env ctx work s) ++
    .attempt k :: (acts (r.tried env ctx work s k).journal ++ rest)

end

section
variable {r : Retrier} {env : Surroundings σ} {ctx : CallContext} {kind : ErrorKind ε}
  {work : Nat → σ → Performed σ ρ (Except ε α)} {budget k : Nat} {s u : σ}
  {result : Except Overflow (Except (RetryError ε) α)} {rest : List (Entry ρ)}

theorem Refusal.not_completed {delay : Duration} {t : σ} {cause : Interrupt}
    (h : Refusal env ctx delay t cause u rest) (room : Room env ctx delay t) :
    delay.isZero = false ∧ (env.sleep t delay ctx.token).1 = .ok false := by
  cases h with
  | cancelled hc => exact absurd (room.calm.symm.trans hc) Bool.false_ne_true
  | late _ hr hl => exact absurd hl (Nat.not_le.mpr (room.shorter _ hr))
  | cut _ hd hs => exact ⟨hd, congrArg Prod.fst hs⟩

/-- An attempt that ends the run is not followed by another one. -/
theorem Ending.not_goesOn (h : r.Ending env ctx kind work budget s k result u rest) :
    ¬r.GoesOn env ctx kind work budget s k := by
  rintro ⟨⟨e, he, hr⟩, spare, room, completed⟩
  cases h with
  | broken hw | succeeded hw =>
    rw [hw] at he
    cases he
  | aborted hw hr' =>
    rw [hw] at he
    cases he
    exact Bool.false_ne_true (hr'.symm.trans hr)
  | exhausted _ _ hk => exact spare hk
  | interrupted hw _ _ hp =>
    rw [hw] at room completed
    obtain ⟨hd, hs⟩ := hp.not_completed room
    cases hs.symm.trans (completed hd)
  | stuck hw _ _ _ hd hs =>
    rw [hw] at completed
    cases (congrArg Prod.fst hs).symm.trans (completed hd)

/-- At the end of a run there is at most the wait after its last attempt. -/
theorem Ending.eq_sleep (h : r.Ending env ctx kind work budget s k result u rest) {x : Entry ρ} (hx : x ∈ rest) :
    x = .sleep (r.nextInterval k) := by
  cases h with
  | broken | succeeded | aborted | exhausted => cases hx
  | stuck => exact List.mem_singleton.mp hx
  | interrupted _ _ _ hp =>
    cases hp with
    | cancelled | late => cases hx
    | cut => exact List.mem_singleton.mp hx

/-- A turn from where attempt `k` starts: another one follows, or the run ends with it. -/
theorem Turn.course {ended : Except Overflow (Option (Except (RetryError ε) α))} {journal : List (Entry ρ)}
    (hk : k ≤ budget)
    (h : Turn r env ctx kind work budget (env.now s) (budget - k) k (r.startOf env ctx work s k) ended u journal) :
    (ended = .ok none ∧ r.GoesOn env ctx kind work budget s k ∧ u = r.startOf env ctx work s (k + 1) ∧
        acts journal = r.shown env ctx work s k) ∨
      ∃ result rest, ended = result.map some ∧ r.Ending env ctx kind work budget s k result u rest ∧
        acts journal = .attempt k :: (acts (r.tried env ctx work s k).journal ++ rest) := by
  have hstart : r.startOf env ctx work s (k + 1) =
      waited env ctx (r.nextInterval k) (r.tried env ctx work s k).state := rfl
  rw [hstart, shown]
  rcases hw : r.tried env ctx work s k with ⟨cause | e | value, t, seen⟩
  · obtain ⟨rfl, rfl, hj⟩ := h.of_overflow hw
    exact .inr ⟨_, [], rfl, .broken hw, by simpa using hj⟩
  · cases hr : kind.retryable e with
    | false =>
      obtain ⟨rfl, rfl, hj⟩ := h.of_final hw hr
      exact .inr ⟨_, [], rfl, .aborted hw hr, by simpa using hj⟩
    | true =>
      rcases h.of_retryable hw hr with ⟨hl, rfl, rfl, hj⟩ | ⟨hl, paused, rested, hrest, hj, rfl⟩
      · exact .inr ⟨_, [], rfl, .exhausted hw hr (by omega), by simpa using hj⟩
      · have spare : k ≠ budget := by omega
        rcases rest_course hrest with ⟨rfl, room, completed, rfl, rfl⟩ | ⟨cause, rfl, hp⟩ |
          ⟨cause, rfl, room, hd, hs, rfl⟩
        · rw [acts_waitEntries] at hj
          refine .inl ⟨rfl, ⟨⟨e, by rw [hw], hr⟩, spare, by rwa [hw], by rwa [hw]⟩, rfl, hj⟩
        · rw [hp.acts] at hj
          exact .inr ⟨_, _, rfl, .interrupted hw hr spare hp, hj⟩
        · exact .inr ⟨_, _, rfl, .stuck hw hr spare room hd hs, hj⟩
  · obtain ⟨rfl, rfl, hj⟩ := h.of_value hw
    exact .inr ⟨_, [], rfl, .succeeded hw, by simpa using hj⟩

theorem Reached.next {t : σ} {seen more : List (Entry ρ)} (h : r.Reached env ctx kind work budget s k t seen)
    (hturn : Turn r env ctx kind work budget (env.now s) (budget - k) k t (.ok none) u more) :
    r.Reached env ctx kind work budget s (k + 1) u (seen ++ more) := by
  obtain ⟨hk, rfl, earlier, hj⟩ := h
  rcases hturn.course hk with ⟨-, hgoes, rfl, hmore⟩ | ⟨result, rest, he, -⟩
  · refine ⟨Nat.lt_of_le_of_ne hk hgoes.spare, rfl, fun j hlt => ?_, ?_⟩
    · rcases Nat.lt_succ_iff_lt_or_eq.mp hlt with hlt | rfl
      · exact earlier j hlt
      · exact hgoes
    · rw [acts_append, hj, hmore, List.range_succ, List.flatMap_append, List.flatMap_singleton]
  · rcases result with cause | answer <;> cases he

theorem Reached.ends {t : σ} {seen more : List (Entry ρ)} (h : r.Reached env ctx kind work budget s k t seen)
    (hturn : Turn r env ctx kind work budget (env.now s) (budget - k) k t (result.map some) u more) :
    ∃ rest, r.Course env ctx kind work budget s k result u rest (seen ++ more) := by
  obtain ⟨hk, rfl, earlier, hj⟩ := h
  rcases hturn.course hk with ⟨he, -⟩ | ⟨result', rest, he, hend, hmore⟩
  · rcases result with cause | answer <;> cases he
  · obtain rfl : result' = result := by
      rcases result with cause | answer <;> rcases result' with cause' | answer' <;> cases he <;> rfl
    exact ⟨rest, hk, earlier, hend, by rw [acts_append, hj, hmore]⟩

/-- A run makes the attempts up to the first one that is not followed by another, each once and in order, and
    ends with that one. -/
theorem run_course (r : Retrier) (env : Surroundings σ) (ctx : CallContext) (kind : ErrorKind ε)
    (work : Nat → σ → Performed σ ρ (Except ε α)) (maxRetries : UInt32) (s : σ) :
    let budget := r.budget maxRetries
    let done := r.run env ctx kind work maxRetries s
    ∃ k rest, r.Course env ctx kind work budget s k done.result done.state rest done.journal := by
  intro budget done
  have start : r.Reached env ctx kind work budget s 0 s [] := ⟨Nat.zero_le _, rfl, nofun, rfl⟩
  refine loop_rule
    (fun left k t seen => left = budget - k ∧ r.Reached env ctx kind work budget s k t seen)
    (fun result u journal => ∃ k rest, r.Course env ctx kind work budget s k result u rest journal)
    ?goesOn ?answers ?breaks ⟨rfl, start⟩
  case goesOn =>
    rintro left k t seen u more ⟨hl, h⟩ hturn
    exact ⟨by omega, h.next (hl ▸ hturn)⟩
  case answers =>
    rintro left k t seen answer u more ⟨rfl, h⟩ hturn
    exact ⟨k, h.ends hturn⟩
  case breaks =>
    rintro left k t seen cause u more ⟨rfl, h⟩ hturn
    exact ⟨k, h.ends hturn⟩

/-! ### What a run comes to -/

/-- Nobody raises the flag while the attempts are made and waited for. -/
def Unraised (r : Retrier) (env : Surroundings σ) (ctx : CallContext)
    (work : Nat → σ → Performed σ ρ (Except ε α)) (s : σ) : Prop :=
  ∀ k, env.cancelled (r.startOf env ctx work s k) ctx.token = false ∧
    env.cancelled (r.tried env ctx work s k).state ctx.token = false

theorem Ending.last (h : r.Ending env ctx kind work budget s k result u rest) {failure : RetryError ε}
    (hf : result = .ok (.error failure)) :
    failure.attempts = k + 1 ∧ (r.tried env ctx work s k).result = .ok (.error failure.last) := by
  cases h with
  | broken | succeeded | stuck => cases hf
  | aborted hw | exhausted hw | interrupted hw =>
    cases hf
    exact ⟨rfl, by rw [hw]; rfl⟩

/-- Only time arithmetic leaves a run without a result. -/
theorem Ending.of_overflow (h : r.Ending env ctx kind work budget s k result u rest) {cause : Overflow}
    (hf : result = .error cause) :
    (r.tried env ctx work s k).result = .error cause ∨
      (env.sleep (r.tried env ctx work s k).state (r.nextInterval k) ctx.token).1 = .error cause := by
  cases h with
  | succeeded | aborted | exhausted | interrupted => cases hf
  | broken hw =>
    cases hf
    exact .inl (by rw [hw])
  | stuck hw _ _ _ _ hs =>
    cases hf
    exact .inr (by rw [hw]; exact congrArg Prod.fst hs)

theorem Refusal.cancelled_iff (honest : env.CutByFlag) {delay : Duration} {t : σ} {cause : Interrupt}
    (h : Refusal env ctx delay t cause u rest) : cause = .cancelled ↔ env.cancelled u ctx.token = true := by
  cases h with
  | cancelled hc => exact ⟨fun _ => hc, fun _ => rfl⟩
  | late hc => exact ⟨nofun, fun h => absurd (hc.symm.trans h) Bool.false_ne_true⟩
  | cut _ _ hs => exact ⟨fun _ => honest _ _ _ _ hs, fun _ => rfl⟩

theorem Ending.interrupted_inv (honest : env.CutByFlag)
    (h : r.Ending env ctx kind work budget s k result u rest) {attempts : Nat} {cause : Interrupt} {e : ε}
    (hi : result = .ok (.error (.interrupted attempts cause e))) :
    cause = .cancelled ↔ env.cancelled u ctx.token = true := by
  cases h with
  | broken | succeeded | aborted | exhausted | stuck => cases hi
  | interrupted _ _ _ hp =>
    cases hi
    exact hp.cancelled_iff honest

/-- Without a deadline and under a flag that nobody raises, no wait is refused. -/
theorem Unraised.not_refusal (honest : env.CutByFlag) (quiet : r.Unraised env ctx work s)
    (hd : ctx.deadline = none) {cause : Interrupt} :
    ¬Refusal env ctx (r.nextInterval k) (r.tried env ctx work s k).state cause u rest := by
  intro h
  cases h with
  | cancelled hc => exact absurd ((quiet k).2.symm.trans hc) Bool.false_ne_true
  | late _ hr =>
    rw [CallContext.remaining, hd] at hr
    cases hr
  | cut _ hz hs =>
    have hnext : r.startOf env ctx work s (k + 1) = u := by
      show waited env ctx (r.nextInterval k) (r.tried env ctx work s k).state = u
      rw [waited, hz]
      exact congrArg Prod.snd hs
    have hc := (quiet (k + 1)).1
    rw [hnext] at hc
    exact absurd (hc.symm.trans (honest _ _ _ _ hs)) Bool.false_ne_true

theorem Ending.unbounded (honest : env.CutByFlag) (quiet : r.Unraised env ctx work s) (hd : ctx.deadline = none)
    (hr : ∀ e, kind.retryable e = true) (h : r.Ending env ctx kind work budget s k result u rest)
    {failure : RetryError ε} (hf : result = .ok (.error failure)) :
    k = budget ∧ ∃ elapsed, failure = .exhausted (k + 1) elapsed failure.last := by
  cases h with
  | broken | succeeded | stuck => cases hf
  | @aborted e _ _ _ hr' => exact absurd ((hr e).symm.trans hr') nofun
  | exhausted _ _ hk =>
    cases hf
    exact ⟨hk, _, rfl⟩
  | @interrupted e t seen hw _ _ cause u rest hp =>
    have hp : Refusal env ctx (r.nextInterval k) (r.tried env ctx work s k).state cause u rest := by rwa [hw]
    exact absurd hp (quiet.not_refusal honest hd)

end

/-- A run makes its attempts one after the other, counting from zero, up to the first one that is not followed by
    another. It ends with that one: with its value, else with its error if that must not be repeated, else with
    the used-up budget, else with what refused the wait; that is a cancellation if the flag is raised, and an
    exceeded deadline if the time that remains is not longer than the wait. A failure carries the error of the
    last attempt, and only time arithmetic leaves a run without a result. A run that nobody bounds fails only
    with the used-up budget. -/
theorem run_law (r : Retrier) (env : Surroundings σ) (honest : env.CutByFlag) (ctx : CallContext)
    (kind : ErrorKind ε) (work : Nat → σ → Performed σ ρ (Except ε α)) (maxRetries : UInt32)
    (counted : maxRetries.toNat < UInt32.size - 1) (s : σ) :
    let budget := if r.isNever then 0 else maxRetries.toNat
    let done := r.run env ctx kind work maxRetries s
    (∃ k rest, (∀ j < k, r.GoesOn env ctx kind work budget s j) ∧ ¬r.GoesOn env ctx kind work budget s k ∧
      k ≤ budget ∧ k + 1 < UInt32.size ∧
      acts done.journal = (List.range k).flatMap (r.shown env ctx work s) ++
        .attempt k :: (acts (r.tried env ctx work s k).journal ++ rest) ∧
      r.Ending env ctx kind work budget s k done.result done.state rest ∧
      (∀ cause, done.result = .error cause → (r.tried env ctx work s k).result = .error cause ∨
        (env.sleep (r.tried env ctx work s k).state (r.nextInterval k) ctx.token).1 = .error cause) ∧
      (∀ attempts cause e, done.result = .ok (.error (.interrupted attempts cause e)) →
        (cause = .cancelled ↔ env.cancelled done.state ctx.token = true)) ∧
      ∀ failure, done.result = .ok (.error failure) →
        failure.attempts = k + 1 ∧ (r.tried env ctx work s k).result = .ok (.error failure.last)) ∧
    ∀ token describe (once : σ → Performed σ ρ (Except ε α)),
      r.Unraised env ⟨none, token⟩ (fun _ => once) s →
      ∀ failure, (r.runAlways env token describe once maxRetries s).result = .ok (.error failure) →
        ∃ elapsed, failure = .exhausted (budget + 1) elapsed failure.last := by
  intro budget done
  constructor
  · obtain ⟨k, rest, hk, earlier, hend, hj⟩ := r.run_course env ctx kind work maxRetries s
    have hk : k ≤ budget := hk
    have hsize : k + 1 < UInt32.size := by
      have : UInt32.size = 4294967296 := rfl
      have : budget ≤ maxRetries.toNat := by
        show (if r.isNever then 0 else maxRetries.toNat) ≤ maxRetries.toNat
        split <;> omega
      omega
    exact ⟨k, rest, earlier, hend.not_goesOn, hk, hsize, hj, hend, fun _ => hend.of_overflow,
      fun _ _ _ => hend.interrupted_inv honest, fun _ => hend.last⟩
  · intro token describe once quiet failure hf
    obtain ⟨k, rest, -, -, hend, -⟩ :=
      r.run_course env ⟨none, token⟩ ⟨describe, fun _ => true⟩ (fun _ => once) maxRetries s
    have hf : (r.run env ⟨none, token⟩ ⟨describe, fun _ => true⟩ (fun _ => once) maxRetries s).result =
      .ok (.error failure) := hf
    obtain ⟨hk, elapsed, he⟩ := hend.unbounded honest quiet rfl (fun _ => rfl) hf
    have hk : k = budget := hk
    exact ⟨elapsed, hk ▸ he⟩

/-- A caller who gives up while the second wait begins. -/
theorem run_law_cancelled :
    let env : Surroundings (Simulation String Unit) := Simulation.surroundings
    let r : Retrier := ⟨some (.constant (.ofMillis 100))⟩
    let ctx : CallContext := ⟨none, ⟨0⟩⟩
    let kind : ErrorKind String := ⟨fun e => e, fun _ => true⟩
    let s : Simulation String Unit := { waits := [{}, { cancelBefore := true }] }
    let done := r.run env ctx kind (fun _ => Simulation.work (ρ := Unit) "down" ctx.token) 5 s
    env.CutByFlag ∧ (5 : UInt32).toNat < UInt32.size - 1 ∧
      done.result = .ok (.error (.interrupted 3 .cancelled "down")) ∧
      env.cancelled done.state ctx.token = true := by
  intro env r ctx kind s done
  have honest : env.CutByFlag := Simulation.surroundings_cutByFlag
  have counted : (5 : UInt32).toNat < UInt32.size - 1 := by decide
  have hresult : done.result = .ok (.error (.interrupted 3 .cancelled "down")) := eq_of_failure? (by decide +kernel)
  obtain ⟨⟨k, rest, -, -, -, -, -, -, -, hcause, -⟩, -⟩ := run_law r env honest ctx kind
    (fun _ => Simulation.work (ρ := Unit) "down" ctx.token) 5 counted s
  exact ⟨honest, counted, hresult, (hcause _ _ _ hresult).mp rfl⟩

end Retrier
end Resilience
