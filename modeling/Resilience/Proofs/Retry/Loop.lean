import Resilience.Retry

/-! The retry loop, turn by turn. A turn is one attempt and, if its failure may be repeated, the pause
    after it; the loop takes turns until one of them ends it. What every turn keeps, the loop keeps
    (`loop_rule`), and surroundings that differ only in what the loop does not look at give the same
    run (`run_mapState`). -/

namespace Resilience

/-- The same outcome with the surroundings seen through `f`. -/
def Performed.mapState {σ σ' ρ α : Type} (f : σ → σ') (p : Performed σ ρ α) : Performed σ' ρ α :=
  ⟨p.result, f p.state, p.journal⟩

/-- Seen through `f`, one kind of surroundings is another. -/
structure Surroundings.Mapped {σ σ' : Type} (f : σ → σ') (env : Surroundings σ) (env' : Surroundings σ') :
    Prop where
  now : ∀ s, env'.now (f s) = env.now s
  cancelled : ∀ s token, env'.cancelled (f s) token = env.cancelled s token
  sleep : ∀ s d token, env'.sleep (f s) d token = ((env.sleep s d token).1, f (env.sleep s d token).2)

namespace Retrier

variable {σ σ' ρ ε α : Type}

def announced (budget attempt : Nat) : List (Entry ρ) :=
  [.log .debug s!"Executing attempt {attempt + 1} of {min (budget + 1) (UInt32.size - 1)}", .attempt attempt]

def retrying (r : Retrier) (kind : ErrorKind ε) (attempt : Nat) (e : ε) : List (Entry ρ) :=
  [.log .warn s!"Attempt {attempt + 1} failed: {kind.describe e}. Retrying in {(r.nextInterval attempt).text}"]

/-- One turn with `left` retries to spare: how it ends the loop, if it does, the surroundings it leaves
    and its entries. -/
inductive Turn (r : Retrier) (env : Surroundings σ) (ctx : CallContext) (kind : ErrorKind ε)
    (work : Nat → σ → Performed σ ρ (Except ε α)) (budget : Nat) (started : Instant)
    (left attempt : Nat) (s : σ) :
    Except Overflow (Option (Except (RetryError ε) α)) → σ → List (Entry ρ) → Prop
  /-- Time arithmetic failed during the attempt. -/
  | broken {cause : Overflow} {t : σ} {seen : List (Entry ρ)}
    (hw : work attempt s = ⟨.error cause, t, seen⟩) :
    Turn r env ctx kind work budget started left attempt s (.error cause) t (announced budget attempt ++ seen)
  | succeeded {value : α} {t : σ} {seen : List (Entry ρ)}
    (hw : work attempt s = ⟨.ok (.ok value), t, seen⟩) :
    Turn r env ctx kind work budget started left attempt s (.ok (some (.ok value))) t
      (announced budget attempt ++ seen ++
        if 0 < attempt then [.log .info s!"Operation succeeded after {attempt + 1} attempts"] else [])
  | aborted {e : ε} {t : σ} {seen : List (Entry ρ)}
    (hw : work attempt s = ⟨.ok (.error e), t, seen⟩) (hr : kind.retryable e = false) :
    Turn r env ctx kind work budget started left attempt s (.ok (some (.error (.aborted (attempt + 1) e)))) t
      (announced budget attempt ++ seen ++
        [.log .debug s!"Operation failed with non-retryable error: {kind.describe e}"])
  | exhausted {e : ε} {t : σ} {seen : List (Entry ρ)}
    (hw : work attempt s = ⟨.ok (.error e), t, seen⟩) (hr : kind.retryable e = true) (hl : left = 0) :
    Turn r env ctx kind work budget started left attempt s
      (.ok (some (.error (.exhausted (attempt + 1) ((env.now t).since started) e)))) t
      (announced budget attempt ++ seen ++
        [.log .warn s!"Operation failed after {attempt + 1} attempts: {kind.describe e}"])
  | stuck {e : ε} {t u : σ} {seen rested : List (Entry ρ)} {cause : Overflow}
    (hw : work attempt s = ⟨.ok (.error e), t, seen⟩) (hr : kind.retryable e = true) (hl : left ≠ 0)
    (hp : rest env ctx (r.nextInterval attempt) t = ⟨.error cause, u, rested⟩) :
    Turn r env ctx kind work budget started left attempt s (.error cause) u
      (announced budget attempt ++ seen ++ r.retrying kind attempt e ++ rested)
  | interrupted {e : ε} {t u : σ} {seen rested : List (Entry ρ)} {cause : Interrupt}
    (hw : work attempt s = ⟨.ok (.error e), t, seen⟩) (hr : kind.retryable e = true) (hl : left ≠ 0)
    (hp : rest env ctx (r.nextInterval attempt) t = ⟨.ok (some cause), u, rested⟩) :
    Turn r env ctx kind work budget started left attempt s
      (.ok (some (.error (.interrupted (attempt + 1) cause e)))) u
      (announced budget attempt ++ seen ++ r.retrying kind attempt e ++ rested ++
        [.log .warn s!"Retry loop stopped: {cause.text}"])
  | again {e : ε} {t u : σ} {seen rested : List (Entry ρ)}
    (hw : work attempt s = ⟨.ok (.error e), t, seen⟩) (hr : kind.retryable e = true) (hl : left ≠ 0)
    (hp : rest env ctx (r.nextInterval attempt) t = ⟨.ok none, u, rested⟩) :
    Turn r env ctx kind work budget started left attempt s (.ok none) u
      (announced budget attempt ++ seen ++ r.retrying kind attempt e ++ rested)

variable {r : Retrier} {env : Surroundings σ} {env' : Surroundings σ'} {ctx : CallContext}
  {kind : ErrorKind ε} {work : Nat → σ → Performed σ ρ (Except ε α)} {budget : Nat} {started : Instant}

theorem rest_inv {delay : Duration} {s t : σ} {pause : Except Overflow (Option Interrupt)}
    {journal : List (Entry ρ)} (h : rest env ctx delay s = ⟨pause, t, journal⟩) :
    (t = s ∧ journal = []) ∨ (t = (env.sleep s delay ctx.token).2 ∧ journal = [.sleep delay]) := by
  unfold rest at h
  split at h
  · cases h
    exact .inl ⟨rfl, rfl⟩
  · cases h
    exact .inl ⟨rfl, rfl⟩
  · rcases hs : env.sleep s delay ctx.token with ⟨cause | _ | _, u⟩ <;> rw [hs] at h <;> cases h <;>
      exact .inr ⟨rfl, rfl⟩

/-- A view that shows neither log lines nor starts of attempts nor waits shows of a turn what its attempt
    leaves. -/
theorem Turn.filterMap_journal {β : Type} {view : Entry ρ → Option β}
    (hlog : ∀ level text, view (.log level text) = none) (hattempt : ∀ k, view (.attempt k) = none)
    (hsleep : ∀ d, view (.sleep d) = none) {left attempt : Nat} {s t : σ}
    {ended : Except Overflow (Option (Except (RetryError ε) α))} {journal : List (Entry ρ)}
    (h : Turn r env ctx kind work budget started left attempt s ended t journal) :
    journal.filterMap view = (work attempt s).journal.filterMap view := by
  have ha : (announced budget attempt : List (Entry ρ)).filterMap view = [] := by
    simp only [announced, List.filterMap_cons, hlog, hattempt, List.filterMap_nil]
  have hl (level : Level) (text : String) : [(.log level text : Entry ρ)].filterMap view = [] := by
    simp only [List.filterMap_cons, hlog, List.filterMap_nil]
  have hr (delay : Duration) {u v : σ} {pause : Except Overflow (Option Interrupt)} {rested : List (Entry ρ)}
      (hp : rest env ctx delay u = ⟨pause, v, rested⟩) : rested.filterMap view = [] := by
    rcases rest_inv hp with ⟨-, rfl⟩ | ⟨-, rfl⟩
    · rfl
    · simp only [List.filterMap_cons, hsleep, List.filterMap_nil]
  cases h with
  | broken hw => simp only [hw, List.filterMap_append, ha, List.nil_append]
  | succeeded hw =>
    simp only [hw, List.filterMap_append, ha, List.nil_append]
    split
    · rw [hl, List.append_nil]
    · exact List.append_nil _
  | aborted hw | exhausted hw => simp only [hw, List.filterMap_append, ha, hl, List.nil_append, List.append_nil]
  | stuck hw _ _ hp | interrupted hw _ _ hp | again hw _ _ hp =>
    simp only [hw, List.filterMap_append, ha, hl, retrying, hr _ hp, List.nil_append, List.append_nil]

theorem Turn.state_eq_or {left attempt : Nat} {s t : σ}
    {ended : Except Overflow (Option (Except (RetryError ε) α))} {journal : List (Entry ρ)}
    (h : Turn r env ctx kind work budget started left attempt s ended t journal) :
    t = (work attempt s).state ∨ ∃ delay, t = (env.sleep (work attempt s).state delay ctx.token).2 := by
  cases h with
  | broken hw | succeeded hw | aborted hw | exhausted hw => exact .inl (by rw [hw])
  | stuck hw _ _ hp | interrupted hw _ _ hp | again hw _ _ hp =>
    rw [hw]
    rcases rest_inv hp with ⟨ht, -⟩ | ⟨ht, -⟩
    · exact .inl ht
    · exact .inr ⟨_, ht⟩

/-- The loop takes a turn, and the remaining ones if that one did not end it. -/
theorem loop_turn (r : Retrier) (env : Surroundings σ) (ctx : CallContext) (kind : ErrorKind ε)
    (work : Nat → σ → Performed σ ρ (Except ε α)) (budget : Nat) (started : Instant)
    (left attempt : Nat) (s : σ) :
    ∃ ended t seen, Turn r env ctx kind work budget started left attempt s ended t seen ∧
      r.loop env ctx kind work budget started left attempt s =
        match ended with
        | .error cause => ⟨.error cause, t, seen⟩
        | .ok (some answer) => ⟨.ok answer, t, seen⟩
        | .ok none =>
          let more := r.loop env ctx kind work budget started (left - 1) (attempt + 1) t
          { more with journal := seen ++ more.journal } := by
  rw [loop]
  rcases hw : work attempt s with ⟨cause | e | value, t, seen⟩
  · exact ⟨_, _, _, .broken hw, rfl⟩
  · by_cases hr : kind.retryable e = true
    · cases left with
      | zero => exact ⟨_, _, _, .exhausted hw hr rfl, by simp only [hr]; rfl⟩
      | succ left =>
        rcases hp : (rest env ctx (r.nextInterval attempt) t : Performed σ ρ (Option Interrupt))
          with ⟨cause | _ | cause, u, rested⟩
        · exact ⟨_, _, _, .stuck hw hr (Nat.succ_ne_zero _) hp, by simp only [hr, hp]; rfl⟩
        · exact ⟨_, _, _, .again hw hr (Nat.succ_ne_zero _) hp, by simp only [hr, hp]; rfl⟩
        · exact ⟨_, _, _, .interrupted hw hr (Nat.succ_ne_zero _) hp, by simp only [hr, hp]; rfl⟩
    · exact ⟨_, _, _, .aborted hw (by simpa using hr), by simp only [hr]; rfl⟩
  · exact ⟨_, _, _, .succeeded hw, rfl⟩

/-- What holds before the loop, and is kept by every turn after which the loop goes on, leads to what a
    turn that ends the loop makes of it. `Keeps` speaks of the retries to spare, the attempts made, the
    surroundings and the entries so far. -/
theorem loop_rule (Keeps : Nat → Nat → σ → List (Entry ρ) → Prop)
    (Ends : Except Overflow (Except (RetryError ε) α) → σ → List (Entry ρ) → Prop)
    (goesOn : ∀ {left attempt s seen t more}, Keeps (left + 1) attempt s seen →
      Turn r env ctx kind work budget started (left + 1) attempt s (.ok none) t more →
      Keeps left (attempt + 1) t (seen ++ more))
    (answers : ∀ {left attempt s seen answer t more}, Keeps left attempt s seen →
      Turn r env ctx kind work budget started left attempt s (.ok (some answer)) t more →
      Ends (.ok answer) t (seen ++ more))
    (breaks : ∀ {left attempt s seen cause t more}, Keeps left attempt s seen →
      Turn r env ctx kind work budget started left attempt s (.error cause) t more →
      Ends (.error cause) t (seen ++ more))
    {left attempt : Nat} {s : σ} {seen : List (Entry ρ)} (h : Keeps left attempt s seen) :
    let done := r.loop env ctx kind work budget started left attempt s
    Ends done.result done.state (seen ++ done.journal) := by
  induction left generalizing attempt s seen with
  | zero =>
    obtain ⟨ended, t, more, hturn, he⟩ := loop_turn r env ctx kind work budget started 0 attempt s
    rw [he]
    match ended, hturn with
    | .error cause, hturn => exact breaks h hturn
    | .ok (some answer), hturn => exact answers h hturn
    | .ok none, .again _ _ hl _ =>
      -- Only a turn with retries to spare is followed by another one.
      exact absurd rfl hl
  | succ left ih =>
    obtain ⟨ended, t, more, hturn, he⟩ := loop_turn r env ctx kind work budget started (left + 1) attempt s
    rw [he]
    match ended, hturn with
    | .error cause, hturn => exact breaks h hturn
    | .ok (some answer), hturn => exact answers h hturn
    | .ok none, hturn =>
      have := ih (goesOn h hturn)
      simpa [List.append_assoc] using this

/-! ### Seeing less of the surroundings -/

variable {f : σ → σ'} {work' : Nat → σ' → Performed σ' ρ (Except ε α)}

theorem rest_mapState (hm : Surroundings.Mapped f env env') (delay : Duration) (s : σ) :
    (rest env' ctx delay (f s) : Performed σ' ρ (Option Interrupt)) = (rest env ctx delay s).mapState f := by
  unfold rest pause
  rw [hm.cancelled, hm.now, hm.sleep]
  split
  · rfl
  · rfl
  · rcases env.sleep s delay ctx.token with ⟨cause | _ | _, t⟩ <;> rfl

theorem loop_mapState (hm : Surroundings.Mapped f env env')
    (hw : ∀ attempt s, work' attempt (f s) = (work attempt s).mapState f) (left attempt : Nat) (s : σ) :
    r.loop env' ctx kind work' budget started left attempt (f s) =
      (r.loop env ctx kind work budget started left attempt s).mapState f := by
  induction left generalizing attempt s with
  | zero =>
    rw [loop, loop, hw]
    rcases work attempt s with ⟨cause | e | value, t, seen⟩
    · rfl
    · dsimp only [Performed.mapState]
      split
      · rfl
      · rw [hm.now]
    · rfl
  | succ left ih =>
    rw [loop, loop, hw]
    rcases work attempt s with ⟨cause | e | value, t, seen⟩
    · rfl
    · dsimp only [Performed.mapState]
      split
      · rfl
      · rw [rest_mapState hm]
        rcases (rest env ctx (r.nextInterval attempt) t : Performed σ ρ (Option Interrupt))
          with ⟨cause | _ | cause, u, rested⟩
        · rfl
        · dsimp only [Performed.mapState]
          rw [ih]
          rfl
        · rfl
    · rfl

theorem run_mapState (r : Retrier) (ctx : CallContext) (kind : ErrorKind ε)
    (hm : Surroundings.Mapped f env env')
    (hw : ∀ attempt s, work' attempt (f s) = (work attempt s).mapState f) (maxRetries : UInt32) (s : σ) :
    r.run env' ctx kind work' maxRetries (f s) = (r.run env ctx kind work maxRetries s).mapState f := by
  unfold run
  rw [hm.now]
  exact loop_mapState hm hw _ _ _

end Retrier
end Resilience
