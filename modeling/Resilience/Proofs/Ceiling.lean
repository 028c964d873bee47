import Resilience.Proofs.Breaker.Outage
import Resilience.Proofs.Retry.Course

/-! The maximum of the exponential policy. Whatever double its power and its sum come to, the wait that is made
    of it does not exceed the maximum. A retry loop waits only as its policy says, and the open time of a
    breaker is always that of some number of failed trial periods, so the maximum bounds them too. -/

namespace Resilience

namespace Binary64

theorem ofNat_of_lt {n : Nat} (h : n < 1 <<< 53) : ofNat n = .finite false n 0 := if_pos h

theorem toCount_finite (m : Nat) (e : Int) :
    (toCount (.finite false m e)).toNat =
      min (if 0 ≤ e then m <<< e.toNat else m >>> (-e).toNat) (UInt64.size - 1) := by
  have fits (n : Nat) : min n (UInt64.size - 1) < UInt64.size :=
    Nat.lt_of_le_of_lt (Nat.min_le_right ..) (by decide)
  exact UInt64.toNat_ofNat_of_lt' (fits _)

/-- What is not greater than a whole number has no greater whole part. -/
theorem whole_le_of_not_lt {m n : Nat} {e : Int} (h : lt (.finite false n 0) (.finite false m e) = false) :
    (if 0 ≤ e then m <<< e.toNat else m >>> (-e).toNat) ≤ n := by
  have h : m <<< (e - min 0 e).toNat ≤ n <<< (0 - min 0 e).toNat := Nat.not_lt.mp (of_decide_eq_false h)
  split
  · rename_i he
    rw [Int.min_eq_left he] at h
    simpa using h
  · rename_i he
    rw [Int.min_eq_right (Int.le_of_not_le he), Int.sub_self, Int.zero_sub, Int.toNat_zero, Nat.shiftLeft_zero,
      Nat.shiftLeft_eq] at h
    rw [Nat.shiftRight_eq_div_pow]
    exact Nat.div_le_of_le_mul (Nat.mul_comm .. ▸ h)

/-- A double that is capped at a whole number counts at most that number, also where it is not a number at
    all. -/
theorem toCount_capped_le (x : Binary64) {n : Nat} (h : n < 1 <<< 53) : (x.capped (ofNat n)).toCount.toNat ≤ n := by
  rw [ofNat_of_lt h]
  have hbound : (toCount (.finite false n 0)).toNat ≤ n := by
    rw [toCount_finite]
    exact Nat.min_le_left ..
  cases x with
  | notANumber => exact hbound
  | infinite negative =>
    cases negative with
    | false => exact hbound
    | true => exact Nat.zero_le _
  | finite negative m e =>
    show (toCount (if lt (.finite false n 0) (.finite negative m e) then _ else _)).toNat ≤ n
    split
    · exact hbound
    · rename_i hlt
      cases negative with
      | true => exact Nat.zero_le _
      | false =>
        rw [toCount_finite]
        exact Nat.le_trans (Nat.min_le_left ..) (whole_le_of_not_lt (Bool.eq_false_iff.mpr hlt))

end Binary64

namespace BackoffPolicy

variable {longest : Duration}

/-- Whatever the power and the sum come to, the wait is at most the maximum. -/
theorem cappedWait_le (exact : longest.millis < 1 <<< 53) (millis : Float) : cappedWait millis longest ≤ longest := by
  have hcount := Binary64.toCount_capped_le (Binary64.ofFloat millis) exact
  calc (cappedWait millis longest).nanos
      = ((Binary64.ofFloat millis).capped (Binary64.ofNat longest.millis)).toCount.toNat * 1000000 := rfl
    _ ≤ longest.millis * 1000000 := Nat.mul_le_mul_right _ hcount
    _ ≤ longest.nanos := Nat.div_mul_le_self ..

theorem next_exponential_le (exact : longest.millis < 1 <<< 53) (initial : Duration) (factor : Float)
    (attempt : UInt32) : (exponential initial longest factor).next attempt ≤ longest := by
  unfold next
  split
  · exact Nat.zero_le _
  · exact cappedWait_le exact _

end BackoffPolicy

/-! ### Waits of a retry loop -/

namespace Retrier

variable {σ ρ ε α : Type} {d : Duration}

/-- The waits of a run are those that its policy gives, apart from waits of the work itself. -/
theorem wait_of_mem_run (r : Retrier) (env : Surroundings σ) (ctx : CallContext) (kind : ErrorKind ε)
    (work : Nat → σ → Performed σ ρ (Except ε α)) (maxRetries : UInt32) (s : σ)
    (hd : .sleep d ∈ (r.run env ctx kind work maxRetries s).journal) :
    (∃ j, d = r.nextInterval j) ∨ ∃ j t, .sleep d ∈ (work j t).journal := by
  obtain ⟨k, rest, -, -, hend, hj⟩ := r.run_course env ctx kind work maxRetries s
  have hd : .sleep d ∈ acts (r.run env ctx kind work maxRetries s).journal := List.mem_filter.mpr ⟨hd, rfl⟩
  have own {j : Nat} (h : .sleep d ∈ acts (r.tried env ctx work s j).journal) :
      ∃ j t, .sleep d ∈ (work j t).journal := ⟨j, _, (List.mem_filter.mp h).1⟩
  simp only [hj, List.mem_append, List.mem_flatMap, List.mem_cons, shown, reduceCtorEq, false_or] at hd
  rcases hd with ⟨j, -, hd | hd⟩ | hd | hd
  · exact .inr (own hd)
  · exact .inl ⟨j, Entry.sleep.inj (mem_waitEntries hd)⟩
  · exact .inr (own hd)
  · exact .inl ⟨k, Entry.sleep.inj (hend.eq_sleep hd)⟩

end Retrier

/-! ### Open times of a breaker -/

namespace Breaker

variable {c : Config}

/-- The open time in force is always that of some number of failed trial periods. -/
theorem State.Reopened.exists_after {s : State} (hs : Sound c s) (h : ∃ k, Reopened c k s) (history : List Event) :
    ∃ k, Reopened c k (s.after c history) := by
  induction history generalizing s with
  | nil => exact h
  | cons e history ih =>
    refine ih (hs.perform e.2) ?_
    by_cases hp : s.phase = .closed
    · exact ⟨0, (hs.reopened hp).perform_closed hp⟩
    · by_cases hp' : (s.perform c e.1 e.2).state.phase = .closed
      · exact ⟨0, Sound.reopened (hs.perform e.2) hp'⟩
      · obtain ⟨k, hk⟩ := h
        exact ⟨_, hk.perform hp hp'⟩

theorem State.exists_openTime (c : Config) (start : Instant) (history : List Event) :
    ∃ k, ((fresh c start).after c history).timeout = c.openTime k := by
  obtain ⟨k, hk⟩ := Reopened.exists_after (Sound.fresh c start) ⟨0, (Sound.fresh c start).reopened rfl⟩ history
  exact ⟨k, hk.timeout⟩

/-- The open time of a breaker is at most the configured one, or else the longest wait of its backoff. -/
theorem Config.openTime_le {longest : Duration} (h : ∀ attempt, c.openTimeoutBackoff.next attempt ≤ longest)
    (k : Nat) : c.openTime k ≤ max c.openTimeout longest := by
  unfold openTime
  split
  · exact Duration.le_max_left ..
  · exact Duration.max_le_max_left _ (h _)

end Breaker

/-- The exponential policy never waits longer than its maximum, whatever the factor is and whatever double the
    power and the sum come to, as long as the maximum's milliseconds are below `2 ^ 53`, where doubles are exact.
    So every wait of a retry loop with this policy is at most the maximum, and the open time of a breaker that it
    lengthens is at most the maximum or the configured open time, whichever is longer. -/
theorem BackoffPolicy.ceiling_law (initial longest : Duration) (exact : longest.millis < 1 <<< 53) (factor : Float) :
    let policy := exponential initial longest factor
    (∀ millis, cappedWait millis longest ≤ longest) ∧
      (∀ attempt, policy.next attempt ≤ longest) ∧
      (∀ {σ ρ ε α : Type} (env : Surroundings σ) (ctx : CallContext) (kind : ErrorKind ε)
        (work : Nat → σ → Performed σ ρ (Except ε α)) (maxRetries : UInt32) (s : σ) (d : Duration),
        .sleep d ∈ (Retrier.run ⟨some policy⟩ env ctx kind work maxRetries s).journal →
          d ≤ longest ∨ ∃ j t, .sleep d ∈ (work j t).journal) ∧
      ∀ (c : Breaker.Config) (start now : Instant) (history : List (Instant × Breaker.Operation)),
        c.openTimeoutBackoff = policy →
        let s := (Breaker.State.fresh c start).after c history
        s.timeout ≤ max c.openTimeout longest ∧
          (s.snapshot c now).result.timeout ≤ max c.openTimeout longest := by
  intro policy
  have capped : ∀ attempt, policy.next attempt ≤ longest := next_exponential_le exact initial factor
  refine ⟨cappedWait_le exact, capped, ?_, ?_⟩
  · intro σ ρ ε α env ctx kind work maxRetries s d hd
    refine (Retrier.wait_of_mem_run _ env ctx kind work maxRetries s hd).imp_left ?_
    rintro ⟨j, rfl⟩
    exact capped _
  · intro c start now history hc s
    have bounded (history : List Breaker.Event) :
        ((Breaker.State.fresh c start).after c history).timeout ≤ max c.openTimeout longest := by
      obtain ⟨k, hk⟩ := Breaker.State.exists_openTime c start history
      exact hk ▸ Breaker.Config.openTime_le (hc ▸ capped) k
    -- A snapshot shows the open time of the state that it leaves.
    have hseen : (s.snapshot c now).result.timeout =
        ((Breaker.State.fresh c start).after c (history ++ [(now, .snapshot)])).timeout := by
      rw [Breaker.State.after_append]
      rfl
    exact ⟨bounded history, hseen ▸ bounded _⟩

/-- A factor that is not a number, in a breaker that has been reopened once. -/
theorem BackoffPolicy.ceiling_law_reopened :
    let policy := exponential (.ofSeconds 1) (.ofSeconds 2) (0.0 / 0.0)
    let c : Breaker.Config :=
      { failureThreshold := 1, openTimeout := .ofMillis 500, openTimeoutBackoff := policy }
    let due : Instant := { nanos := 500000000 }
    let failure : Breaker.Operation := .report (.failure .zero)
    let s := (Breaker.State.fresh c .origin).after c [(.origin, failure), (due, .allow), (due, failure)]
    (Duration.ofSeconds 2).millis < 1 <<< 53 ∧ policy.next 40 ≤ .ofSeconds 2 ∧ s.reopens = 1 ∧
      s.timeout ≤ .ofSeconds 2 := by
  intro policy c due failure s
  have exact : (Duration.ofSeconds 2).millis < 1 <<< 53 := by decide
  obtain ⟨-, hnext, -, hopen⟩ := ceiling_law (.ofSeconds 1) (.ofSeconds 2) exact (0.0 / 0.0)
  obtain ⟨htimeout, -⟩ := hopen c .origin .origin [(.origin, failure), (due, .allow), (due, failure)] rfl
  have hmax : max c.openTimeout (.ofSeconds 2) = .ofSeconds 2 := by decide
  exact ⟨exact, hnext 40, by decide, hmax ▸ htimeout⟩

end Resilience
