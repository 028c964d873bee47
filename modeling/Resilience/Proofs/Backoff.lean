import Resilience.Backoff

/-! Waits of the constant policy. They double and, where the doubled interval or the power of two cannot be
    represented, stay at the longest duration; so they never shrink from one attempt to the next. -/

namespace Resilience

namespace Duration

theorem nanos_max (d e : Duration) : (max d e).nanos = max d.nanos e.nanos := by
  show (if d.nanos ≤ e.nanos then e else d).nanos = _
  split <;> omega

theorem le_max_left (d e : Duration) : d ≤ max d e := by
  show d.nanos ≤ (max d e).nanos
  rw [nanos_max]
  exact Nat.le_max_left ..

theorem max_le_max_left (c : Duration) {d e : Duration} (h : d ≤ e) : max c d ≤ max c e := by
  have h : d.nanos ≤ e.nanos := h
  show (max c d).nanos ≤ (max c e).nanos
  rw [nanos_max, nanos_max]
  omega

end Duration

namespace BackoffPolicy

/-- The doubled interval as long as it and the power of two can be represented, and else the longest
    duration. -/
theorem next_constant (interval : Duration) {attempt : UInt32} (h : attempt ≠ 0) :
    ((constant interval).next attempt).nanos =
      if attempt.toNat < 32 then min (interval.nanos <<< attempt.toNat) maxDurationNanos else maxDurationNanos := by
  by_cases few : attempt.toNat < 32
  · have hd : doublings? attempt = some (1 <<< attempt.toNat) := if_pos few
    simp only [next, h, ↓reduceIte, hd, Option.bind_some, few, Duration.mul?, Duration.ofNanos?,
      Nat.one_shiftLeft, ← Nat.shiftLeft_eq]
    split
    · exact (Nat.min_eq_left ‹_›).symm
    · exact (Nat.min_eq_right (Nat.le_of_not_le ‹_›)).symm
  · have hd : doublings? attempt = none := if_neg few
    simp only [next, h, ↓reduceIte, hd, Option.bind_none, few]
    rfl

theorem next_constant_mono (interval : Duration) {a b : UInt32} (h : a ≤ b) :
    (constant interval).next a ≤ (constant interval).next b := by
  by_cases ha : a = 0
  · subst ha
    exact Nat.zero_le _
  have h : a.toNat ≤ b.toNat := h
  have hb : b ≠ 0 := by
    rintro rfl
    exact ha (UInt32.toNat_inj.mp (Nat.le_zero.mp h))
  show ((constant interval).next a).nanos ≤ ((constant interval).next b).nanos
  rw [next_constant interval ha, next_constant interval hb]
  have hshift : interval.nanos <<< a.toNat ≤ interval.nanos <<< b.toNat := by
    rw [Nat.shiftLeft_eq, Nat.shiftLeft_eq]
    exact Nat.mul_le_mul_left _ (Nat.pow_le_pow_right (by decide) h)
  split
  · split
    · omega
    · exact Nat.min_le_right ..
  · have hmany : ¬b.toNat < 32 := by omega
    exact Nat.le_of_eq (if_neg hmany).symm

/-- The wait of the constant policy is the doubled interval, cut off at the longest duration, as long as the power
    of two fits in 32 bits. From then on it is the longest duration. -/
theorem doubling_law (interval : Duration) (attempt : UInt32) (later : 1 ≤ attempt) :
    let exact := Duration.clamp (interval.nanos * Nat.pow 2 attempt.toNat)
    let wait := (constant interval).next attempt
    exact ≤ wait ∧ (attempt.toNat < 32 → wait = exact) ∧
      (32 ≤ attempt.toNat → interval ≠ Duration.zero → wait = Duration.longest) := by
  intro exact wait
  have hne : attempt ≠ 0 := by
    rintro rfl
    exact absurd later (by decide)
  have hwait := next_constant interval hne
  have few (h : attempt.toNat < 32) : wait = exact := by
    rw [if_pos h, Nat.shiftLeft_eq] at hwait
    exact Duration.ext hwait
  have many (h : 32 ≤ attempt.toNat) : wait = Duration.longest := by
    rw [if_neg (Nat.not_lt.mpr h)] at hwait
    exact Duration.ext hwait
  refine ⟨?_, few, fun h _ => many h⟩
  rcases Nat.lt_or_ge attempt.toNat 32 with h | h
  · rw [few h]
    exact Nat.le_refl _
  · rw [many h]
    exact exact.nanos_le

/-- Five doublings of one second. -/
theorem doubling_law_fifth :
    (1 : UInt32) ≤ 5 ∧ (5 : UInt32).toNat < 32 ∧ (constant (.ofSeconds 1)).next 5 = .ofSeconds 32 := by
  obtain ⟨-, few, -⟩ := doubling_law (.ofSeconds 1) 5 (by decide)
  exact ⟨by decide, by decide, (few (by decide)).trans (by decide)⟩

/-- The fortieth power of two does not fit in 32 bits, but as many seconds are a duration. -/
theorem doubling_cut_short :
    ¬∀ (interval : Duration) (attempt : UInt32), 1 ≤ attempt →
      (constant interval).next attempt = Duration.clamp (interval.nanos * Nat.pow 2 attempt.toNat) := by
  intro h
  have hforty : (constant (.ofSeconds 1)).next 40 = Duration.longest := by decide
  exact absurd (hforty.symm.trans (h (.ofSeconds 1) 40 (by decide))) (by decide)

end BackoffPolicy
end Resilience
