import Resilience.Proofs.Breaker.Changes
import Resilience.Proofs.Backoff

/-! Outages. An outage begins when a closed breaker opens, and goes on through every trial period that
    fails, until the breaker is closed again. What one operation preserves within an outage is that the
    breaker's open time is that of the number of failed trial periods (`Reopened`). -/

namespace Resilience.Breaker

/-- How long a breaker stays open after `k` trial periods of an outage have failed. -/
def Config.openTime (c : Config) (k : Nat) : Duration :=
  if k = 0 then c.openTimeout
  else max c.openTimeout (c.openTimeoutBackoff.next (UInt32.ofNat (min k (UInt32.size - 1))))

namespace Config

variable {c : Config}

theorem openTimeout_le_openTime (c : Config) (k : Nat) : c.openTimeout ≤ c.openTime k := by
  unfold openTime
  split
  · exact Nat.le_refl _
  · exact Duration.le_max_left ..

/-- With a constant policy, which doubles, no failed trial period shortens the open time. -/
theorem openTime_mono {interval : Duration} (hb : c.openTimeoutBackoff = .constant interval) {j k : Nat}
    (h : j ≤ k) : c.openTime j ≤ c.openTime k := by
  by_cases hj : j = 0
  · rw [hj]
    exact openTimeout_le_openTime c k
  have hk : k ≠ 0 := by omega
  have hclamp : UInt32.ofNat (min j (UInt32.size - 1)) ≤ UInt32.ofNat (min k (UInt32.size - 1)) := by
    have hfits (n : Nat) : min n (UInt32.size - 1) < UInt32.size :=
      Nat.lt_of_le_of_lt (Nat.min_le_right ..) (by decide)
    rw [UInt32.le_iff_toNat_le, UInt32.toNat_ofNat_of_lt' (hfits j), UInt32.toNat_ofNat_of_lt' (hfits k)]
    omega
  simp only [openTime, hj, hk, ↓reduceIte, hb]
  exact Duration.max_le_max_left _ (BackoffPolicy.next_constant_mono interval hclamp)

end Config

namespace State

/-- Before the history, between its events and after it the breaker is not closed. -/
def Out (c : Config) (s : State) : List Event → Prop
  | [] => s.phase ≠ .closed
  | e :: rest => s.phase ≠ .closed ∧ Out c (s.perform c e.1 e.2).state rest

instance decidableOut (c : Config) : (s : State) → (history : List Event) → Decidable (s.Out c history)
  | s, [] => inferInstanceAs (Decidable (s.phase ≠ .closed))
  | s, e :: rest =>
    have := decidableOut c (s.perform c e.1 e.2).state rest
    inferInstanceAs (Decidable (s.phase ≠ .closed ∧ Out c (s.perform c e.1 e.2).state rest))

variable {c : Config} {s : State} {e : Event} {history : List Event}

theorem Out.head (h : s.Out c history) : s.phase ≠ .closed := by
  cases history with
  | nil => exact h
  | cons e rest => exact h.1

theorem Out.last (h : s.Out c history) : (s.after c history).phase ≠ .closed := by
  induction history generalizing s with
  | nil => exact h
  | cons e rest ih => exact ih h.2

theorem Out.of_append {first rest : List Event} (h : s.Out c (first ++ rest)) : s.Out c first := by
  induction first generalizing s with
  | nil => exact h.head
  | cons e first ih => exact ⟨h.1, ih h.2⟩

/-- `k` trial periods of the present outage have failed. -/
structure Reopened (c : Config) (k : Nat) (s : State) : Prop where
  reopens : s.reopens = k
  timeout : s.timeout = c.openTime k

/-- Only a report reopens a breaker. -/
theorem count_reopening_eq_zero {now : Instant} {op : Operation} (hop : ∀ o, op ≠ .report o) :
    (s.perform c now op).transition.toList.count ⟨.halfOpen, .opened⟩ = 0 := by
  rw [List.count_eq_zero]
  intro hmem
  rw [Option.mem_toList] at hmem
  rcases perform_inv c now op s with ⟨hn, -⟩ | ⟨t, hchange, ht, -, -⟩
  · rw [hmem] at hn
    cases hn
  · cases ht.symm.trans hmem
    obtain ⟨o, ho⟩ := Operation.opening_inv hchange rfl
    exact hop o ho

namespace Reopened

variable {k : Nat} {t : State}

theorem keep (h : Reopened c k s) (hr : t.reopens = s.reopens) (ht : t.timeout = s.timeout) : Reopened c k t :=
  ⟨hr.trans h.reopens, ht.trans h.timeout⟩

theorem trip (h : Reopened c k s) (hp : s.phase = .halfOpen) (now : Instant) :
    Reopened c (k + 1) (s.trip c now) := by
  have hr := h.reopens
  constructor <;> simp [State.trip, hp, hr, Config.openTime, reopenTimeout]

theorem allow (h : Reopened c k s) (hp : s.phase ≠ .closed) (now : Instant) :
    Reopened c k (s.allow c now).state := by
  cases hs : s.phase with
  | closed => exact absurd hs hp
  | opened =>
    rw [allow_opened hs]
    split <;> exact h.keep rfl rfl
  | halfOpen =>
    rw [allow_halfOpen hs]
    split <;> exact h.keep rfl rfl

theorem snapshot (h : Reopened c k s) (hp : s.phase ≠ .closed) (now : Instant) :
    Reopened c k (s.snapshot c now).state := by
  cases hs : s.phase with
  | closed => exact absurd hs hp
  | opened =>
    rw [snapshot_opened hs]
    split <;> exact h.keep rfl rfl
  | halfOpen =>
    rw [snapshot_halfOpen hs]
    exact h

theorem report (h : Reopened c k s) (hp : s.phase ≠ .closed) {now : Instant} {o : Outcome}
    (hp' : (s.report c now o).state.phase ≠ .closed) :
    Reopened c (k + (s.report c now o).transition.toList.count ⟨.halfOpen, .opened⟩)
      (s.report c now o).state := by
  cases hs : s.phase with
  | closed => exact absurd hs hp
  | opened =>
    rw [report_opened hs]
    exact h.keep rfl rfl
  | halfOpen =>
    have hr : Reopened c k (s.release.enter c now o) := h.keep rfl rfl
    rw [report_halfOpen hs] at hp' ⊢
    cases hv : c.classify o with
    | ignored => exact hr
    | success =>
      simp only [hv] at hp' ⊢
      split
      · rw [if_pos ‹_›] at hp'
        exact absurd rfl hp'
      · exact hr.keep rfl rfl
    | failure => exact hr.trip hs now

/-- An operation that does not close the breaker counts the trial period that it has ended, if it did. -/
theorem perform (h : Reopened c k s) (hp : s.phase ≠ .closed)
    (hp' : (s.perform c e.1 e.2).state.phase ≠ .closed) :
    Reopened c (k + (s.perform c e.1 e.2).transition.toList.count ⟨.halfOpen, .opened⟩)
      (s.perform c e.1 e.2).state := by
  obtain ⟨now, op⟩ := e
  cases op with
  | allow =>
    rw [count_reopening_eq_zero (by simp)]
    exact h.allow hp now
  | report o => exact h.report hp hp'
  | snapshot =>
    rw [count_reopening_eq_zero (by simp)]
    exact h.snapshot hp now
  | reset => exact absurd (reset_phase c now s) hp'

/-- Nothing that is done to a closed breaker lengthens its open time, opening it included. -/
theorem perform_closed (h : Reopened c 0 s) (hp : s.phase = .closed) :
    Reopened c 0 (s.perform c e.1 e.2).state := by
  obtain ⟨now, op⟩ := e
  have hrolled : Reopened c 0 (s.rollWindow c now) := by
    rcases rollWindow_eq_or c now s with he | he <;> rw [he]
    · exact h
    · exact h.keep rfl rfl
  cases op with
  | allow =>
    simp only [State.perform, Step.map, allow_closed hp]
    exact hrolled
  | snapshot =>
    simp only [State.perform, Step.map, snapshot_closed hp]
    exact hrolled
  | reset =>
    simp only [State.perform, Step.map, reset_closed hp]
    exact h.keep rfl rfl
  | report o =>
    have hr : Reopened c 0 ((s.rollWindow c now).enter c now o) := hrolled.keep rfl rfl
    have hrp : ((s.rollWindow c now).enter c now o).phase = .closed := (rollWindow_phase ..).trans hp
    simp only [State.perform, Step.map, report_closed hp]
    cases c.classify o with
    | ignored => exact hr
    | success => exact hr.keep rfl rfl
    | failure =>
      dsimp only
      split
      · exact ⟨by simp [State.trip, hrp, hr.reopens], by simp [State.trip, hrp, Config.openTime]⟩
      · exact hr.keep rfl rfl

theorem after (h : Reopened c k s) (out : s.Out c history) :
    Reopened c (k + (s.changes c history).count ⟨.halfOpen, .opened⟩) (s.after c history) := by
  induction history generalizing s k with
  | nil => exact h
  | cons e rest ih =>
    rw [after_cons, changes_cons, List.count_append, ← Nat.add_assoc]
    exact ih (h.perform out.1 out.2.head) out.2

end Reopened

theorem Sound.reopened (h : Sound c s) (hp : s.phase = .closed) : Reopened c 0 s :=
  ⟨(h.closed hp).reopens, (h.closed hp).timeout⟩

/-- An outage: `opening` opens the closed breaker `s`, which is not closed again through `during`. -/
structure Outage (c : Config) (s : State) (opening : Event) (during : List Event) : Prop where
  shut : s.phase = .closed
  out : (s.perform c opening.1 opening.2).state.Out c during

/-- Within an outage the open time is that of the number of its trial periods that have failed so far, which
    the breaker also shows; it is never shorter than the configured one, and with a policy that doubles it
    never shrinks. Whenever the breaker is closed again, by trials or by a reset, nothing of this is left:
    what then opens it begins with the configured open time. -/
theorem outage_law (c : Config) (start : Instant) (before : List Event) (opening : Event) (during : List Event)
    (h : Outage c ((fresh c start).after c before) opening during) :
    let u := (fresh c start).after c (before ++ [opening])
    let t := u.after c during
    let k := (u.changes c during).count ⟨.halfOpen, .opened⟩
    t.reopens = k ∧ t.timeout = c.openTime k ∧ c.openTimeout ≤ t.timeout ∧
      (∀ now, (t.snapshot c now).result.reopens = k ∧ (t.snapshot c now).result.timeout = c.openTime k) ∧
      (∀ interval, c.openTimeoutBackoff = .constant interval →
        ∀ first, first <+: during → (u.after c first).timeout ≤ t.timeout) ∧
      ∀ (rest : List Event) (again : Event), (t.after c rest).phase = .closed →
        let next := ((t.after c rest).perform c again.1 again.2).state
        (t.after c rest).reopens = 0 ∧ (t.after c rest).timeout = c.openTimeout ∧
          next.reopens = 0 ∧ next.timeout = c.openTimeout := by
  intro u t k
  have hs : Sound c ((fresh c start).after c before) := (Sound.fresh c start).after before
  have hu : u = (((fresh c start).after c before).perform c opening.1 opening.2).state := after_append ..
  have hout : u.Out c during := hu ▸ h.out
  have first : Reopened c 0 u := hu ▸ (hs.reopened h.shut).perform_closed h.shut
  have reopened {part : List Event} (hpart : u.Out c part) :
      Reopened c ((u.changes c part).count ⟨.halfOpen, .opened⟩) (u.after c part) := by
    simpa using first.after hpart
  have ht : Reopened c k t := reopened hout
  refine ⟨ht.reopens, ht.timeout, ?_, fun now => ?_, ?_, ?_⟩
  · rw [ht.timeout]
    exact c.openTimeout_le_openTime k
  · have hseen : Reopened c k (t.snapshot c now).state := ht.snapshot hout.last now
    exact ⟨hseen.reopens, hseen.timeout⟩
  · rintro interval hb part ⟨rest, rfl⟩
    rw [(reopened hout.of_append).timeout, ht.timeout]
    refine Config.openTime_mono hb ?_
    simp only [k, changes_append, List.count_append]
    exact Nat.le_add_right ..
  · intro rest again hclosed next
    have ht' : t.after c rest = (fresh c start).after c (before ++ [opening] ++ during ++ rest) := by
      simp only [t, u, after_append]
    have hsound : Sound c (t.after c rest) := ht' ▸ (Sound.fresh c start).after _
    have hr : Reopened c 0 (t.after c rest) := hsound.reopened hclosed
    have hnext : Reopened c 0 next := hr.perform_closed hclosed
    exact ⟨hr.reopens, hr.timeout, hnext.reopens, hnext.timeout⟩

/-- Two failed trial periods make three seconds of the open time of one second, however many late reports
    come in between. -/
theorem outage_law_two_reopenings :
    let c : Config :=
      { failureThreshold := 1, openTimeout := .ofSeconds 1, openTimeoutBackoff := .constant (.ofMillis 750) }
    let t₁ : Instant := { nanos := 1000000000 }
    let t₂ : Instant := { nanos := 2500000000 }
    let failure : Operation := .report (.failure .zero)
    let during : List Event :=
      [(t₁, failure), (t₁, .allow), (t₁, failure), (t₁, failure),
       (t₂, .snapshot), (t₂, failure), (t₂, failure)]
    let t := ((fresh c .origin).after c [(.origin, failure)]).after c during
    Outage c (fresh c .origin) (.origin, failure) during ∧ t.reopens = 2 ∧ t.timeout = .ofSeconds 3 := by
  intro c t₁ t₂ failure during t
  have h : Outage c (fresh c .origin) (.origin, failure) during := ⟨rfl, by decide⟩
  obtain ⟨hreopens, htimeout, -⟩ := outage_law c .origin [] (.origin, failure) during h
  exact ⟨h, hreopens.trans (by decide), htimeout.trans (by decide)⟩

end State
end Resilience.Breaker
