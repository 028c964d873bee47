import Resilience.Proofs.Breaker.Runs

/-! Breakers whose callers keep the rules: every report is made for a call that was permitted and has
    not reported. Trials in flight are then calls under way, so a breaker on trial cannot be stuck with
    nobody to free it, and once no call is under way successful calls close it. -/

namespace Resilience.Breaker.State

/-- `InUse c start s n`: a breaker built at `start` is in state `s`, and `n` permitted calls have not
    reported. Calls outlive changes of phase and resets. -/
inductive InUse (c : Config) (start : Instant) : State → Nat → Prop
  | fresh : InUse c start (.fresh c start) 0
  | allow {s : State} {n : Nat} (now : Instant) (h : InUse c start s n) :
    InUse c start (s.allow c now).state (if (s.allow c now).result then n + 1 else n)
  | report {s : State} {n : Nat} (now : Instant) (o : Outcome) (h : InUse c start s (n + 1)) :
    InUse c start (s.report c now o).state n
  | snapshot {s : State} {n : Nat} (now : Instant) (h : InUse c start s n) :
    InUse c start (s.snapshot c now).state n
  | reset {s : State} {n : Nat} (now : Instant) (h : InUse c start s n) :
    InUse c start (s.reset c now).state n

variable {c : Config} {start now : Instant} {s : State} {n : Nat} {o : Outcome}

theorem InUse.sound (h : InUse c start s n) : Sound c s := by
  induction h with
  | fresh => exact .fresh c start
  | allow now _ ih => exact ih.allow
  | report now o _ ih => exact ih.report
  | snapshot now _ ih => exact ih.snapshot
  | reset now _ ih => exact ih.reset

/-! ### Trials in flight are calls under way -/

theorem Sound.inFlight_eq_zero (h : Sound c s) (hp : s.phase ≠ .halfOpen) : s.inFlight = 0 := by
  cases hs : s.phase with
  | closed => exact (h.closed hs).inFlight
  | opened => exact (h.opened hs).inFlight
  | halfOpen => exact absurd hs hp

theorem inFlight_allow_le (c : Config) (now : Instant) (s : State) :
    (s.allow c now).state.inFlight ≤ if (s.allow c now).result then s.inFlight + 1 else s.inFlight := by
  cases hp : s.phase with
  | closed =>
    rw [allow_closed hp]
    exact Nat.le_succ_of_le (Nat.le_of_eq rollWindow_inFlight)
  | opened =>
    rw [allow_opened hp]
    split
    · exact Nat.le_add_left 1 _
    · exact Nat.le_refl _
  | halfOpen =>
    rw [allow_halfOpen hp]
    split <;> exact Nat.le_refl _

theorem inFlight_report_le (now : Instant) (o : Outcome) (h : Sound c s) :
    (s.report c now o).state.inFlight ≤ s.inFlight - 1 := by
  by_cases hp : s.phase = .halfOpen
  · rw [report_halfOpen hp]
    cases c.classify o with
    | ignored => exact Nat.le_refl _
    | success =>
      dsimp only
      split
      · exact Nat.zero_le _
      · exact Nat.le_refl _
    | failure => exact Nat.zero_le _
  · -- A report never begins a trial period, and outside of one nothing is in flight.
    rw [h.report.inFlight_eq_zero (report_phase_ne hp)]
    exact Nat.zero_le _

theorem inFlight_snapshot_le (c : Config) (now : Instant) (s : State) :
    (s.snapshot c now).state.inFlight ≤ s.inFlight := by
  cases hp : s.phase with
  | closed =>
    rw [snapshot_closed hp]
    exact Nat.le_of_eq rollWindow_inFlight
  | opened =>
    rw [snapshot_opened hp]
    split
    · exact Nat.zero_le _
    · exact Nat.le_refl _
  | halfOpen => simp [snapshot_halfOpen hp]

theorem inFlight_reset_le (c : Config) (now : Instant) (s : State) :
    (s.reset c now).state.inFlight ≤ s.inFlight := by
  by_cases hp : s.phase = .closed
  · simp [reset_closed hp]
  · rw [reset_of_ne hp]
    exact Nat.zero_le _

theorem InUse.inFlight_le (h : InUse c start s n) : s.inFlight ≤ n := by
  induction h with
  | fresh => exact Nat.le_refl 0
  | @allow s n now _ ih =>
    have := inFlight_allow_le c now s
    split at this
    · rw [if_pos ‹_›]
      omega
    · rw [if_neg ‹_›]
      omega
  | report now o h ih =>
    have := inFlight_report_le now o h.sound
    omega
  | snapshot now _ ih => exact Nat.le_trans (inFlight_snapshot_le c now _) ih
  | reset now _ ih => exact Nat.le_trans (inFlight_reset_le c now _) ih

/-! ### A breaker that nobody is using -/

/-- Whether a call that is asked for at `now` passes once nobody is using the breaker. -/
def Passable (s : State) (now : Instant) : Prop := s.phase = .opened → s.isDue now = true

/-- The successful trials that still have to be made until the breaker is closed. -/
def owed (c : Config) (s : State) : Nat :=
  match s.phase with
  | .closed => 0
  | .opened => c.trialBudget
  | .halfOpen => c.trialBudget - s.successes

theorem owed_le (c : Config) (s : State) : s.owed c ≤ c.trialBudget := by
  unfold owed
  split
  · exact Nat.zero_le _
  · exact Nat.le_refl _
  · exact Nat.sub_le _ _

theorem Sound.closed_of_owed (h : Sound c s) (ho : s.owed c = 0) : s.phase = .closed := by
  unfold owed at ho
  split at ho
  · assumption
  · have := c.one_le_trialBudget
    omega
  · have := (h.halfOpen ‹_›).successes
    omega

/-- With no trial in flight only the open time stands in the way of a call. -/
theorem allow_result_iff (h : Sound c s) (idle : s.inFlight = 0) :
    (s.allow c now).result = true ↔ s.Passable now := by
  unfold Passable
  cases hp : s.phase with
  | closed => simp [allow_closed hp]
  | opened =>
    rw [allow_opened hp]
    split <;> simp_all
  | halfOpen =>
    have := (h.halfOpen hp).successes
    simp [allow_halfOpen hp, idle, this]

theorem owed_allow (hw : s.Passable now) :
    (s.allow c now).state.phase ≠ .opened ∧ (s.allow c now).state.owed c ≤ s.owed c := by
  cases hp : s.phase with
  | closed => simp [allow_closed hp, owed, rollWindow_phase, hp]
  | opened =>
    rw [allow_opened hp, if_pos (hw hp)]
    exact ⟨by simp [addTrial, probe, mark], by simpa [owed, hp] using owed_le c ((s.probe now).addTrial)⟩
  | halfOpen =>
    rw [allow_halfOpen hp]
    split <;> simp [owed, addTrial, reject, hp]

theorem owed_report (now : Instant) (hp : s.phase ≠ .opened) (ho : c.classify o = .success) :
    (s.report c now o).state.phase ≠ .opened ∧ (s.report c now o).state.owed c ≤ s.owed c - 1 := by
  cases hs : s.phase with
  | opened => exact absurd hs hp
  | closed => simp [report_closed hs, ho, owed, enter, rollWindow_phase, hs]
  | halfOpen =>
    rw [report_halfOpen hs, ho]
    dsimp only
    split
    · simp [recover, mark, owed]
    · simp [owed, release, enter, hs]
      omega

/-! ### Closing again -/

/-- A call that is asked for at one instant and reported as a success at another. -/
structure Trial where
  asked : Instant
  ended : Instant
  outcome : Outcome
  succeeded : outcome.succeeded = true

def Trial.events (t : Trial) : List Event := [(t.asked, .allow), (t.ended, .report t.outcome)]

theorem classify_of_succeeded (h : o.succeeded = true) : c.classify o = .success := by
  simp [Config.classify, h]

/-- The breaker once open time has passed, seen from the instant since which it is open. -/
theorem Sound.passable (h : Sound c s)
    (hd : ∀ since, s.phase = .opened → s.openedAt = some since →
      since.nanos + s.timeout.nanos ≤ now.nanos) : s.Passable now := by
  intro hp
  obtain ⟨since, hs⟩ := Option.isSome_iff_exists.mp (h.opened hp).openedAt
  have hle := hd since hp hs
  have : s.timeout ≤ now.since since := by
    show s.timeout.nanos ≤ (now.nanos - since.nanos).toNat
    omega
  simpa [isDue, hp, hs] using this

theorem InUse.trial (h : InUse c start s 0) (t : Trial) (hw : s.Passable t.asked) :
    s.answers c t.events = [.permission true, .done] ∧ InUse c start (s.after c t.events) 0 ∧
      (s.after c t.events).phase ≠ .opened ∧ (s.after c t.events).owed c ≤ s.owed c - 1 := by
  have idle : s.inFlight = 0 := Nat.le_zero.mp h.inFlight_le
  have hr : (s.allow c t.asked).result = true := (allow_result_iff h.sound idle).mpr hw
  have hallow := h.allow t.asked
  rw [if_pos hr] at hallow
  obtain ⟨hp, ho⟩ := owed_allow (c := c) hw
  obtain ⟨hp', ho'⟩ := owed_report t.ended hp (classify_of_succeeded t.succeeded)
  refine ⟨?_, hallow.report t.ended t.outcome, hp', Nat.le_trans ho' (Nat.sub_le_sub_right ho 1)⟩
  simp [Trial.events, answers, perform, Step.map, hr]

theorem InUse.trials (trials : List Trial) (h : InUse c start s 0)
    (hw : ∀ first ∈ trials.head?, s.Passable first.asked) :
    s.answers c (trials.flatMap Trial.events) = trials.flatMap (fun _ => [.permission true, .done]) ∧
      InUse c start (s.after c (trials.flatMap Trial.events)) 0 ∧
      (s.after c (trials.flatMap Trial.events)).owed c ≤ s.owed c - trials.length := by
  induction trials generalizing s with
  | nil => exact ⟨rfl, h, Nat.le_refl _⟩
  | cons t rest ih =>
    obtain ⟨hans, huse, hp, ho⟩ := h.trial t (hw t rfl)
    -- From now on the breaker is not open, so no instant matters.
    obtain ⟨hans', huse', ho'⟩ := ih huse fun _ _ hp' => absurd hp' hp
    rw [List.flatMap_cons, answers_append, after_append, hans, hans', List.flatMap_cons, List.length_cons]
    exact ⟨rfl, huse', by omega⟩

/-- A breaker on trial refuses only while a permitted call has not reported. Once none is left, and its
    open time is over if it is open, every call of a row of successful calls is permitted, and as many of
    them as there are trials to make close it and clear the outage. Of the instants only the first
    matters. -/
theorem InUse.recovers (h : InUse c start s n) :
    (∀ now, s.phase = .halfOpen → (s.allow c now).result = false → 0 < n) ∧
      (n = 0 → ∀ trials : List Trial,
        (∀ first ∈ trials.head?, ∀ since, s.phase = .opened → s.openedAt = some since →
          since.nanos + s.timeout.nanos ≤ first.asked.nanos) →
        let closed := s.after c (trials.flatMap Trial.events)
        s.answers c (trials.flatMap Trial.events) = trials.flatMap (fun _ => [.permission true, .done]) ∧
          (c.trialBudget ≤ trials.length →
            closed.phase = .closed ∧ closed.openedAt = none ∧ closed.reopens = 0 ∧
              closed.timeout = c.openTimeout)) := by
  refine ⟨fun now hp hr => ?_, ?_⟩
  · refine Nat.pos_of_ne_zero fun hn => ?_
    have idle : s.inFlight = 0 := Nat.le_zero.mp (hn ▸ h.inFlight_le)
    have hpass : (s.allow c now).result = true :=
      (allow_result_iff h.sound idle).mpr fun hp' => by simp [hp] at hp'
    simp [hr] at hpass
  · rintro rfl trials hfirst closed
    have hw : ∀ first ∈ trials.head?, s.Passable first.asked :=
      fun first hf => h.sound.passable (hfirst first hf)
    obtain ⟨hans, huse, ho⟩ := h.trials trials hw
    refine ⟨hans, fun hlen => ?_⟩
    have hs := owed_le c s
    have hp : closed.phase = .closed := huse.sound.closed_of_owed (by omega)
    have w := huse.sound.closed hp
    exact ⟨hp, w.openedAt, w.reopens, w.timeout⟩

/-- A breaker that one failed call has opened is closed by two successful ones, a second later. -/
theorem recovers_from_outage :
    let c : Config := { failureThreshold := 1, halfOpenMaxSuccesses := 2, openTimeout := .ofSeconds 1 }
    let later : Instant := { nanos := 1000000000 }
    let s := (fresh c .origin).after c [(.origin, .allow), (.origin, .report (.failure .zero))]
    let trial : Trial := ⟨later, later, .success .zero, rfl⟩
    InUse c .origin s 0 ∧ s.phase = .opened ∧ c.trialBudget ≤ [trial, trial].length ∧
      (s.after c ([trial, trial].flatMap Trial.events)).phase = .closed := by
  intro c later s trial
  have h : InUse c .origin s 0 :=
    InUse.report (s := ((fresh c .origin).allow c .origin).state) .origin (.failure .zero)
      (.allow .origin .fresh)
  have hdue : ∀ first ∈ [trial, trial].head?, ∀ since, s.phase = .opened → s.openedAt = some since →
      since.nanos + s.timeout.nanos ≤ first.asked.nanos := by
    rintro first hf since - hs
    cases hf
    cases hs
    decide
  exact ⟨h, by decide, by decide, ((h.recovers.2 rfl [trial, trial] hdue).2 (by decide)).1⟩

end Resilience.Breaker.State
