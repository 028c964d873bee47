import Resilience.Proofs.Breaker.Step

/-! What holds of a breaker in each phase, whatever was asked of it and at whatever instants. Instants
    need not be in order: an operation may have read the clock before another one came first. -/

namespace Resilience.Breaker.State

/-- Nothing of an outage is left in a closed breaker, and its failures are too few to open it. -/
structure WhileClosed (c : Config) (s : State) : Prop where
  openedAt : s.openedAt = none
  reopens : s.reopens = 0
  timeout : s.timeout = c.openTimeout
  inFlight : s.inFlight = 0
  failures : s.failures < c.failureBudget

/-- An open breaker knows since when, has no trials, and still shows the failures that first opened it. -/
structure WhileOpen (c : Config) (s : State) : Prop where
  openedAt : s.openedAt.isSome
  successes : s.successes = 0
  inFlight : s.inFlight = 0
  failures : s.failures = if s.reopens = 0 then c.failureBudget else 0

/-- The trials in flight and those that succeeded never exceed the trials that close a breaker. -/
structure WhileOnTrial (c : Config) (s : State) : Prop where
  openedAt : s.openedAt.isSome
  failures : s.failures = 0
  successes : s.successes < c.trialBudget
  room : s.successes + s.inFlight ≤ c.trialBudget

structure Sound (c : Config) (s : State) : Prop where
  closed : s.phase = .closed → WhileClosed c s
  opened : s.phase = .opened → WhileOpen c s
  halfOpen : s.phase = .halfOpen → WhileOnTrial c s

variable {c : Config} {now : Instant} {o : Outcome} {s : State}

namespace Sound

theorem of_closed (hp : s.phase = .closed) (h : WhileClosed c s) : Sound c s :=
  ⟨fun _ => h, fun h' => by simp [hp] at h', fun h' => by simp [hp] at h'⟩

theorem of_opened (hp : s.phase = .opened) (h : WhileOpen c s) : Sound c s :=
  ⟨fun h' => by simp [hp] at h', fun _ => h, fun h' => by simp [hp] at h'⟩

theorem of_halfOpen (hp : s.phase = .halfOpen) (h : WhileOnTrial c s) : Sound c s :=
  ⟨fun h' => by simp [hp] at h', fun h' => by simp [hp] at h', fun _ => h⟩

theorem fresh (c : Config) (now : Instant) : Sound c (.fresh c now) :=
  of_closed rfl ⟨rfl, rfl, rfl, rfl, c.one_le_failureBudget⟩

/-! ### Elementary changes -/

theorem withMetrics (h : Sound c s) (m : Metrics) : Sound c { s with metrics := m } where
  closed hp := have w := h.closed hp; ⟨w.openedAt, w.reopens, w.timeout, w.inFlight, w.failures⟩
  opened hp := have w := h.opened hp; ⟨w.openedAt, w.successes, w.inFlight, w.failures⟩
  halfOpen hp := have w := h.halfOpen hp; ⟨w.openedAt, w.failures, w.successes, w.room⟩

theorem reject (h : Sound c s) : Sound c s.reject := h.withMetrics _

theorem enter (h : Sound c s) : Sound c (s.enter c now o) := h.withMetrics _

theorem rollWindow (h : Sound c s) : Sound c (s.rollWindow c now) := by
  by_cases hp : s.phase = .closed
  · rcases rollWindow_eq_or c now s with he | he
    · exact he.symm ▸ h
    · have w := h.closed hp
      exact he ▸ of_closed hp ⟨w.openedAt, w.reopens, w.timeout, w.inFlight, c.one_le_failureBudget⟩
  · rw [rollWindow_of_ne hp]
    exact h

theorem probe (h : Sound c s) (hp : s.phase = .opened) : Sound c (s.probe now) :=
  of_halfOpen rfl ⟨(h.opened hp).openedAt, rfl, c.one_le_trialBudget, Nat.zero_le _⟩

theorem addTrial (h : Sound c s) (hp : s.phase = .halfOpen)
    (room : s.successes + s.inFlight < c.trialBudget) : Sound c s.addTrial :=
  have w := h.halfOpen hp
  of_halfOpen hp ⟨w.openedAt, w.failures, w.successes, room⟩

theorem release (h : Sound c s) (hp : s.phase = .halfOpen) : Sound c s.release :=
  have w := h.halfOpen hp
  of_halfOpen hp ⟨w.openedAt, w.failures, w.successes,
    Nat.le_trans (Nat.add_le_add_left (Nat.sub_le _ _) _) w.room⟩

theorem recover (s : State) : Sound c (s.recover c now) :=
  of_closed rfl ⟨rfl, rfl, rfl, rfl, c.one_le_failureBudget⟩

/-- A first opening shows the failures that caused it. -/
theorem trip_closed (h : Sound c s) (hp : s.phase = .closed) (hf : s.failures + 1 = c.failureBudget) :
    Sound c ({ s with failures := s.failures + 1 }.trip c now) := by
  refine of_opened rfl ⟨rfl, rfl, rfl, ?_⟩
  have hr := (h.closed hp).reopens
  simp [trip, mark, hp, hr, hf]

/-- A reopening is never the first. -/
theorem trip_halfOpen (h : Sound c s) (hp : s.phase = .halfOpen) : Sound c (s.trip c now) := by
  refine of_opened rfl ⟨rfl, rfl, rfl, ?_⟩
  have hf := (h.halfOpen hp).failures
  simp [trip, mark, hp, hf]

/-! ### Operations -/

theorem allow (h : Sound c s) : Sound c (s.allow c now).state := by
  cases hp : s.phase with
  | closed =>
    rw [allow_closed hp]
    exact h.rollWindow
  | opened =>
    rw [allow_opened hp]
    split
    · exact (h.probe hp).addTrial rfl c.one_le_trialBudget
    · exact h.reject
  | halfOpen =>
    rw [allow_halfOpen hp]
    split
    · exact h.addTrial hp ‹_›
    · exact h.reject

theorem snapshot (h : Sound c s) : Sound c (s.snapshot c now).state := by
  cases hp : s.phase with
  | closed =>
    rw [snapshot_closed hp]
    exact h.rollWindow
  | opened =>
    rw [snapshot_opened hp]
    split
    · exact h.probe hp
    · exact h
  | halfOpen =>
    rw [snapshot_halfOpen hp]
    exact h

theorem report (h : Sound c s) : Sound c (s.report c now o).state := by
  cases hp : s.phase with
  | closed =>
    have hr : Sound c ((s.rollWindow c now).enter c now o) := h.rollWindow.enter
    have hrp : ((s.rollWindow c now).enter c now o).phase = .closed := (rollWindow_phase ..).trans hp
    have w := hr.closed hrp
    rw [report_closed hp]
    cases c.classify o with
    | ignored => exact hr
    | success => exact of_closed hrp ⟨w.openedAt, w.reopens, w.timeout, w.inFlight, w.failures⟩
    | failure =>
      dsimp only
      split
      · exact hr.trip_closed hrp (Nat.le_antisymm w.failures ‹_›)
      · exact of_closed hrp ⟨w.openedAt, w.reopens, w.timeout, w.inFlight, Nat.lt_of_not_le ‹_›⟩
  | opened =>
    rw [report_opened hp]
    exact h.enter
  | halfOpen =>
    have hr : Sound c (s.release.enter c now o) := (h.release hp).enter
    rw [report_halfOpen hp]
    cases c.classify o with
    | ignored => exact hr
    | success =>
      dsimp only
      split
      · exact recover _
      · -- The trial that is counted as a success is the one that ended, unless none was in flight.
        have w := h.halfOpen hp
        rename_i hlt
        have hlt : s.successes + 1 < c.trialBudget := Nat.lt_of_not_le hlt
        have hroom : s.successes + 1 + (s.inFlight - 1) ≤ c.trialBudget := by
          have := w.room
          omega
        exact of_halfOpen hp ⟨w.openedAt, w.failures, hlt, hroom⟩
    | failure => exact hr.trip_halfOpen hp

theorem reset (h : Sound c s) : Sound c (s.reset c now).state := by
  by_cases hp : s.phase = .closed
  · have w := h.closed hp
    rw [reset_closed hp]
    exact of_closed hp ⟨w.openedAt, w.reopens, w.timeout, w.inFlight, c.one_le_failureBudget⟩
  · rw [reset_of_ne hp]
    exact (fresh c now).withMetrics _

theorem perform (h : Sound c s) (op : Operation) : Sound c (s.perform c now op).state := by
  cases op with
  | allow => exact h.allow
  | report o => exact h.report
  | snapshot => exact h.snapshot
  | reset => exact h.reset

theorem after (h : Sound c s) (history : List (Instant × Operation)) : Sound c (s.after c history) := by
  induction history generalizing s with
  | nil => exact h
  | cons e history ih => exact ih (h.perform e.2)

theorem catchUp (h : Sound c s) : Sound c (s.catchUp c now).1 := h.snapshot

end Sound

/-- Whatever was done to a breaker and at whatever instants, its state is sound. An operation that finds it
    open when it looks at the clock knows since when it is, and where permission depends on the trials,
    their sum fits into 64 bits. -/
theorem representation_law (c : Config) (start : Instant) (history : List (Instant × Operation)) :
    let s := (fresh c start).after c history
    Sound c s ∧ ∀ now,
      ((s.rollWindow c now).phase = .opened → (s.rollWindow c now).openedAt.isSome) ∧
        ((s.catchUp c now).1.phase = .halfOpen →
          (s.catchUp c now).1.successes + (s.catchUp c now).1.inFlight < UInt64.size) := by
  intro s
  have hs : Sound c s := (Sound.fresh c start).after history
  refine ⟨hs, fun now => ⟨fun hp => ?_, fun hp => ?_⟩⟩
  · have hr : Sound c (s.rollWindow c now) := hs.rollWindow
    exact (hr.opened hp).openedAt
  · have hc : Sound c (s.catchUp c now).1 := hs.catchUp
    have room := (hc.halfOpen hp).room
    have hb := c.trialBudget_lt
    omega

end Resilience.Breaker.State
