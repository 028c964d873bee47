import Resilience.Breaker.History
import Resilience.Breaker.Observer

/-! What each operation of a breaker does, phase by phase. Proofs about breakers read these equations
    and do not open an operation; a change of one operation is a change of its equations here. -/

namespace Resilience.Breaker

/-- The failures of one window that open a closed breaker. -/
def Config.failureBudget (c : Config) : Nat := max c.failureThreshold.toNat 1

theorem Config.one_le_trialBudget (c : Config) : 1 ≤ c.trialBudget := Nat.le_max_right _ _

theorem Config.one_le_failureBudget (c : Config) : 1 ≤ c.failureBudget := Nat.le_max_right _ _

theorem Config.trialBudget_lt (c : Config) : c.trialBudget < UInt64.size :=
  Nat.max_lt.mpr ⟨c.halfOpenMaxSuccesses.toNat_lt_size, by decide⟩

def Metrics.noteReport (m : Metrics) (v : Verdict) (now : Instant) (latency : Duration) : Metrics :=
  let m := { m with requests := m.requests + 1, lastLatency := some latency }
  match v with
  | .ignored => { m with ignored := m.ignored + 1 }
  | .success => { m with successes := m.successes + 1, lastSuccess := some now }
  | .failure => { m with failures := m.failures + 1, lastFailure := some now }

namespace State

/-- Refuses a call: only the totals show it. -/
def reject (s : State) : State :=
  { s with metrics := { s.metrics with rejected := s.metrics.rejected + 1 } }

def addTrial (s : State) : State := { s with inFlight := s.inFlight + 1 }

def enter (c : Config) (now : Instant) (o : Outcome) (s : State) : State :=
  { s with metrics := s.metrics.noteReport (c.classify o) now o.latency }

/-- Ends one trial, if any is in flight. -/
def release (s : State) : State := { s with inFlight := s.inFlight - 1 }

variable {c : Config} {now : Instant} {o : Outcome} {s : State}

/-! ### Looking at the clock -/

theorem rollWindow_of_ne (h : s.phase ≠ .closed) : s.rollWindow c now = s := by
  simp [rollWindow, h]

theorem rollWindow_eq_or (c : Config) (now : Instant) (s : State) :
    s.rollWindow c now = s ∨
      s.rollWindow c now =
        { s with
          windowStart := windowBoundary c.counterResetInterval s.windowStart now
          failures := 0
          successes := 0 } := by
  unfold rollWindow
  split
  · exact .inl rfl
  · split
    · exact .inl rfl
    · exact .inr rfl

theorem rollWindow_inFlight : (s.rollWindow c now).inFlight = s.inFlight := by
  rcases rollWindow_eq_or c now s with he | he <;> rw [he]

theorem isDue_of_ne (h : s.phase ≠ .opened) : s.isDue now = false := by
  simp [isDue, h]

theorem catchUp_closed (h : s.phase = .closed) : s.catchUp c now = (s.rollWindow c now, none) := by
  have hd : (s.rollWindow c now).isDue now = false := isDue_of_ne (by simp [rollWindow_phase, h])
  simp [catchUp_eq, hd]

theorem catchUp_opened (h : s.phase = .opened) :
    s.catchUp c now =
      if s.isDue now then (s.probe now, some ⟨.opened, .halfOpen⟩) else (s, none) := by
  rw [catchUp_eq, rollWindow_of_ne (by simp [h])]

theorem catchUp_halfOpen (h : s.phase = .halfOpen) : s.catchUp c now = (s, none) := by
  have hr : s.rollWindow c now = s := rollWindow_of_ne (by simp [h])
  have hd : s.isDue now = false := isDue_of_ne (by simp [h])
  simp [catchUp_eq, hr, hd]

/-! ### Permission -/

theorem allow_closed (h : s.phase = .closed) : s.allow c now = ⟨true, s.rollWindow c now, none⟩ := by
  simp [allow, catchUp_closed h, rollWindow_phase, h]

/-- An open breaker refuses until its time is over; whoever asks then is the first trial. -/
theorem allow_opened (h : s.phase = .opened) :
    s.allow c now =
      if s.isDue now then ⟨true, (s.probe now).addTrial, some ⟨.opened, .halfOpen⟩⟩
      else ⟨false, s.reject, none⟩ := by
  have hb : 0 < c.trialBudget := c.one_le_trialBudget
  by_cases hd : s.isDue now = true
  · simp [allow, catchUp_opened h, hd, probe, mark, addTrial, hb]
  · simp [allow, catchUp_opened h, hd, h, reject]

theorem allow_halfOpen (h : s.phase = .halfOpen) :
    s.allow c now =
      if s.successes + s.inFlight < c.trialBudget then ⟨true, s.addTrial, none⟩
      else ⟨false, s.reject, none⟩ := by
  simp [allow, catchUp_halfOpen h, h, addTrial, reject]

/-! ### Snapshots -/

theorem snapshot_closed (h : s.phase = .closed) :
    s.snapshot c now = ⟨(s.rollWindow c now).view, s.rollWindow c now, none⟩ := by
  simp [snapshot, catchUp_closed h]

theorem snapshot_opened (h : s.phase = .opened) :
    s.snapshot c now =
      if s.isDue now then ⟨(s.probe now).view, s.probe now, some ⟨.opened, .halfOpen⟩⟩
      else ⟨s.view, s, none⟩ := by
  by_cases hd : s.isDue now = true <;> simp [snapshot, catchUp_opened h, hd]

theorem snapshot_halfOpen (h : s.phase = .halfOpen) : s.snapshot c now = ⟨s.view, s, none⟩ := by
  simp [snapshot, catchUp_halfOpen h]

theorem allow_phase (c : Config) (now : Instant) (s : State) :
    (s.allow c now).state.phase = (s.catchUp c now).1.phase := by
  unfold allow
  dsimp only
  split
  · rfl
  · rfl
  · split <;> rfl

theorem catchUp_phase_closed (h : (s.catchUp c now).1.phase = .closed) : s.phase = .closed := by
  cases hp : s.phase with
  | closed => rfl
  | opened =>
    rw [catchUp_opened hp] at h
    split at h
    · simp [probe, mark] at h
    · simp [hp] at h
  | halfOpen => simp [catchUp_halfOpen hp, hp] at h

/-! ### Reports -/

theorem report_closed (h : s.phase = .closed) :
    s.report c now o =
      let r := (s.rollWindow c now).enter c now o
      match c.classify o with
      | .ignored => ⟨(), r, none⟩
      | .success => ⟨(), { r with successes := r.successes + 1 }, none⟩
      | .failure =>
        let r := { r with failures := r.failures + 1 }
        if c.failureBudget ≤ r.failures then ⟨(), r.trip c now, some ⟨.closed, .opened⟩⟩
        else ⟨(), r, none⟩ := by
  have hp : (s.rollWindow c now).phase = .closed := by rw [rollWindow_phase, h]
  have hb (n : Nat) : c.failureBudget ≤ n + 1 ↔ c.failureThreshold.toNat ≤ n + 1 := by
    unfold Config.failureBudget
    omega
  cases hv : c.classify o <;>
    simp [report, receive, enter, Metrics.noteReport, hp, hv, noteIgnored, noteSuccess, noteFailure,
      succeed, fail, hb]
  split <;> rfl

theorem report_opened (h : s.phase = .opened) : s.report c now o = ⟨(), s.enter c now o, none⟩ := by
  have hr : s.rollWindow c now = s := rollWindow_of_ne (by simp [h])
  cases hv : c.classify o <;>
    simp [report, receive, enter, Metrics.noteReport, hr, h, hv, noteIgnored, noteSuccess, noteFailure,
      succeed, fail]

/-- During a trial period every report ends a trial, a success is counted, and a failure ends the
    period. -/
theorem report_halfOpen (h : s.phase = .halfOpen) :
    s.report c now o =
      let r := s.release.enter c now o
      match c.classify o with
      | .ignored => ⟨(), r, none⟩
      | .success =>
        let r := { r with successes := r.successes + 1 }
        if c.trialBudget ≤ r.successes then ⟨(), r.recover c now, some ⟨.halfOpen, .closed⟩⟩
        else ⟨(), r, none⟩
      | .failure => ⟨(), r.trip c now, some ⟨.halfOpen, .opened⟩⟩ := by
  have hr : s.rollWindow c now = s := rollWindow_of_ne (by simp [h])
  cases hv : c.classify o <;>
    simp [report, receive, enter, release, Metrics.noteReport, hr, h, hv, noteIgnored, noteSuccess,
      noteFailure, succeed, fail]
  split <;> rfl

theorem report_phase_ne (h : s.phase ≠ .halfOpen) : (s.report c now o).state.phase ≠ .halfOpen := by
  cases hp : s.phase with
  | closed =>
    have hr : (s.rollWindow c now).phase = .closed := by rw [rollWindow_phase, hp]
    rw [report_closed hp]
    cases c.classify o with
    | ignored | success => simp [enter, hr]
    | failure =>
      dsimp only
      split
      · simp [trip, mark]
      · simp [enter, hr]
  | opened => simp [report_opened hp, enter, hp]
  | halfOpen => exact absurd hp h

theorem report_closing (h : s.phase ≠ .closed) (h' : (s.report c now o).state.phase = .closed) :
    ∃ r : State, (s.report c now o).state = r.recover c now := by
  cases hp : s.phase with
  | closed => exact absurd hp h
  | opened => simp [report_opened hp, enter, hp] at h'
  | halfOpen =>
    rw [report_halfOpen hp] at h' ⊢
    cases hv : c.classify o with
    | ignored => simp [hv, enter, release, hp] at h'
    | success =>
      simp only [hv] at h' ⊢
      split at h'
      · rw [if_pos ‹_›]
        exact ⟨_, rfl⟩
      · simp [enter, release, hp] at h'
    | failure => simp [hv, trip, mark] at h'

/-! ### Resetting -/

theorem reset_closed (h : s.phase = .closed) :
    s.reset c now =
      ⟨(), { s with failures := 0, successes := 0, windowStart := now, metrics := { lastChange := some now } },
        none⟩ := by
  simp [reset, h]

/-- Resetting a breaker that is not closed leaves nothing of the outage. -/
theorem reset_of_ne (h : s.phase ≠ .closed) :
    s.reset c now =
      ⟨(), { fresh c now with metrics := { lastChange := some now } }, some ⟨s.phase, .closed⟩⟩ := by
  simp [reset, h, recover, mark, fresh]

theorem reset_phase (c : Config) (now : Instant) (s : State) : (s.reset c now).state.phase = .closed := by
  by_cases hp : s.phase = .closed
  · rw [reset_closed hp]
    exact hp
  · rw [reset_of_ne hp]
    rfl

end State
end Resilience.Breaker
