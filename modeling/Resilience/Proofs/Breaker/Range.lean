import Resilience.Proofs.Breaker.Totals

/-! The range of a breaker's counters. An operation adds at most one to each, whatever the breaker and whatever the
    instant, so numbers of 64 bits are enough for fewer than `2 ^ 64` operations (`within_length`). -/

namespace Resilience.Breaker

/-! ### Totals -/

/-- No total is beyond `n`. -/
structure Metrics.Within (n : Nat) (m : Metrics) : Prop where
  requests : m.requests ≤ n
  successes : m.successes ≤ n
  failures : m.failures ≤ n
  ignored : m.ignored ≤ n
  rejected : m.rejected ≤ n
  transitions : m.transitions ≤ n

namespace Metrics.Within
variable {n : Nat} {m : Metrics}

theorem succ (h : m.Within n) : m.Within (n + 1) :=
  ⟨Nat.le_succ_of_le h.requests, Nat.le_succ_of_le h.successes, Nat.le_succ_of_le h.failures,
    Nat.le_succ_of_le h.ignored, Nat.le_succ_of_le h.rejected, Nat.le_succ_of_le h.transitions⟩

/-- A change of phase is counted apart from everything else that an operation counts. -/
theorem noteChange {m' : Metrics} (h : m'.Within (n + 1)) (hm : m'.transitions ≤ n) (t : Option Transition)
    (now : Instant) : (m'.noteChange t now).Within (n + 1) := by
  unfold Metrics.noteChange
  split
  · exact ⟨h.requests, h.successes, h.failures, h.ignored, h.rejected, Nat.succ_le_succ hm⟩
  · exact h

theorem noteRefusal (h : m.Within n) : m.noteRefusal.Within (n + 1) :=
  { h.succ with rejected := Nat.succ_le_succ h.rejected }

theorem noteReport (h : m.Within n) (v : Verdict) (now : Instant) (latency : Duration) :
    (m.noteReport v now latency).Within (n + 1) := by
  have hrequests : m.requests + 1 ≤ n + 1 := Nat.succ_le_succ h.requests
  cases v with
  | ignored => exact { h.succ with requests := hrequests, ignored := Nat.succ_le_succ h.ignored }
  | success => exact { h.succ with requests := hrequests, successes := Nat.succ_le_succ h.successes }
  | failure => exact { h.succ with requests := hrequests, failures := Nat.succ_le_succ h.failures }

theorem note (h : m.Within n) (c : Config) (e : Event) (a : Answer) (t : Option Transition) :
    (m.note c e a t).Within (n + 1) := by
  obtain ⟨now, op⟩ := e
  cases op with
  | allow =>
    show ((if a = .permission true then m else m.noteRefusal).noteChange t now).Within (n + 1)
    split
    · exact h.succ.noteChange h.transitions t now
    · exact h.noteRefusal.noteChange h.transitions t now
  | report o =>
    refine (h.noteReport _ now o.latency).noteChange ?_ t now
    cases c.classify o <;> exact h.transitions
  | snapshot => exact h.succ.noteChange h.transitions t now
  | reset => exact ⟨Nat.zero_le _, Nat.zero_le _, Nat.zero_le _, Nat.zero_le _, Nat.zero_le _, Nat.zero_le _⟩

end Metrics.Within

/-! ### Counters -/

namespace State

/-- None of the counters on which a breaker acts is beyond `n`. -/
structure Within (n : Nat) (s : State) : Prop where
  failures : s.failures ≤ n
  successes : s.successes ≤ n
  reopens : s.reopens ≤ n
  inFlight : s.inFlight ≤ n

namespace Within
variable {n : Nat} {c : Config} {now : Instant} {o : Outcome} {s : State}

theorem succ (h : s.Within n) : s.Within (n + 1) :=
  ⟨Nat.le_succ_of_le h.failures, Nat.le_succ_of_le h.successes, Nat.le_succ_of_le h.reopens,
    Nat.le_succ_of_le h.inFlight⟩

theorem rollWindow (h : s.Within n) : (s.rollWindow c now).Within n := by
  rcases rollWindow_eq_or c now s with he | he
  · exact he.symm ▸ h
  · exact he ▸ ⟨Nat.zero_le _, Nat.zero_le _, h.reopens, h.inFlight⟩

theorem probe (h : s.Within n) : (s.probe now).Within n := ⟨Nat.zero_le _, Nat.zero_le _, h.reopens, Nat.zero_le _⟩

theorem addTrial (h : s.Within n) : s.addTrial.Within (n + 1) :=
  ⟨h.succ.failures, h.succ.successes, h.succ.reopens, Nat.succ_le_succ h.inFlight⟩

theorem enter (h : s.Within n) : (s.enter c now o).Within n := ⟨h.failures, h.successes, h.reopens, h.inFlight⟩

theorem release (h : s.Within n) : s.release.Within n :=
  ⟨h.failures, h.successes, h.reopens, Nat.le_trans (Nat.sub_le ..) h.inFlight⟩

theorem recover (s : State) : (s.recover c now).Within n :=
  ⟨Nat.zero_le _, Nat.zero_le _, Nat.zero_le _, Nat.zero_le _⟩

/-- Opening counts a failed trial period at most. -/
theorem trip (hfailures : s.failures ≤ n + 1) (hreopens : s.reopens ≤ n) : (s.trip c now).Within (n + 1) := by
  refine ⟨hfailures, Nat.zero_le _, ?_, Nat.zero_le _⟩
  show (if _ then s.reopens + 1 else s.reopens) ≤ n + 1
  split
  · exact Nat.succ_le_succ hreopens
  · exact Nat.le_succ_of_le hreopens

theorem allow (h : s.Within n) : (s.allow c now).state.Within (n + 1) := by
  cases hp : s.phase with
  | closed =>
    rw [allow_closed hp]
    exact h.rollWindow.succ
  | opened =>
    rw [allow_opened hp]
    split
    · exact h.probe.addTrial
    · exact ⟨h.succ.failures, h.succ.successes, h.succ.reopens, h.succ.inFlight⟩
  | halfOpen =>
    rw [allow_halfOpen hp]
    split
    · exact h.addTrial
    · exact ⟨h.succ.failures, h.succ.successes, h.succ.reopens, h.succ.inFlight⟩

theorem snapshot (h : s.Within n) : (s.snapshot c now).state.Within n := by
  cases hp : s.phase with
  | closed =>
    rw [snapshot_closed hp]
    exact h.rollWindow
  | opened =>
    rw [snapshot_opened hp]
    split
    · exact h.probe
    · exact h
  | halfOpen =>
    rw [snapshot_halfOpen hp]
    exact h

theorem report (h : s.Within n) : (s.report c now o).state.Within (n + 1) := by
  cases hp : s.phase with
  | closed =>
    have hr : ((s.rollWindow c now).enter c now o).Within n := h.rollWindow.enter
    rw [report_closed hp]
    cases c.classify o with
    | ignored => exact hr.succ
    | success => exact { hr.succ with successes := Nat.succ_le_succ hr.successes }
    | failure =>
      dsimp only
      split
      · exact trip (Nat.succ_le_succ hr.failures) hr.reopens
      · exact { hr.succ with failures := Nat.succ_le_succ hr.failures }
  | opened =>
    rw [report_opened hp]
    exact h.enter.succ
  | halfOpen =>
    have hr : (s.release.enter c now o).Within n := h.release.enter
    rw [report_halfOpen hp]
    cases c.classify o with
    | ignored => exact hr.succ
    | success =>
      dsimp only
      split
      · exact recover _
      · exact { hr.succ with successes := Nat.succ_le_succ hr.successes }
    | failure => exact trip hr.succ.failures hr.reopens

theorem reset (h : s.Within n) : (s.reset c now).state.Within n := by
  by_cases hp : s.phase = .closed
  · rw [reset_closed hp]
    exact ⟨Nat.zero_le _, Nat.zero_le _, h.reopens, h.inFlight⟩
  · rw [reset_of_ne hp]
    exact ⟨Nat.zero_le _, Nat.zero_le _, Nat.zero_le _, Nat.zero_le _⟩

theorem perform (h : s.Within n) (op : Operation) : (s.perform c now op).state.Within (n + 1) := by
  cases op with
  | allow => exact h.allow
  | report o => exact h.report
  | snapshot => exact h.snapshot.succ
  | reset => exact h.reset.succ

end Within

/-- The counters and totals of a breaker are at most as many as the operations on it. -/
theorem within_after {n : Nat} {s : State} (h : s.Within n) (hm : s.metrics.Within n) (c : Config)
    (history : List Event) :
    (s.after c history).Within (n + history.length) ∧ (s.after c history).metrics.Within (n + history.length) := by
  induction history generalizing n s with
  | nil => exact ⟨h, hm⟩
  | cons e history ih =>
    have hnote : (s.perform c e.1 e.2).state.metrics.Within (n + 1) := by
      rw [perform_metrics]
      exact hm.note ..
    have hlength : n + (e :: history).length = n + 1 + history.length := by
      rw [List.length_cons]
      omega
    rw [hlength]
    exact ih (h.perform e.2) hnote

/-- Whatever was done to a new breaker, no counter and no total is beyond the number of operations. -/
theorem within_length (c : Config) (start : Instant) (history : List Event) :
    let s := (fresh c start).after c history
    s.Within history.length ∧ s.metrics.Within history.length := by
  have hfresh : (fresh c start).Within 0 := ⟨Nat.le_refl _, Nat.le_refl _, Nat.le_refl _, Nat.le_refl _⟩
  have hmetrics : (fresh c start).metrics.Within 0 :=
    ⟨Nat.le_refl _, Nat.le_refl _, Nat.le_refl _, Nat.le_refl _, Nat.le_refl _, Nat.le_refl _⟩
  have h := within_after hfresh hmetrics c history
  rwa [Nat.zero_add] at h

end State
end Resilience.Breaker
