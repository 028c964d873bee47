import Resilience.Proofs.Breaker.Runs

/-! Trial periods. A trial period begins with the operation that finds the time of an open breaker over,
    and lasts as long as the breaker is half-open. Reports are not tied to trials: a call admitted long
    before may report in a trial period and then frees a trial of it. What bounds the permissions all
    the same is that every permission is still in flight, or was paid for by a report of the period
    (`Accounts`). -/

namespace Resilience.Breaker.State

/-- `opening` moves the open breaker `s` to half-open, where it stays through `during`. -/
structure TrialPeriod (c : Config) (s : State) (opening : Event) (during : List Event) : Prop where
  opened : s.phase = .opened
  stays : (s.perform c opening.1 opening.2).state.Stays c .halfOpen during

instance (c : Config) (s : State) (opening : Event) (during : List Event) :
    Decidable (TrialPeriod c s opening during) :=
  decidable_of_iff
    (s.phase = .opened ∧ (s.perform c opening.1 opening.2).state.Stays c .halfOpen during)
    ⟨fun h => ⟨h.1, h.2⟩, fun h => ⟨h.opened, h.stays⟩⟩

/-- How the counters of a breaker on trial moved from `s` to `t` while `events` were answered: each
    permission is in flight, or was turned into a success, or was freed by an ignored report. -/
structure Accounts (c : Config) (s t : State) (events : List Event) (answers : List Answer) : Prop where
  trials : granted answers + (s.successes + s.inFlight) ≤
    c.reports .ignored events + (t.successes + t.inFlight)
  successes : t.successes = s.successes + c.reports .success events
  failures : c.reports .failure events = 0

section
variable {c : Config} {s t u : State} {now : Instant} {e : Event}

namespace Accounts

theorem refl (c : Config) (s : State) : Accounts c s s [] [] :=
  ⟨Nat.le_refl _, rfl, rfl⟩

theorem trans {e : Event} {a : Answer} {events : List Event} {answers : List Answer}
    (h₁ : Accounts c s t [e] [a]) (h₂ : Accounts c t u events answers) :
    Accounts c s u (e :: events) (a :: answers) where
  trials := by
    have := h₁.trials
    have := h₂.trials
    rw [granted_cons a answers, Config.reports_cons e events]
    omega
  successes := by
    rw [h₂.successes, h₁.successes, Config.reports_cons e events]
    omega
  failures := by rw [Config.reports_cons e events, h₁.failures, h₂.failures]

end Accounts

/-! ### One event -/

theorem accounts_allow (hp : s.phase = .halfOpen) :
    Accounts c s (s.allow c now).state [(now, .allow)] [.permission (s.allow c now).result] := by
  have hr (v : Verdict) : c.reports v [(now, .allow)] = 0 := Config.reports_eq_zero_of_ne (by simp)
  rw [allow_halfOpen hp]
  split
  · exact ⟨by simp [granted, hr, addTrial]; omega, by simp [hr, addTrial], hr _⟩
  · exact ⟨by simp [granted, hr, reject], by simp [hr, reject], hr _⟩

/-- A report that keeps the breaker on trial is no failure, and frees at most the trial it pays for. -/
theorem accounts_report {o : Outcome} (hp : s.phase = .halfOpen)
    (hp' : (s.report c now o).state.phase = .halfOpen) :
    Accounts c s (s.report c now o).state [(now, .report o)] [.done] := by
  rw [report_halfOpen hp] at hp' ⊢
  cases hv : c.classify o with
  | ignored => exact ⟨by simp [granted, hv, release, enter]; omega, by simp [hv, release, enter], by simp [hv]⟩
  | success =>
    simp only [hv] at hp' ⊢
    split at hp'
    · simp [recover, mark] at hp'
    · rw [if_neg ‹_›]
      exact ⟨by simp [granted, hv, release, enter]; omega, by simp [hv, release, enter], by simp [hv]⟩
  | failure => simp [hv, trip, mark] at hp'

theorem accounts_perform (hp : s.phase = .halfOpen) (hp' : (s.perform c e.1 e.2).state.phase = .halfOpen) :
    Accounts c s (s.perform c e.1 e.2).state [e] [(s.perform c e.1 e.2).result] := by
  obtain ⟨now, op⟩ := e
  cases op with
  | allow => exact accounts_allow hp
  | report o => exact accounts_report hp hp'
  | snapshot =>
    have hr (v : Verdict) : c.reports v [(now, .snapshot)] = 0 := Config.reports_eq_zero_of_ne (by simp)
    simp only [perform, Step.map, snapshot_halfOpen hp]
    exact ⟨by simp [granted, hr], by simp [hr], hr _⟩
  | reset =>
    -- A reset ends the trial period.
    cases (reset_phase c now s).symm.trans hp'

/-- The permission that begins a trial period is the first trial of it; a snapshot begins one without. -/
theorem opening_perform (hp : s.phase = .opened) (hp' : (s.perform c e.1 e.2).state.phase = .halfOpen) :
    (s.perform c e.1 e.2).state.successes = 0 ∧
      granted [(s.perform c e.1 e.2).result] = (s.perform c e.1 e.2).state.inFlight ∧
      ∀ v, c.reports v [e] = 0 := by
  obtain ⟨now, op⟩ := e
  cases op with
  | allow =>
    simp only [perform, Step.map, allow_opened hp] at hp' ⊢
    split
    · exact ⟨rfl, rfl, fun v => Config.reports_eq_zero_of_ne (by simp)⟩
    · rename_i hd
      simp [hd, reject, hp] at hp'
  | report o => simp [perform, Step.map, report_opened hp, enter, hp] at hp'
  | snapshot =>
    simp only [perform, Step.map, snapshot_opened hp] at hp' ⊢
    split
    · exact ⟨rfl, rfl, fun v => Config.reports_eq_zero_of_ne (by simp)⟩
    · rename_i hd
      simp [hd, hp] at hp'
  | reset => cases (reset_phase c now s).symm.trans hp'

/-! ### A whole period -/

theorem Stays.accounts {events : List Event} (h : s.Stays c .halfOpen events) :
    Accounts c s (s.after c events) events (s.answers c events) := by
  induction events generalizing s with
  | nil => exact .refl c s
  | cons e rest ih => exact (accounts_perform h.1 h.2.head).trans (ih h.2)

/-- The counters at any point of a trial period: the successes are those reported in it, and the
    permissions given in it exceed neither the trials that close a breaker nor, beyond these, the
    reports ignored in it. -/
theorem TrialPeriod.accounts {opening : Event} {during : List Event} (h : TrialPeriod c s opening during) :
    (s.after c (opening :: during)).successes = c.reports .success during ∧
      granted (s.answers c (opening :: during)) ≤
        c.reports .ignored during +
          ((s.after c (opening :: during)).successes + (s.after c (opening :: during)).inFlight) ∧
      c.reports .failure during = 0 := by
  obtain ⟨hsucc, hgrant, -⟩ := opening_perform h.opened h.stays.head
  have ha := h.stays.accounts
  refine ⟨?_, ?_, ha.failures⟩
  · rw [after_cons, ha.successes, hsucc, Nat.zero_add]
  · have := ha.trials
    rw [answers, granted_cons, after_cons]
    omega

end

/-- In a trial period of a breaker, at most as many calls are permitted as successes close it, and one
    more for each report that was ignored. The success that makes their number full closes the breaker,
    the first failure opens it, and no other report ends the period. -/
theorem trialPeriod_law (c : Config) (start : Instant) (before : List Event) (opening : Event)
    (during : List Event) (h : TrialPeriod c ((fresh c start).after c before) opening during) :
    let s := (fresh c start).after c before
    let t := s.after c (opening :: during)
    let permitted := granted (s.answers c (opening :: during))
    permitted ≤ c.trialBudget + c.reports .ignored (opening :: during) ∧
      (c.failOnCancel → c.failOnDeadline → permitted ≤ c.trialBudget) ∧
      c.reports .failure (opening :: during) = 0 ∧
      ∀ now o, (t.report c now o).state.phase =
        match c.classify o with
        | .success =>
          if c.reports .success (opening :: during) + 1 = c.trialBudget then .closed else .halfOpen
        | .failure => .opened
        | .ignored => .halfOpen := by
  intro s t permitted
  have hreports (v : Verdict) : c.reports v (opening :: during) = c.reports v during := by
    rw [Config.reports_cons opening, (opening_perform h.opened h.stays.head).2.2 v, Nat.add_zero]
  simp only [hreports]
  obtain ⟨hsucc, htrials, hfail⟩ := h.accounts
  change t.successes = _ at hsucc
  change permitted ≤ _ + (t.successes + t.inFlight) at htrials
  have hp : t.phase = .halfOpen := h.stays.last
  have w : WhileOnTrial c t := ((Sound.fresh c start).after before).after (opening :: during) |>.halfOpen hp
  have hbound : permitted ≤ c.trialBudget + c.reports .ignored during := by
    have := w.room
    omega
  refine ⟨hbound, fun hc hd => ?_, hfail, fun now o => ?_⟩
  · rw [Config.reports_ignored hc hd] at hbound
    exact hbound
  · rw [report_halfOpen hp]
    cases hv : c.classify o with
    | ignored => exact hp
    | success =>
      have hs : t.successes < c.trialBudget := w.successes
      have hfull : c.trialBudget ≤ t.successes + 1 ↔ c.reports .success during + 1 = c.trialBudget := by
        rw [← hsucc]
        omega
      simp only [release, enter, hfull]
      split
      · rfl
      · exact hp
    | failure => rfl

/-- With two trials to a period, a late report that is ignored makes room for a third. -/
theorem trialPeriod_law_late_report :
    let c : Config :=
      { failureThreshold := 1, halfOpenMaxSuccesses := 2, openTimeout := .ofSeconds 1, failOnCancel := false }
    let later : Instant := { nanos := 1000000000 }
    let s := (fresh c .origin).after c [(.origin, .allow), (.origin, .report (.failure .zero))]
    let period : List Event :=
      [(later, .allow), (later, .allow), (later, .report (.cancellation .zero)), (later, .allow)]
    TrialPeriod c s (later, .allow) period.tail ∧ granted (s.answers c period) = 3 ∧
      granted (s.answers c period) ≤ 2 + 1 := by
  intro c later s period
  have h : TrialPeriod c s (later, .allow) period.tail := by decide
  exact ⟨h, by decide, (trialPeriod_law c .origin _ _ _ h).1⟩

end Resilience.Breaker.State
