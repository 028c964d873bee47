import Resilience.Proofs.Breaker.Announcements

/-! The open time. From the report that opens a breaker until somebody asks or looks late enough, or
    resets it, nothing that is asked of the breaker or reported to it has an effect that can be seen,
    whatever the instants: every call is refused and every report comes too late. Only the totals go on. -/

namespace Resilience.Breaker

/-- Whether an event ends the quarantine of a breaker that is open since `since` for `timeout`: it resets
    the breaker, or it looks at the open time and finds it over. Reports do not look at it. -/
def Ends (since : Instant) (timeout : Duration) (e : Event) : Prop :=
  e.2 = .reset ∨ (e.2 = .allow ∨ e.2 = .snapshot) ∧ timeout ≤ e.1.since since

instance (since : Instant) (timeout : Duration) (e : Event) : Decidable (Ends since timeout e) :=
  inferInstanceAs (Decidable (e.2 = .reset ∨ (e.2 = .allow ∨ e.2 = .snapshot) ∧ timeout ≤ e.1.since since))

namespace State

structure Quarantined (since : Instant) (timeout : Duration) (s : State) : Prop where
  opened : s.phase = .opened
  openedAt : s.openedAt = some since
  timeout : s.timeout = timeout

variable {c : Config} {since now : Instant} {timeout : Duration}
  {s t : State} {e : Event}

theorem Quarantined.of_view (h : Quarantined since timeout s) (hv : t.view = s.view) :
    Quarantined since timeout t where
  opened := (congrArg Snapshot.phase hv).trans h.opened
  openedAt := (congrArg Snapshot.openedAt hv).trans h.openedAt
  timeout := (congrArg Snapshot.timeout hv).trans h.timeout

theorem Quarantined.isDue_iff (h : Quarantined since timeout s) :
    s.isDue now = true ↔ timeout ≤ now.since since := by
  simp [isDue, h.opened, h.openedAt, h.timeout]

/-- A report leaves everything as it is but the totals. -/
theorem Quarantined.perform (h : Quarantined since timeout s) (early : ¬Ends since timeout e) :
    (s.perform c e.1 e.2).transition = none ∧ (s.perform c e.1 e.2).result ≠ .permission true ∧
      (s.perform c e.1 e.2).state.view = s.view := by
  obtain ⟨now, op⟩ := e
  rw [Ends, not_or] at early
  obtain ⟨notReset, notLate⟩ := early
  have notDue (hop : op = .allow ∨ op = .snapshot) : ¬s.isDue now = true :=
    fun hd => notLate ⟨hop, h.isDue_iff.mp hd⟩
  cases op with
  | allow =>
    have he : s.perform c now .allow = ⟨.permission false, s.reject, none⟩ := by
      simp [State.perform, Step.map, allow_opened h.opened, notDue]
    rw [he]
    exact ⟨rfl, by simp, rfl⟩
  | snapshot =>
    have he : s.perform c now .snapshot = ⟨.seen s.view, s, none⟩ := by
      simp [State.perform, Step.map, snapshot_opened h.opened, notDue]
    rw [he]
    exact ⟨rfl, by simp, rfl⟩
  | report o =>
    have he : s.perform c now (.report o) = ⟨.done, s.enter c now o, none⟩ := by
      simp [State.perform, Step.map, report_opened h.opened]
    rw [he]
    exact ⟨rfl, by simp, rfl⟩
  | reset => exact absurd rfl notReset

theorem Quarantined.watched (ρ : Type) (name : String) (c : Config) (o : Observer) {quiet : List Occasion}
    (h : Quarantined since timeout s) (early : ∀ e ∈ quiet, ¬Ends since timeout e.event) :
    let w : Watched ρ := s.watched name c o quiet
    .permission true ∉ w.answers ∧ w.journal = [] ∧ w.state.view = s.view := by
  induction quiet generalizing s with
  | nil => exact ⟨List.not_mem_nil, rfl, rfl⟩
  | cons e rest ih =>
    obtain ⟨ht, hr, hv⟩ := h.perform (c := c) (early e List.mem_cons_self)
    obtain ⟨iha, ihj, ihv⟩ := ih (h.of_view hv) fun e he => early e (List.mem_cons_of_mem _ he)
    have hsettle : (s.perform c e.event.1 e.event.2).settle name (announceOn name c e.looks o) =
        ((s.perform c e.event.1 e.event.2).state, ([] : List (Entry ρ))) := by
      simp only [Step.settle, ht]
    simp only [State.watched, hsettle]
    refine ⟨?_, ihj, ihv.trans hv⟩
    rw [List.mem_cons, not_or]
    exact ⟨Ne.symm hr, iha⟩

/-- What opens a breaker is a report, and the breaker is then open since the instant of that report. -/
theorem quarantined_of_opening (hp : s.phase ≠ .opened) (hp' : (s.perform c e.1 e.2).state.phase = .opened) :
    Quarantined e.1 (s.perform c e.1 e.2).state.timeout (s.perform c e.1 e.2).state := by
  refine ⟨hp', ?_, rfl⟩
  obtain ⟨now, op⟩ := e
  have hreport : ∃ o, op = .report o := by
    rcases perform_inv c now op s with ⟨-, hsame⟩ | ⟨t, hmem, -, -, htarget⟩
    · exact absurd (hsame.symm.trans hp') hp
    · exact Operation.opening_inv hmem (htarget.trans hp')
  obtain ⟨o, rfl⟩ := hreport
  rcases report_inv c now o s with ⟨-, hsame⟩ | ⟨-, -, hclosed⟩ | ⟨-, -, -, hsince⟩
  · exact absurd (hsame.symm.trans hp') hp
  · have : Phase.closed = .opened := hclosed.symm.trans hp'
    cases this
  · exact hsince

/-- From the report that opens a breaker, at `entry.1`, until permission is asked for or a look is taken so
    late that the open time is over, or until a reset: whatever else is done at whatever instants, no call
    is permitted, nothing is logged or announced, and nothing that a snapshot shows changes. The first
    request for permission that is late enough, if nothing has ended the quarantine before, is itself
    permitted and begins a trial period. -/
theorem quarantine_law (ρ : Type) (name : String) (c : Config) (start : Instant) (o : Observer)
    (before : List Event) (entry : Event) (quiet : List Occasion)
    (shut : ((fresh c start).after c before).phase ≠ .opened)
    (opened : ((fresh c start).after c (before ++ [entry])).phase = .opened)
    (early : ∀ e ∈ quiet, ¬Ends entry.1 ((fresh c start).after c (before ++ [entry])).timeout e.event) :
    let s := (fresh c start).after c (before ++ [entry])
    let w : Watched ρ := s.watched name c o quiet
    s.openedAt = some entry.1 ∧ .permission true ∉ w.answers ∧ w.journal = [] ∧ w.state.view = s.view ∧
      ∀ now, s.timeout ≤ now.since entry.1 →
        (w.state.allow c now).result = true ∧
          (w.state.allow c now).transition = some ⟨.opened, .halfOpen⟩ ∧
          (w.state.allow c now).state.phase = .halfOpen := by
  intro s w
  have hs : s = (((fresh c start).after c before).perform c entry.1 entry.2).state := after_append ..
  have hq : Quarantined entry.1 s.timeout s := by
    change s.phase = .opened at opened
    rw [hs] at opened ⊢
    exact quarantined_of_opening shut opened
  obtain ⟨hanswers, hjournal, hview⟩ := hq.watched ρ name c o early
  refine ⟨hq.openedAt, hanswers, hjournal, hview, fun now late => ?_⟩
  have hq' : Quarantined entry.1 s.timeout w.state := hq.of_view hview
  rw [allow_opened hq'.opened, if_pos (hq'.isDue_iff.mpr late)]
  exact ⟨rfl, rfl, rfl⟩

/-- A breaker that opens at one second for a second refuses a call at almost two, whatever reports come in
    meanwhile, also one from before it opened, and permits a call at two. -/
theorem quarantine_law_late_reports :
    let c : Config := { failureThreshold := 1, openTimeout := .ofSeconds 1 }
    let entry : Event := ({ nanos := 1000000000 }, .report (.failure .zero))
    let second : Instant := { nanos := 2000000000 }
    let quiet : List Occasion :=
      [⟨(second, .report (.failure .zero)), fun _ => second⟩,
       ⟨(.origin, .report (.success .zero)), fun _ => second⟩,
       ⟨({ nanos := 1999999999 }, .allow), fun _ => second⟩]
    let s := (fresh c .origin).after c ([(.origin, .allow)] ++ [entry])
    let w : Watched Unit := s.watched "" c .polling quiet
    ((fresh c .origin).after c [(.origin, .allow)]).phase ≠ .opened ∧ s.phase = .opened ∧
      (∀ e ∈ quiet, ¬Ends entry.1 s.timeout e.event) ∧ .permission true ∉ w.answers ∧ w.journal = [] ∧
      (w.state.allow c second).result = true := by
  intro c entry second quiet s w
  have shut : ((fresh c .origin).after c [(.origin, .allow)]).phase ≠ .opened := by decide
  have opened : s.phase = .opened := by decide
  have early : ∀ e ∈ quiet, ¬Ends entry.1 s.timeout e.event := by decide
  obtain ⟨-, hanswers, hjournal, -, hpermits⟩ :=
    quarantine_law Unit "" c .origin .polling [(.origin, .allow)] entry quiet shut opened early
  exact ⟨shut, opened, early, hanswers, hjournal, (hpermits second (by decide)).1⟩

end State
end Resilience.Breaker
