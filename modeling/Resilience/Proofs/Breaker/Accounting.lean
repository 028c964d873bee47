import Resilience.Proofs.Breaker.Announcements
import Resilience.Proofs.Breaker.Totals

/-! The accounts of a breaker with a state observer. The totals begin when the breaker is built or reset.
    From then on each report is counted once, whatever the phase in which it arrives, each refusal once, and
    each change of phase that is announced once, those included that an observer's looks make (`Tallied`). -/

namespace Resilience.Breaker

/-- The outcomes that were reported, oldest first. -/
def outcomes (history : List Event) : List Outcome :=
  history.filterMap fun e =>
    match e.2 with
    | .report o => some o
    | _ => none

/-- The instants of the reports that count as `v`, in the order in which they were made. -/
def Config.moments (c : Config) (v : Verdict) (history : List Event) : List Instant :=
  history.filterMap fun e => if c.verdict? e = some v then some e.1 else none

theorem outcomes_append (first rest : List Event) : outcomes (first ++ rest) = outcomes first ++ outcomes rest :=
  List.filterMap_append

theorem Config.moments_append {c : Config} {v : Verdict} (first rest : List Event) :
    c.moments v (first ++ rest) = c.moments v first ++ c.moments v rest := List.filterMap_append

theorem length_outcomes (c : Config) (history : List Event) :
    (outcomes history).length =
      c.reports .success history + c.reports .failure history + c.reports .ignored history := by
  induction history with
  | nil => rfl
  | cons e rest ih =>
    obtain ⟨now, op⟩ := e
    cases op with
    | report o =>
      have hlen : (outcomes ((now, .report o) :: rest)).length = (outcomes rest).length + 1 := rfl
      have hsplit (v : Verdict) := Config.reports_cons (c := c) (v := v) (now, .report o) rest
      rw [hlen, ih, hsplit, hsplit, hsplit]
      cases hv : c.classify o <;> simp [hv] <;> omega
    | allow | snapshot | reset => simpa [outcomes, Config.reports, Config.verdict?] using ih

/-- From `m` on, the totals have grown to `m'` by what was asked of the breaker, what it answered, and the
    changes of phase it made. -/
structure Tallied (c : Config) (m m' : Metrics) (history : List Event) (replies : List Answer)
    (changes : List Transition) : Prop extends Grown c m m' history replies where
  transitions : m'.transitions = m.transitions + changes.length
  lastLatency : m'.lastLatency = ((outcomes history).getLast?.map (·.latency)).or m.lastLatency
  lastSuccess : m'.lastSuccess = (c.moments .success history).getLast?.or m.lastSuccess
  lastFailure : m'.lastFailure = (c.moments .failure history).getLast?.or m.lastFailure

namespace Tallied

variable {c : Config} {m m' m'' : Metrics} {history rest : List Event} {replies more : List Answer}
  {changes next : List Transition}

theorem refl (c : Config) (m : Metrics) : Tallied c m m [] [] [] := ⟨.refl c m, rfl, rfl, rfl, rfl⟩

theorem trans (h : Tallied c m m' history replies changes) (h' : Tallied c m' m'' rest more next) :
    Tallied c m m'' (history ++ rest) (replies ++ more) (changes ++ next) where
  toGrown := h.toGrown.trans h'.toGrown
  transitions := by rw [h'.transitions, h.transitions, List.length_append, Nat.add_assoc]
  lastLatency := by
    rw [h'.lastLatency, h.lastLatency, outcomes_append, List.getLast?_append, Option.map_or, Option.or_assoc]
  lastSuccess := by
    rw [h'.lastSuccess, h.lastSuccess, Config.moments_append, List.getLast?_append, Option.or_assoc]
  lastFailure := by
    rw [h'.lastFailure, h.lastFailure, Config.moments_append, List.getLast?_append, Option.or_assoc]

theorem noteChange (h : Tallied c m m' history replies []) (t : Option Transition) (now : Instant) :
    Tallied c m (m'.noteChange t now) history replies t.toList where
  toGrown := h.toGrown.noteChange t now
  transitions := by
    have := h.transitions
    cases t <;> simp_all [Metrics.noteChange]
  lastLatency := by cases t <;> exact h.lastLatency
  lastSuccess := by cases t <;> exact h.lastSuccess
  lastFailure := by cases t <;> exact h.lastFailure

theorem of_request {now : Instant} {op : Operation} {a : Answer} (h : Grown c m m' [(now, op)] [a])
    (hop : ∀ o, op ≠ .report o) (ht : m'.transitions = m.transitions) (hl : m'.lastLatency = m.lastLatency)
    (hs : m'.lastSuccess = m.lastSuccess) (hf : m'.lastFailure = m.lastFailure) :
    Tallied c m m' [(now, op)] [a] [] := by
  have houtcomes : outcomes [(now, op)] = [] := by
    cases op with
    | report o => exact absurd rfl (hop o)
    | allow | snapshot | reset => rfl
  have hmoments (v : Verdict) : c.moments v [(now, op)] = [] := by
    cases op with
    | report o => exact absurd rfl (hop o)
    | allow | snapshot | reset => rfl
  exact ⟨h, ht, by simp [houtcomes, hl], by simp [hmoments, hs], by simp [hmoments, hf]⟩

theorem noteReport (m : Metrics) (now : Instant) (o : Outcome) :
    Tallied c m (m.noteReport (c.classify o) now o.latency) [(now, .report o)] [.done] [] where
  toGrown := .noteReport m now o
  transitions := by cases c.classify o <;> rfl
  lastLatency := by cases c.classify o <;> rfl
  lastSuccess := by cases hv : c.classify o <;> simp [Config.moments, Config.verdict?, Metrics.noteReport, hv]
  lastFailure := by cases hv : c.classify o <;> simp [Config.moments, Config.verdict?, Metrics.noteReport, hv]

theorem perform (c : Config) (s : State) {e : Event} (he : e.2 ≠ .reset) :
    let step := s.perform c e.1 e.2
    Tallied c s.metrics step.state.metrics [e] [step.result] step.transition.toList := by
  intro step
  obtain ⟨now, op⟩ := e
  have hm : step.state.metrics = s.metrics.note c (now, op) step.result step.transition :=
    State.perform_metrics c (now, op) s
  rw [hm]
  cases op with
  | allow =>
    have hgranted : step.result = .permission (s.allow c now).result := rfl
    rw [hgranted]
    cases (s.allow c now).result with
    | true => exact (of_request (.of_silent now (by simp) (by simp)) (by simp) rfl rfl rfl rfl).noteChange _ now
    | false => exact (of_request (.noteRefusal s.metrics now) (by simp) rfl rfl rfl rfl).noteChange _ now
  | report o => exact (noteReport s.metrics now o).noteChange _ now
  | snapshot =>
    have hseen : step.result ≠ .permission false := by simp [step, State.perform, Step.map]
    exact (of_request (.of_silent now (by simp) hseen) (by simp) rfl rfl rfl rfl).noteChange _ now
  | reset => exact absurd rfl he

/-- Looks add nothing but the changes of phase that they make. -/
theorem of_looks (c : Config) (s : State) {looks : List Event} (h : ∀ e ∈ looks, e.2 = .snapshot) :
    Tallied c s.metrics (s.after c looks).metrics [] [] (s.changes c looks) := by
  induction looks generalizing s with
  | nil => exact refl c _
  | cons e looks ih =>
    have hlook : e = (e.1, .snapshot) := Prod.ext rfl (h e List.mem_cons_self)
    rw [hlook, State.after_cons, State.changes_cons]
    have hm : (s.perform c e.1 .snapshot).state.metrics = _ := State.perform_metrics c (e.1, .snapshot) s
    have first : Tallied c s.metrics (s.perform c e.1 .snapshot).state.metrics [] []
        (s.perform c e.1 .snapshot).transition.toList := by
      rw [hm]
      exact (refl c s.metrics).noteChange _ e.1
    exact first.trans (ih _ fun e he => h e (List.mem_cons_of_mem _ he))

theorem deed (c : Config) (o : Observer) (s : State) {e : Occasion} (he : e.event.2 ≠ .reset) :
    Tallied c s.metrics (s.after c (s.deed c o e)).metrics [e.event]
      [(s.perform c e.event.1 e.event.2).result] (s.changes c (s.deed c o e)) := by
  obtain ⟨looks, hdeed, hlooks, -⟩ := State.deed_inv c o s e
  rw [hdeed, State.after_cons, State.changes_cons]
  exact (perform c s he).trans (of_looks c _ hlooks)

theorem watched (ρ : Type) (name : String) (c : Config) (o : Observer) (s : State) {run : List Occasion}
    (kept : ∀ e ∈ run, e.event.2 ≠ .reset) :
    let w : Watched ρ := s.watched name c o run
    Tallied c s.metrics w.state.metrics (run.map (·.event)) w.answers (s.changes c (s.deeds c o run)) := by
  induction run generalizing s with
  | nil => exact refl c _
  | cons e rest ih =>
    have first := deed c o s (kept e List.mem_cons_self)
    have later := ih (s.after c (s.deed c o e)) fun e he => kept e (List.mem_cons_of_mem _ he)
    simp only [State.watched, State.settle_state, State.deeds, State.changes_append]
    exact first.trans later

/-- A run that is at its beginning, or that ends with a reset, leaves no totals. -/
theorem begun (ρ : Type) (name : String) (c : Config) (start : Instant) (o : Observer) {before : List Occasion}
    (h : ∀ last ∈ before.getLast?, last.event.2 = .reset) :
    let w : Watched ρ := (State.fresh c start).watched name c o before
    ∃ at?, Tallied c { lastChange := at? } w.state.metrics [] [] [] := by
  rcases List.eq_nil_or_concat before with rfl | ⟨earlier, last, rfl⟩
  · exact ⟨none, refl c _⟩
  · have hop : last.event.2 = .reset := h last (by simp)
    generalize hs : ((State.fresh c start).watched name c o earlier : Watched ρ).state = s
    obtain ⟨looks, hdeed, hlooks, hsilent⟩ := State.deed_inv c o s last
    rw [hop] at hsilent
    -- A reset leaves the breaker closed, and then the looks that follow it find nothing to change.
    have hclosed : (s.perform c last.event.1 .reset).state.phase = .closed :=
      State.reset_phase c last.event.1 s
    have quiet := of_looks c (s.perform c last.event.1 .reset).state hlooks
    rw [hsilent (by simp [hclosed])] at quiet
    refine ⟨some last.event.1, ?_⟩
    rw [List.concat_eq_append, State.watched_append, hs]
    simp only [State.watched, State.settle_state, hdeed, State.after_cons]
    rw [hop]
    exact quiet

end Tallied

namespace State

/-- The totals since a breaker was built or last reset, after a run `before` that is empty or ends with a
    reset, and a run `since` without one. -/
theorem metrics_law (ρ : Type) (name : String) (c : Config) (start : Instant) (o : Observer)
    (before since : List Occasion) (begun : ∀ last ∈ before.getLast?, last.event.2 = .reset)
    (kept : ∀ e ∈ since, e.event.2 ≠ .reset) :
    let s := ((fresh c start).watched name c o before : Watched ρ).state
    let w : Watched ρ := s.watched name c o since
    let history := since.map (·.event)
    let m := ((fresh c start).watched name c o (before ++ since) : Watched ρ).state.metrics
    m.requests = (outcomes history).length ∧
      m.requests = m.successes + m.failures + m.ignored ∧
      m.successes = c.reports .success history ∧ m.failures = c.reports .failure history ∧
      m.rejected = w.answers.count (.permission false) ∧
      m.transitions = (s.changes c (s.deeds c o since)).length ∧
      (o ≠ .absent → m.transitions = (notices w.journal).length) ∧
      m.lastLatency = (outcomes history).getLast?.map (·.latency) ∧
      m.lastSuccess = (c.moments .success history).getLast? ∧
      m.lastFailure = (c.moments .failure history).getLast? := by
  intro s w history m
  have hm : m = w.state.metrics := by
    simp only [m, watched_append]
    rfl
  obtain ⟨at?, hbegun⟩ := Tallied.begun ρ name c start o begun
  have h : Tallied c { lastChange := at? } m history w.answers (s.changes c (s.deeds c o since)) := by
    rw [hm]
    exact hbegun.trans (Tallied.watched ρ name c o s kept)
  have hrequests := h.requests
  have hsuccesses := h.successes
  have hfailures := h.failures
  have hignored := h.ignored
  simp only [Nat.zero_add] at hrequests hsuccesses hfailures hignored
  have hsum : m.requests = m.successes + m.failures + m.ignored := by omega
  have htransitions : m.transitions = (s.changes c (s.deeds c o since)).length := by
    simpa using h.transitions
  refine ⟨?_, hsum, hsuccesses, hfailures, by simpa using h.rejected, htransitions, fun told => ?_,
    by simpa using h.lastLatency, by simpa using h.lastSuccess, by simpa using h.lastFailure⟩
  · rw [hrequests, length_outcomes c]
  · rw [htransitions, (watched_deeds ρ name c s since told).2]

/-- A breaker that stays open for no time is reset and then opened again by a failure. Its observer's look
    begins the trial period, in which one call is permitted and another refused, a cancelled one is reported
    and counts as nothing, and a success closes the breaker. -/
theorem metrics_law_second_account :
    let c : Config :=
      { failureThreshold := 1, openTimeout := .zero, halfOpenMaxSuccesses := 1, failOnCancel := false }
    let made (now : Instant) (op : Operation) : Occasion := ⟨(now, op), fun _ => now⟩
    let before := [made { nanos := 1 } (.report (.failure (.ofMillis 10))), made { nanos := 2 } .reset]
    let since :=
      [made { nanos := 3 } (.report (.failure (.ofMillis 20))), made { nanos := 4 } .allow,
       made { nanos := 5 } .allow, made { nanos := 6 } (.report (.cancellation (.ofMillis 30))),
       made { nanos := 7 } (.report (.success (.ofMillis 40)))]
    let m := ((fresh c .origin).watched "" c .polling (before ++ since) : Watched Unit).state.metrics
    (∀ last ∈ before.getLast?, last.event.2 = .reset) ∧ (∀ e ∈ since, e.event.2 ≠ .reset) ∧
      m.requests = 3 ∧ m.rejected = 1 ∧ m.transitions = 3 ∧ m.lastLatency = some (.ofMillis 40) ∧
      m.lastSuccess = some { nanos := 7 } ∧ m.lastFailure = some { nanos := 3 } := by
  intro c made before since m
  have begun : ∀ last ∈ before.getLast?, last.event.2 = .reset := by decide
  have kept : ∀ e ∈ since, e.event.2 ≠ .reset := by decide
  obtain ⟨hrequests, -, -, -, hrejected, htransitions, -, hlatency, hsuccess, hfailure⟩ :=
    metrics_law Unit "" c .origin .polling before since begun kept
  refine ⟨begun, kept, hrequests.trans (by decide), ?_, ?_, hlatency.trans (by decide),
    hsuccess.trans (by decide), hfailure.trans (by decide)⟩
  · exact hrejected.trans (by decide +kernel)
  · exact htransitions.trans (by decide +kernel)

end State
end Resilience.Breaker
