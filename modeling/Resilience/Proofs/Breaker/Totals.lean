import Resilience.Proofs.Breaker.Runs

/-! The totals of a breaker count what was asked of it: reports by what they count as, and refusals.
    What phase the breaker is in makes no difference to them. -/

namespace Resilience.Breaker

def Metrics.noteRefusal (m : Metrics) : Metrics := { m with rejected := m.rejected + 1 }

/-- The totals after an operation that made this change of phase. -/
def Metrics.noteChange (m : Metrics) (t : Option Transition) (now : Instant) : Metrics :=
  if t.isSome then { m with transitions := m.transitions + 1, lastChange := some now } else m

/-- The totals after an operation that was answered so and made this change of phase. -/
def Metrics.note (c : Config) (e : Event) (a : Answer) (t : Option Transition) (m : Metrics) : Metrics :=
  match e.2 with
  | .allow => (if a = .permission true then m else m.noteRefusal).noteChange t e.1
  | .report o => (m.noteReport (c.classify o) e.1 o.latency).noteChange t e.1
  | .snapshot => m.noteChange t e.1
  | .reset => { lastChange := some e.1 }

namespace State

variable {c : Config} {s : State}

/-! ### What an operation adds -/

theorem rollWindow_metrics (c : Config) (now : Instant) (s : State) :
    (s.rollWindow c now).metrics = s.metrics := by
  rcases rollWindow_eq_or c now s with he | he <;> rw [he]

theorem allow_metrics (c : Config) (now : Instant) (s : State) :
    let step := s.allow c now
    step.state.metrics =
      (if step.result then s.metrics else s.metrics.noteRefusal).noteChange step.transition now := by
  cases hp : s.phase with
  | closed => simp [allow_closed hp, rollWindow_metrics, Metrics.noteChange]
  | opened =>
    rw [allow_opened hp]
    split <;> rfl
  | halfOpen =>
    rw [allow_halfOpen hp]
    split <;> rfl

theorem snapshot_metrics (c : Config) (now : Instant) (s : State) :
    let step := s.snapshot c now
    step.state.metrics = s.metrics.noteChange step.transition now := by
  cases hp : s.phase with
  | closed => simp [snapshot_closed hp, rollWindow_metrics, Metrics.noteChange]
  | opened =>
    rw [snapshot_opened hp]
    split <;> rfl
  | halfOpen => simp [snapshot_halfOpen hp, Metrics.noteChange]

theorem report_metrics (c : Config) (now : Instant) (o : Outcome) (s : State) :
    let step := s.report c now o
    step.state.metrics =
      (s.metrics.noteReport (c.classify o) now o.latency).noteChange step.transition now := by
  cases hp : s.phase with
  | closed =>
    rw [report_closed hp]
    cases hv : c.classify o with
    | ignored | success => simp [enter, hv, rollWindow_metrics, Metrics.noteChange]
    | failure =>
      dsimp only
      split <;> simp [trip, mark, enter, hv, rollWindow_metrics, Metrics.noteChange]
  | opened => simp [report_opened hp, enter, Metrics.noteChange]
  | halfOpen =>
    rw [report_halfOpen hp]
    cases hv : c.classify o with
    | ignored => simp [enter, release, hv, Metrics.noteChange]
    | success =>
      dsimp only
      split <;> simp [recover, mark, enter, release, hv, Metrics.noteChange]
    | failure => simp [trip, mark, enter, release, hv, Metrics.noteChange]

theorem perform_metrics (c : Config) (e : Event) (s : State) :
    let step := s.perform c e.1 e.2
    step.state.metrics = s.metrics.note c e step.result step.transition := by
  obtain ⟨now, op⟩ := e
  cases op with
  | allow => simpa [perform, Step.map, Metrics.note] using allow_metrics c now s
  | report o => exact report_metrics c now o s
  | snapshot => exact snapshot_metrics c now s
  | reset => rfl

end State

/-! ### What a history adds -/

/-- From `m` on, the totals have grown to `m'` by what a history reports and what it was refused. -/
structure Grown (c : Config) (m m' : Metrics) (history : List Event) (replies : List Answer) : Prop where
  requests : m'.requests =
    m.requests + (c.reports .success history + c.reports .failure history + c.reports .ignored history)
  successes : m'.successes = m.successes + c.reports .success history
  failures : m'.failures = m.failures + c.reports .failure history
  ignored : m'.ignored = m.ignored + c.reports .ignored history
  rejected : m'.rejected = m.rejected + replies.count (.permission false)

namespace Grown

variable {c : Config} {m m' m'' : Metrics} {history rest : List Event} {replies more : List Answer}

theorem refl (c : Config) (m : Metrics) : Grown c m m [] [] := ⟨rfl, rfl, rfl, rfl, rfl⟩

theorem trans (h : Grown c m m' history replies) (h' : Grown c m' m'' rest more) :
    Grown c m m'' (history ++ rest) (replies ++ more) where
  requests := by simp only [h'.requests, h.requests, Config.reports_append]; omega
  successes := by simp only [h'.successes, h.successes, Config.reports_append]; omega
  failures := by simp only [h'.failures, h.failures, Config.reports_append]; omega
  ignored := by simp only [h'.ignored, h.ignored, Config.reports_append]; omega
  rejected := by simp only [h'.rejected, h.rejected, List.count_append]; omega

theorem noteChange (h : Grown c m m' history replies) (t : Option Transition) (now : Instant) :
    Grown c m (m'.noteChange t now) history replies := by
  unfold Metrics.noteChange
  split
  · exact ⟨h.requests, h.successes, h.failures, h.ignored, h.rejected⟩
  · exact h

theorem of_silent (now : Instant) {op : Operation} {a : Answer} (hop : ∀ o, op ≠ .report o)
    (ha : a ≠ .permission false) : Grown c m m [(now, op)] [a] := by
  have hc : List.count (.permission false) [a] = 0 := by simpa [List.count_eq_zero] using ha.symm
  constructor <;> simp [Config.reports_eq_zero_of_ne hop, hc]

theorem noteRefusal (m : Metrics) (now : Instant) :
    Grown c m m.noteRefusal [(now, .allow)] [.permission false] := by
  have hz (v : Verdict) : c.reports v [(now, .allow)] = 0 := Config.reports_eq_zero_of_ne (by simp)
  constructor <;> simp [hz, Metrics.noteRefusal]

theorem noteReport (m : Metrics) (now : Instant) (o : Outcome) :
    Grown c m (m.noteReport (c.classify o) now o.latency) [(now, .report o)] [.done] := by
  cases hv : c.classify o <;> constructor <;> simp [hv, Metrics.noteReport]

theorem perform (c : Config) (now : Instant) (s : State) {op : Operation} (hop : op ≠ .reset) :
    Grown c s.metrics (s.perform c now op).state.metrics [(now, op)] [(s.perform c now op).result] := by
  cases op with
  | allow =>
    have he := State.allow_metrics c now s
    cases hr : (s.allow c now).result with
    | true =>
      simp only [hr, ↓reduceIte] at he
      simpa [State.perform, Step.map, he, hr] using (of_silent now (by simp) (by simp)).noteChange _ now
    | false =>
      simp only [hr, Bool.false_eq_true, ↓reduceIte] at he
      simpa [State.perform, Step.map, he, hr] using (noteRefusal s.metrics now).noteChange _ now
  | report o =>
    have he := State.report_metrics c now o s
    simpa [State.perform, Step.map, he] using (noteReport s.metrics now o).noteChange _ now
  | snapshot =>
    have he := State.snapshot_metrics c now s
    simpa [State.perform, Step.map, he] using (of_silent now (by simp) (by simp)).noteChange _ now
  | reset => exact absurd rfl hop

theorem after (s : State) (hr : ∀ e ∈ history, e.2 ≠ .reset) :
    Grown c s.metrics (s.after c history).metrics history (s.answers c history) := by
  induction history generalizing s with
  | nil => exact refl c _
  | cons e history ih =>
    have first := perform c e.1 s (hr e List.mem_cons_self)
    exact first.trans (ih _ fun e he => hr e (List.mem_cons_of_mem _ he))

end Grown
end Resilience.Breaker
