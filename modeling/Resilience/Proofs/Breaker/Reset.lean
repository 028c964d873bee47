import Resilience.Proofs.Breaker.Announcements
import Resilience.Proofs.Breaker.Polling
import Resilience.Proofs.Breaker.Totals

/-! Resetting a breaker. A breaker that is closed keeps some of its fields through a reset, but a closed
    breaker has nothing to show in them. So a reset leaves a new breaker, up to the note of when the phase
    last changed (`changedAt`); and nothing that is done later depends on that note. -/

namespace Resilience.Breaker

/-- The totals of a breaker whose last change of phase, if none is noted, was at `t`. -/
def Metrics.changedAt (t : Instant) (m : Metrics) : Metrics :=
  { m with lastChange := m.lastChange.or (some t) }

theorem Metrics.note_changedAt (c : Config) (e : Event) (a : Answer) (change : Option Transition) (t : Instant)
    (m : Metrics) : (m.changedAt t).note c e a change = (m.note c e a change).changedAt t := by
  obtain ⟨now, op⟩ := e
  cases op with
  | allow =>
    cases change <;> simp only [note] <;> split <;> rfl
  | report o =>
    cases hv : c.classify o <;> cases change <;> simp only [note, hv] <;> rfl
  | snapshot => cases change <;> rfl
  | reset => rfl

namespace State

def changedAt (t : Instant) (s : State) : State := { s with metrics := s.metrics.changedAt t }

variable {ρ : Type} {c : Config} {s t : State}

theorem eq_of_bare (hb : s.bare = t.bare) (hm : s.metrics = t.metrics) : s = t := by
  calc
    s = { s.bare with metrics := s.metrics } := rfl
    _ = { t.bare with metrics := t.metrics } := by rw [hb, hm]
    _ = t := rfl

theorem perform_changedAt (c : Config) (e : Event) (since : Instant) (s : State) :
    let step := s.perform c e.1 e.2
    (s.changedAt since).perform c e.1 e.2 = ⟨step.result, step.state.changedAt since, step.transition⟩ := by
  intro step
  -- No operation reads the totals, so all but them is the same as without the note.
  have heffect : ((s.changedAt since).perform c e.1 e.2).effect = step.effect :=
    perform_bare.symm.trans (perform_bare (s := s))
  have hresult : ((s.changedAt since).perform c e.1 e.2).result = step.result := congrArg Prod.fst heffect
  have hbare : ((s.changedAt since).perform c e.1 e.2).state.bare = step.state.bare := congrArg Prod.snd heffect
  have hchange : ((s.changedAt since).perform c e.1 e.2).transition = step.transition := by
    rw [perform_transition, perform_transition, phase_eq_of_bare hbare]
    rfl
  have hmetrics : ((s.changedAt since).perform c e.1 e.2).state.metrics = (step.state.changedAt since).metrics := by
    rw [perform_metrics, hresult, hchange]
    show (s.metrics.changedAt since).note c e step.result step.transition = step.state.metrics.changedAt since
    rw [Metrics.note_changedAt, perform_metrics]
  have hstate : ((s.changedAt since).perform c e.1 e.2).state = step.state.changedAt since :=
    eq_of_bare hbare hmetrics
  rw [← hresult, ← hchange, ← hstate]

theorem snapshot_changedAt (c : Config) (now since : Instant) (s : State) :
    let look := s.snapshot c now
    (s.changedAt since).snapshot c now = ⟨look.result, look.state.changedAt since, look.transition⟩ := by
  intro look
  have h := perform_changedAt c (now, .snapshot) since s
  simp only [perform, Step.map, Step.mk.injEq, Answer.seen.injEq] at h
  obtain ⟨hresult, hstate, hchange⟩ := h
  rw [← hresult, ← hstate, ← hchange]

theorem announceOn_changedAt (ρ : Type) (name : String) (c : Config) (clock : Nat → Instant) (o : Observer)
    (change : Transition) (since : Instant) (s : State) :
    let told : State × List (Entry ρ) := announceOn name c clock o change s
    announceOn name c clock o change (s.changedAt since) = (told.1.changedAt since, told.2) := by
  intro told
  cases o with
  | absent | recording => simp only [told, announceOn]
  | polling =>
    have hlook := snapshot_changedAt c (clock 0) since s
    have hsame : ((s.changedAt since).snapshot c (clock 0)).transition = (s.snapshot c (clock 0)).transition := by
      rw [hlook]
    cases hl : (s.snapshot c (clock 0)).transition with
    | none =>
      have he : told = _ := announceOn_still name c clock change s hl
      rw [announceOn_still name c clock change _ (hsame.trans hl), he, hlook]
    | some inner =>
      obtain ⟨-, he⟩ := announceOn_nested (ρ := ρ) name c clock change s hl
      obtain ⟨-, he'⟩ := announceOn_nested (ρ := ρ) name c clock change (s.changedAt since) (hsame.trans hl)
      have he : told = _ := he
      rw [he, he', hlook]
      dsimp only
      rw [snapshot_changedAt]
      rfl

theorem settle_changedAt (ρ : Type) (name : String) (c : Config) (o : Observer) (since : Instant) (s : State)
    (e : Occasion) :
    let settled (s : State) : State × List (Entry ρ) :=
      (s.perform c e.event.1 e.event.2).settle name (announceOn name c e.looks o)
    settled (s.changedAt since) = ((settled s).1.changedAt since, (settled s).2) := by
  intro settled
  simp only [settled, perform_changedAt c e.event since s, Step.settle]
  cases (s.perform c e.event.1 e.event.2).transition with
  | none => rfl
  | some change =>
    dsimp only
    rw [announceOn_changedAt]
    rfl

/-- A run does not depend on when the phase last changed before it, and keeps it if the phase changes no more. -/
theorem watched_changedAt (ρ : Type) (name : String) (c : Config) (o : Observer) (since : Instant) (s : State)
    (run : List Occasion) :
    let w : Watched ρ := s.watched name c o run
    (s.changedAt since).watched name c o run = { w with state := w.state.changedAt since } := by
  induction run generalizing s with
  | nil => rfl
  | cons e rest ih =>
    have hsettle := settle_changedAt ρ name c o since s e
    simp only [watched, hsettle, ih]
    rw [perform_changedAt]

theorem reset_fresh (hs : Sound c s) (now : Instant) :
    (s.reset c now).state = (fresh c now).changedAt now := by
  by_cases hp : s.phase = .closed
  · -- The fields that this reset does not touch are those of a new breaker already.
    have w := hs.closed hp
    rw [reset_closed hp]
    obtain ⟨phase, failures, successes, windowStart, openedAt, reopens, timeout, inFlight, metrics⟩ := s
    obtain ⟨rfl, rfl, rfl, rfl, -⟩ := w
    cases hp
    rfl
  · rw [reset_of_ne hp]
    rfl

/-- Whatever was done to a breaker, at whatever instants, a reset leaves the breaker that is built at the
    instant of the reset, except that the reset is noted as its last change of phase. -/
theorem reset_law (ρ : Type) (name : String) (c : Config) (start now : Instant) (before : List Event)
    (o : Observer) (later : List Occasion) :
    let s := (((fresh c start).after c before).reset c now).state
    let w : Watched ρ := s.watched name c o later
    let w' : Watched ρ := (fresh c now).watched name c o later
    s = { fresh c now with metrics := { lastChange := some now } } ∧
      w.answers = w'.answers ∧ w.journal = w'.journal ∧ w.state = w'.state.changedAt now := by
  intro s w w'
  have hs : s = (fresh c now).changedAt now := reset_fresh ((Sound.fresh c start).after before) now
  have hw : w = { w' with state := w'.state.changedAt now } := by
    simp only [w, w', hs]
    exact watched_changedAt ρ name c o now (fresh c now) later
  refine ⟨hs, ?_, ?_, ?_⟩
  all_goals rw [hw]

end State
end Resilience.Breaker
