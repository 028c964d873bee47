import Resilience.Journal

/-! Telling others what a breaker does. A change of phase is written to the log when it is made and
    announced to the state observer once the operation is done. An observer may look at the breaker
    while it is told, which can make a further change due. -/

namespace Resilience.Breaker

/-- What a state observer does when it is told of a change. -/
inductive Observer
  | absent
  | recording
  /-- Takes a snapshot of the breaker from inside the announcement. -/
  | polling
deriving DecidableEq

/-- The log line of a change of phase, written from the state that the change left. -/
def Transition.logLine {ρ : Type} (name : String) (t : Transition) (s : State) : Entry ρ :=
  match t.target with
  | .opened =>
    if t.source = .halfOpen then
      .log .warn (s!"Circuit breaker '{name}' reopened after failed trial (reopen #{s.reopens}); " ++
        s!"retrying in {s.timeout.text}")
    else
      .log .warn (s!"Circuit breaker '{name}' opened after {s.failures} failures; " ++
        s!"retrying in {s.timeout.text}")
  | .halfOpen => .log .info s!"Circuit breaker '{name}' transitioned to half-open state"
  | .closed => .log .info s!"Circuit breaker '{name}' closed after successful recovery"

namespace State

/-- Catching up changes the phase only from open to half-open. -/
theorem catchUp_eq (c : Config) (now : Instant) (s : State) :
    s.catchUp c now =
      if (s.rollWindow c now).isDue now then
        ((s.rollWindow c now).probe now, some ⟨.opened, .halfOpen⟩)
      else (s.rollWindow c now, none) := rfl

theorem rollWindow_phase (c : Config) (now : Instant) (s : State) :
    (s.rollWindow c now).phase = s.phase := by
  unfold rollWindow
  split
  · rfl
  · split <;> rfl

/-- How many further changes looking at the breaker can make: one if it is open. -/
def pending (s : State) : Nat := if s.phase = .opened then 1 else 0

theorem snapshot_pending {c : Config} {now : Instant} {s : State} {t : Transition}
    (h : (s.snapshot c now).transition = some t) : (s.snapshot c now).state.pending < s.pending := by
  unfold snapshot at h ⊢
  rw [catchUp_eq] at h ⊢
  by_cases hd : (s.rollWindow c now).isDue now = true
  · have hp : s.phase = .opened := by
      simp only [isDue, Bool.and_eq_true, decide_eq_true_eq, rollWindow_phase] at hd
      exact hd.1
    simp only [hd, ↓reduceIte, pending, hp]
    exact Nat.lt_of_lt_of_eq (by simp [probe, mark]) rfl
  · simp [hd] at h

/-- Tells an observer of a change. A polling observer's own look at the breaker is logged and announced
    in the same way before it returns what it saw; its looks read the clock at the instants `clock 0`,
    `clock 1` and so on. -/
def announceOn {ρ : Type} (name : String) (c : Config) (clock : Nat → Instant) (o : Observer)
    (t : Transition) (s : State) : State × List (Entry ρ) :=
  match o with
  | .absent => (s, [])
  | .recording => (s, [.transition t])
  | .polling =>
    let look := s.snapshot c (clock 0)
    match h : look.transition with
    | none => (look.state, [.transition t, .observed look.result])
    | some inner =>
      let nested := announceOn name c (fun n => clock (n + 1)) o inner look.state
      (nested.1, [.transition t, inner.logLine name look.state] ++ nested.2 ++ [.observed look.result])
termination_by s.pending
decreasing_by exact snapshot_pending h

/-- Tells an observer of a change while the clock stands at `now`. -/
def announce {ρ : Type} (name : String) (c : Config) (now : Instant) (o : Observer) (t : Transition)
    (s : State) : State × List (Entry ρ) :=
  announceOn name c (fun _ => now) o t s

end State

/-- Logs and announces what an operation did. -/
def Step.settle {ρ α : Type} (name : String)
    (announce : Transition → State → State × List (Entry ρ)) (step : Step α) :
    State × List (Entry ρ) :=
  match step.transition with
  | none => (step.state, [])
  | some t =>
    let told := announce t step.state
    (told.1, t.logLine name step.state :: told.2)

end Resilience.Breaker
