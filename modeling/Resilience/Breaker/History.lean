import Resilience.Breaker.State

/-! Everything that can be asked of a breaker, as one type of operations with one type of answers. A
    history is a list of operations, each at an instant. -/

namespace Resilience.Breaker

inductive Operation
  /-- Asks permission for one call. -/
  | allow
  | report (o : Outcome)
  | snapshot
  | reset
deriving DecidableEq

inductive Answer
  | permission (granted : Bool)
  | seen (s : Snapshot)
  | done
deriving DecidableEq

/-- Changes the answer of a step. -/
def Step.map {α β : Type} (f : α → β) (step : Step α) : Step β :=
  ⟨f step.result, step.state, step.transition⟩

/-- Does one operation. -/
def State.perform (c : Config) (now : Instant) (op : Operation) (s : State) : Step Answer :=
  match op with
  | .allow => (s.allow c now).map .permission
  | .report o => (s.report c now o).map fun _ => .done
  | .snapshot => (s.snapshot c now).map .seen
  | .reset => (s.reset c now).map fun _ => .done

/-- The state after a history. -/
def State.after (c : Config) (s : State) (history : List (Instant × Operation)) : State :=
  history.foldl (fun s e => (s.perform c e.1 e.2).state) s

end Resilience.Breaker
