import Resilience.Proofs.Breaker.Invariant

/-! Runs of a breaker: the answers along a history, what was reported in it, and staying in one phase. -/

namespace Resilience.Breaker

/-- An operation at an instant. Any number of callers may take part in a history; each operation is
    done as a whole, and its instant is when its caller read the clock. -/
abbrev Event := Instant × Operation

def Config.verdict? (c : Config) (e : Event) : Option Verdict :=
  match e.2 with
  | .report o => some (c.classify o)
  | _ => none

def Config.reports (c : Config) (v : Verdict) (history : List Event) : Nat :=
  history.countP fun e => c.verdict? e = some v

/-- How many calls were permitted. -/
def granted (answers : List Answer) : Nat := answers.count (.permission true)

namespace State

def answers (c : Config) (s : State) : List Event → List Answer
  | [] => []
  | e :: rest => (s.perform c e.1 e.2).result :: answers c (s.perform c e.1 e.2).state rest

/-- Before the history, between its events and after it the breaker is in `phase`. -/
def Stays (c : Config) (phase : Phase) (s : State) : List Event → Prop
  | [] => s.phase = phase
  | e :: rest => s.phase = phase ∧ Stays c phase (s.perform c e.1 e.2).state rest

instance decidableStays (c : Config) (phase : Phase) :
    (s : State) → (history : List Event) → Decidable (s.Stays c phase history)
  | s, [] => inferInstanceAs (Decidable (s.phase = phase))
  | s, e :: rest =>
    have := decidableStays c phase (s.perform c e.1 e.2).state rest
    inferInstanceAs (Decidable (s.phase = phase ∧ Stays c phase (s.perform c e.1 e.2).state rest))

variable {c : Config} {s : State} {phase : Phase}

theorem after_cons (e : Event) (rest : List Event) :
    s.after c (e :: rest) = (s.perform c e.1 e.2).state.after c rest := rfl

theorem after_append (first rest : List Event) :
    s.after c (first ++ rest) = (s.after c first).after c rest := List.foldl_append

theorem answers_append (first rest : List Event) :
    s.answers c (first ++ rest) = s.answers c first ++ (s.after c first).answers c rest := by
  induction first generalizing s with
  | nil => rfl
  | cons e first ih => simp [answers, ih, after_cons]

theorem Stays.head {history : List Event} (h : s.Stays c phase history) : s.phase = phase := by
  cases history with
  | nil => exact h
  | cons e rest => exact h.1

theorem Stays.last {history : List Event} (h : s.Stays c phase history) :
    (s.after c history).phase = phase := by
  induction history generalizing s with
  | nil => exact h
  | cons e rest ih => exact ih h.2

end State

/-! ### Counting -/

theorem granted_cons (a : Answer) (rest : List Answer) : granted (a :: rest) = granted rest + granted [a] := by
  simp [granted, List.count_cons]

namespace Config
variable {c : Config} {v : Verdict}

theorem reports_cons (e : Event) (rest : List Event) :
    c.reports v (e :: rest) = c.reports v rest + c.reports v [e] := by
  simp [reports, List.countP_cons]

theorem reports_append (first rest : List Event) :
    c.reports v (first ++ rest) = c.reports v first + c.reports v rest := List.countP_append

theorem reports_eq_zero_of_ne {now : Instant} {op : Operation} (h : ∀ o, op ≠ .report o) :
    c.reports v [(now, op)] = 0 := by
  cases op with
  | report o => exact absurd rfl (h o)
  | allow | snapshot | reset => simp [reports, verdict?]

@[simp] theorem reports_report (now : Instant) (o : Outcome) :
    c.reports v [(now, .report o)] = if c.classify o = v then 1 else 0 := by
  simp [reports, verdict?, List.countP_cons]

theorem classify_ne_ignored (hc : c.failOnCancel = true) (hd : c.failOnDeadline = true) (o : Outcome) :
    c.classify o ≠ .ignored := by
  simp only [classify, hc, hd, Bool.not_true, Bool.and_false, Bool.false_eq_true, ↓reduceIte]
  split <;> simp

theorem reports_ignored (hc : c.failOnCancel = true) (hd : c.failOnDeadline = true) (history : List Event) :
    c.reports .ignored history = 0 := by
  rw [reports, List.countP_eq_zero]
  rintro ⟨now, op⟩ -
  cases op with
  | report o => simp [verdict?, classify_ne_ignored hc hd o]
  | allow | snapshot | reset => simp [verdict?]

end Config
end Resilience.Breaker
