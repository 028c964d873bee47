import Resilience.Journal

/-! What a journal shows of the work itself: attempts, requests given to the transport and waits, in order.
    Its other entries tell of the work. -/

namespace Resilience

variable {ρ ε α : Type}

def Entry.isDispatch : Entry ρ → Bool
  | .dispatch .. => true
  | _ => false

/-- How many requests a journal shows as given to the transport. -/
def dispatches (journal : List (Entry ρ)) : Nat := journal.countP Entry.isDispatch

theorem dispatches_append (first rest : List (Entry ρ)) :
    dispatches (first ++ rest) = dispatches first + dispatches rest := List.countP_append

def Entry.isAct : Entry ρ → Bool
  | .attempt _ | .dispatch .. | .sleep _ => true
  | _ => false

def acts (journal : List (Entry ρ)) : List (Entry ρ) := journal.filter Entry.isAct

theorem acts_append (first rest : List (Entry ρ)) : acts (first ++ rest) = acts first ++ acts rest :=
  List.filter_append ..

theorem dispatches_acts (journal : List (Entry ρ)) : dispatches journal = dispatches (acts journal) := by
  unfold dispatches acts
  rw [List.countP_filter]
  refine List.countP_congr fun e _ => ?_
  cases e <;> simp [Entry.isDispatch, Entry.isAct]

theorem attempt_mem_acts {journal : List (Entry ρ)} {k : Nat} :
    .attempt k ∈ acts journal ↔ .attempt k ∈ journal :=
  List.mem_filter.trans (and_iff_left rfl)

/-- The indices of the attempts that a journal shows. -/
def attemptIndices (journal : List (Entry ρ)) : List Nat :=
  journal.filterMap fun
    | .attempt k => some k
    | _ => none

theorem mem_attemptIndices {journal : List (Entry ρ)} {k : Nat} :
    k ∈ attemptIndices journal ↔ .attempt k ∈ journal := by
  rw [attemptIndices, List.mem_filterMap]
  constructor
  · rintro ⟨e, he, hk⟩
    cases e with
    | attempt j => cases hk; exact he
    | log | sleep | dispatch | transition | observed | refused | event | spanStarted | spanEnded => cases hk
  · intro he
    exact ⟨_, he, rfl⟩

/-- The error of a run that has failed. -/
def failure? : Except Overflow (Except ε α) → Option ε
  | .ok (.error e) => some e
  | _ => none

theorem eq_of_failure? {result : Except Overflow (Except ε α)} {e : ε} (h : failure? result = some e) :
    result = .ok (.error e) := by
  unfold failure? at h
  split at h <;> cases h
  rfl

end Resilience
