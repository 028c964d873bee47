import Resilience.Proofs.Breaker.Runs

/-! Changes of phase. An operation makes at most one change, only a few kinds of operations can make a
    given one, and what an operation says about its change is what happened to the stored phase
    (`perform_inv`). Along a history the changes therefore lead from phase to phase without a gap. -/

namespace Resilience.Breaker

/-- The changes of phase that an operation can make. -/
def Operation.changes : Operation → List Transition
  | .allow | .snapshot => [⟨.opened, .halfOpen⟩]
  | .report _ => [⟨.closed, .opened⟩, ⟨.halfOpen, .opened⟩, ⟨.halfOpen, .closed⟩]
  | .reset => [⟨.opened, .closed⟩, ⟨.halfOpen, .closed⟩]

/-- Changes that lead from one phase to another. Each begins where the one before it ended, and none
    ends where it began. -/
def Linked : Phase → List Transition → Phase → Prop
  | p, [], q => p = q
  | p, t :: rest, q => t.source = p ∧ t.target ≠ p ∧ Linked t.target rest q

theorem Operation.source_ne_target {op : Operation} {t : Transition} (h : t ∈ op.changes) :
    t.source ≠ t.target := by
  cases op <;> simp only [Operation.changes, List.mem_cons, List.not_mem_nil, or_false] at h
  case allow | snapshot => subst h; simp
  case report => rcases h with rfl | rfl | rfl <;> simp
  case reset => rcases h with rfl | rfl <;> simp

/-- Only a report opens a breaker. -/
theorem Operation.opening_inv {op : Operation} {t : Transition} (h : t ∈ op.changes)
    (ht : t.target = .opened) : ∃ o, op = .report o := by
  cases op <;> simp only [Operation.changes, List.mem_cons, List.not_mem_nil, or_false] at h
  case report o => exact ⟨o, rfl⟩
  case allow | snapshot => subst h; cases ht
  case reset => rcases h with rfl | rfl <;> cases ht

namespace State

variable {c : Config} {now : Instant} {s : State}

/-! ### One operation -/

theorem allow_inv (c : Config) (now : Instant) (s : State) :
    (s.allow c now).transition = none ∧ (s.allow c now).state.phase = s.phase ∨
      s.phase = .opened ∧ (s.allow c now).transition = some ⟨.opened, .halfOpen⟩ ∧
        (s.allow c now).state.phase = .halfOpen := by
  cases hp : s.phase with
  | closed => exact .inl (by simp [allow_closed hp, rollWindow_phase, hp])
  | opened =>
    rw [allow_opened hp]
    split
    · exact .inr ⟨rfl, rfl, rfl⟩
    · exact .inl ⟨rfl, hp⟩
  | halfOpen =>
    rw [allow_halfOpen hp]
    split <;> exact .inl ⟨rfl, hp⟩

theorem snapshot_inv (c : Config) (now : Instant) (s : State) :
    (s.snapshot c now).transition = none ∧ (s.snapshot c now).state.phase = s.phase ∨
      s.phase = .opened ∧ (s.snapshot c now).transition = some ⟨.opened, .halfOpen⟩ ∧
        (s.snapshot c now).state.phase = .halfOpen := by
  cases hp : s.phase with
  | closed => exact .inl (by simp [snapshot_closed hp, rollWindow_phase, hp])
  | opened =>
    rw [snapshot_opened hp]
    split
    · exact .inr ⟨rfl, rfl, rfl⟩
    · exact .inl ⟨rfl, hp⟩
  | halfOpen => exact .inl (by simp [snapshot_halfOpen hp, hp])

/-- A breaker that a report opens is open since the instant of that report. -/
theorem report_inv (c : Config) (now : Instant) (o : Outcome) (s : State) :
    (s.report c now o).transition = none ∧ (s.report c now o).state.phase = s.phase ∨
      s.phase = .halfOpen ∧ (s.report c now o).transition = some ⟨.halfOpen, .closed⟩ ∧
        (s.report c now o).state.phase = .closed ∨
      s.phase ≠ .opened ∧ (s.report c now o).transition = some ⟨s.phase, .opened⟩ ∧
        (s.report c now o).state.phase = .opened ∧ (s.report c now o).state.openedAt = some now := by
  cases hp : s.phase with
  | closed =>
    have hr : (s.rollWindow c now).phase = .closed := by rw [rollWindow_phase, hp]
    rw [report_closed hp]
    cases c.classify o with
    | ignored | success => exact .inl ⟨rfl, hr⟩
    | failure =>
      dsimp only
      split
      · exact .inr (.inr ⟨by simp, rfl, rfl, rfl⟩)
      · exact .inl ⟨rfl, hr⟩
  | opened =>
    rw [report_opened hp]
    exact .inl ⟨rfl, hp⟩
  | halfOpen =>
    rw [report_halfOpen hp]
    cases c.classify o with
    | ignored => exact .inl ⟨rfl, hp⟩
    | success =>
      dsimp only
      split
      · exact .inr (.inl ⟨rfl, rfl, rfl⟩)
      · exact .inl ⟨rfl, hp⟩
    | failure => exact .inr (.inr ⟨by simp, rfl, rfl, rfl⟩)

/-- What an operation says about its change of phase is what happened to the stored phase. -/
theorem perform_inv (c : Config) (now : Instant) (op : Operation) (s : State) :
    (s.perform c now op).transition = none ∧ (s.perform c now op).state.phase = s.phase ∨
      ∃ t ∈ op.changes, (s.perform c now op).transition = some t ∧
        t.source = s.phase ∧ t.target = (s.perform c now op).state.phase := by
  cases op with
  | allow =>
    rcases allow_inv c now s with h | ⟨hp, ht, hp'⟩
    · exact .inl h
    · exact .inr ⟨⟨.opened, .halfOpen⟩, by simp [Operation.changes], ht, hp.symm, hp'.symm⟩
  | snapshot =>
    rcases snapshot_inv c now s with h | ⟨hp, ht, hp'⟩
    · exact .inl h
    · exact .inr ⟨⟨.opened, .halfOpen⟩, by simp [Operation.changes], ht, hp.symm, hp'.symm⟩
  | report o =>
    rcases report_inv c now o s with h | ⟨hp, ht, hp'⟩ | ⟨hp, ht, hp', -⟩
    · exact .inl h
    · exact .inr ⟨⟨.halfOpen, .closed⟩, by simp [Operation.changes], ht, hp.symm, hp'.symm⟩
    · refine .inr ⟨⟨s.phase, .opened⟩, ?_, ht, rfl, hp'.symm⟩
      cases hs : s.phase with
      | opened => exact absurd hs hp
      | closed | halfOpen => simp [Operation.changes]
  | reset =>
    cases hp : s.phase with
    | closed => exact .inl (by simp [perform, Step.map, reset_closed hp, hp])
    | opened | halfOpen =>
      have hne : s.phase ≠ .closed := by simp [hp]
      refine .inr ⟨⟨s.phase, .closed⟩, by simp [Operation.changes, hp], ?_, hp, ?_⟩
      all_goals simp [perform, Step.map, reset_of_ne hne, fresh]

theorem perform_transition (c : Config) (now : Instant) (op : Operation) (s : State) :
    (s.perform c now op).transition =
      if s.phase = (s.perform c now op).state.phase then none
      else some ⟨s.phase, (s.perform c now op).state.phase⟩ := by
  rcases perform_inv c now op s with ⟨ht, hp⟩ | ⟨t, hmem, ht, hs, hp⟩
  · rw [ht, if_pos hp.symm]
  · have hne := Operation.source_ne_target hmem
    rw [hs, hp] at hne
    rw [ht, if_neg hne, ← hs, ← hp]

/-! ### A history -/

/-- The changes of the stored phase along a history. -/
def changes (c : Config) : State → List Event → List Transition
  | _, [] => []
  | s, e :: rest =>
    let next := (s.perform c e.1 e.2).state
    if s.phase = next.phase then changes c next rest else ⟨s.phase, next.phase⟩ :: changes c next rest

theorem changes_cons (e : Event) (rest : List Event) :
    s.changes c (e :: rest) =
      (s.perform c e.1 e.2).transition.toList ++ (s.perform c e.1 e.2).state.changes c rest := by
  rw [changes, perform_transition]
  split <;> rfl

theorem changes_append (first rest : List Event) :
    s.changes c (first ++ rest) = s.changes c first ++ (s.after c first).changes c rest := by
  induction first generalizing s with
  | nil => rfl
  | cons e first ih => rw [List.cons_append, changes_cons, changes_cons, ih, after_cons, List.append_assoc]

theorem linked_changes (c : Config) (s : State) (history : List Event) :
    Linked s.phase (s.changes c history) (s.after c history).phase := by
  induction history generalizing s with
  | nil => rfl
  | cons e rest ih =>
    rw [after_cons, changes]
    split
    · rename_i hp
      rw [hp]
      exact ih _
    · rename_i hp
      exact ⟨rfl, fun h => hp h.symm, ih _⟩

end State
end Resilience.Breaker
