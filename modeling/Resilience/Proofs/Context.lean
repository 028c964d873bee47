import Resilience.Context

/-! Derived contexts. What a chain of derivations does to a deadline is read off the instants at which the
    context is expired: each step adds the instants from its own bound on, and takes none away. So the
    deadline is the earliest bound of the chain, in whatever order and however often the steps are made. -/

namespace Resilience

namespace Instant

theorem le_antisymm {t u : Instant} (h : t ≤ u) (h' : u ≤ t) : t = u :=
  Instant.ext (Int.le_antisymm h h')

theorem min_le_iff {t u v : Instant} : min t u ≤ v ↔ t ≤ v ∨ u ≤ v := by
  show (if t.nanos ≤ u.nanos then t else u).nanos ≤ v.nanos ↔ t.nanos ≤ v.nanos ∨ u.nanos ≤ v.nanos
  split <;> omega

theorem min_eq_or (t u : Instant) : min t u = t ∨ min t u = u := by
  show (if t ≤ u then t else u) = t ∨ (if t ≤ u then t else u) = u
  split
  · exact .inl rfl
  · exact .inr rfl

theorem since_eq_zero_iff {t u : Instant} : t.since u = Duration.zero ↔ t ≤ u := by
  rw [Duration.ext_iff]
  show (t.nanos - u.nanos).toNat = 0 ↔ t.nanos ≤ u.nanos
  omega

end Instant

namespace Cancellations

/-- What can become of the flags: new ones are handed out and flags are raised. -/
inductive Later (f : Cancellations) : Cancellations → Prop
  | now : Later f f
  | fresh {g : Cancellations} (h : Later f g) : Later f g.fresh.2
  | cancel {g : Cancellations} (h : Later f g) (t : Token) : Later f (g.cancel t)

variable {f g : Cancellations} {t u : Token}

theorem isCancelled_cancel_iff : (f.cancel u).isCancelled t = true ↔ t = u ∨ f.isCancelled t = true := by
  unfold cancel
  split
  · rename_i hu
    exact ⟨.inr, fun h => h.elim (fun h => h ▸ hu) id⟩
  · simp [isCancelled]

theorem Later.isCancelled (h : f.Later g) (hc : f.isCancelled t = true) : g.isCancelled t = true := by
  induction h with
  | now => exact hc
  | fresh _ ih => exact ih
  | cancel _ _ ih => exact isCancelled_cancel_iff.mpr (.inr ih)

end Cancellations

namespace CallContext

/-- The context after steps that each bound it by a time from an instant on. -/
def derive (c : CallContext) (steps : List (Instant × Duration)) : CallContext :=
  steps.foldl (fun c step => c.shrink step.1 step.2) c

/-- What bounds a derived context: the deadline it was derived from, and the sums of the steps that are in
    range. -/
def bounds (c : CallContext) (steps : List (Instant × Duration)) : List Instant :=
  c.deadline.toList ++ steps.filterMap fun step => step.1.add? step.2

variable {c : CallContext} {steps other : List (Instant × Duration)} {now t : Instant}
  {timeout : Duration}

theorem mem_bounds :
    t ∈ c.bounds steps ↔ c.deadline = some t ∨ ∃ step ∈ steps, step.1.add? step.2 = some t := by
  rw [bounds, List.mem_append, Option.mem_toList, List.mem_filterMap]

theorem derive_append (c : CallContext) (first rest : List (Instant × Duration)) :
    c.derive (first ++ rest) = (c.derive first).derive rest := List.foldl_append

theorem token_derive (c : CallContext) (steps : List (Instant × Duration)) : (c.derive steps).token = c.token := by
  induction steps generalizing c with
  | nil => rfl
  | cons step steps ih => exact ih (c.shrink step.1 step.2)

/-! ### Expiry -/

theorem isExpired_iff : c.isExpired now = true ↔ ∃ deadline, c.deadline = some deadline ∧ deadline ≤ now := by
  unfold isExpired
  cases c.deadline <;> simp

theorem isExpired_iff_remaining : c.isExpired now = true ↔ c.remaining now = some .zero := by
  unfold isExpired remaining
  cases c.deadline <;> simp [Instant.since_eq_zero_iff]

/-- A step adds the instants from its bound on to those at which a context is expired. -/
theorem isExpired_shrink (step : Instant × Duration) :
    (c.shrink step.1 step.2).isExpired now = true ↔
      c.isExpired now = true ∨ ∃ bound, step.1.add? step.2 = some bound ∧ bound ≤ now := by
  simp only [isExpired_iff, shrink]
  cases c.deadline <;> cases step.1.add? step.2 <;> simp [Instant.min_le_iff]

theorem isExpired_derive :
    (c.derive steps).isExpired now = true ↔
      c.isExpired now = true ∨ ∃ step ∈ steps, ∃ bound, step.1.add? step.2 = some bound ∧ bound ≤ now := by
  induction steps generalizing c with
  | nil => simp [derive]
  | cons step steps ih =>
    have hstep : c.derive (step :: steps) = (c.shrink step.1 step.2).derive steps := rfl
    rw [hstep, ih, isExpired_shrink, or_assoc]
    simp only [List.mem_cons, exists_eq_or_imp]

theorem isExpired_derive_of_bound {bound : Instant} (h : bound ∈ c.bounds steps) :
    (c.derive steps).isExpired bound = true := by
  rw [isExpired_derive, isExpired_iff]
  rcases mem_bounds.mp h with hd | ⟨step, hs, hsum⟩
  · exact .inl ⟨bound, hd, Int.le_refl _⟩
  · exact .inr ⟨step, hs, bound, hsum, Int.le_refl _⟩

/-! ### Deadlines -/

theorem deadline_shrink (h : (c.shrink now timeout).deadline = some t) :
    c.deadline = some t ∨ now.add? timeout = some t := by
  unfold shrink at h
  cases hd : c.deadline <;> cases ha : now.add? timeout <;> simp only [hd, ha] at h
  · cases h
  · exact .inr h
  · exact .inl h
  · rw [← h, Option.some.injEq, Option.some.injEq]
    exact (Instant.min_eq_or ..).imp Eq.symm Eq.symm

theorem deadline_mem_bounds (h : (c.derive steps).deadline = some t) : t ∈ c.bounds steps := by
  rw [mem_bounds]
  induction steps generalizing c with
  | nil => exact .inl h
  | cons step steps ih =>
    simp only [List.mem_cons, exists_eq_or_imp, ← or_assoc]
    exact (ih h).imp_left deadline_shrink

/-- The deadline of a derived context is the earliest of its bounds. -/
theorem deadline_le (h : (c.derive steps).deadline = some t) : ∀ bound ∈ c.bounds steps, t ≤ bound := by
  intro bound hb
  obtain ⟨deadline, hd, hle⟩ := isExpired_iff.mp (isExpired_derive_of_bound hb)
  cases h.symm.trans hd
  exact hle

theorem deadline_eq_none_iff : (c.derive steps).deadline = none ↔ c.bounds steps = [] := by
  rw [List.eq_nil_iff_forall_not_mem]
  constructor
  · intro hn bound hb
    obtain ⟨deadline, hd, -⟩ := isExpired_iff.mp (isExpired_derive_of_bound hb)
    cases hn.symm.trans hd
  · intro hn
    cases hd : (c.derive steps).deadline with
    | none => rfl
    | some t => exact absurd (deadline_mem_bounds hd) (hn t)

theorem deadline_eq_some_iff :
    (c.derive steps).deadline = some t ↔ t ∈ c.bounds steps ∧ ∀ bound ∈ c.bounds steps, t ≤ bound := by
  refine ⟨fun h => ⟨deadline_mem_bounds h, deadline_le h⟩, fun ⟨hmem, hle⟩ => ?_⟩
  cases hd : (c.derive steps).deadline with
  | none =>
    rw [deadline_eq_none_iff.mp hd] at hmem
    cases hmem
  | some u => rw [Instant.le_antisymm (deadline_le hd t hmem) (hle u (deadline_mem_bounds hd))]

/-- Only which steps are made counts. -/
theorem derive_congr (h : ∀ step, step ∈ other ↔ step ∈ steps) : c.derive other = c.derive steps := by
  have hbounds (bound : Instant) : bound ∈ c.bounds other ↔ bound ∈ c.bounds steps := by
    simp only [mem_bounds, h]
  have hdeadline : (c.derive other).deadline = (c.derive steps).deadline := by
    ext t
    simp only [deadline_eq_some_iff, hbounds]
  have htoken : (c.derive other).token = (c.derive steps).token := by rw [token_derive, token_derive]
  generalize c.derive other = d at hdeadline htoken ⊢
  generalize c.derive steps = e at hdeadline htoken ⊢
  cases d
  cases e
  exact congr (congrArg CallContext.mk hdeadline) htoken

/-- Deriving only tightens. The deadline after a chain of steps is the earliest of the bounds, which are the
    original deadline and the sums that are in range; without any bound there is none. So neither the order of
    the steps counts nor how often one is made, and what is derived further expires no later. A context is
    expired exactly when no time remains. All contexts of the family share one flag: cancelling any of them
    cancels the others, for good, and cancelling other contexts does not. -/
theorem derivation_law (c : CallContext) (steps : List (Instant × Duration)) :
    let d := c.derive steps
    let bounds := c.bounds steps
    (∀ t, d.deadline = some t ↔ t ∈ bounds ∧ ∀ bound ∈ bounds, t ≤ bound) ∧
      (d.deadline = none ↔ bounds = []) ∧
      (∀ other, (∀ step, step ∈ other ↔ step ∈ steps) → c.derive other = d) ∧
      (∀ more, let e := c.derive (steps ++ more)
        (∀ t, d.deadline = some t → ∃ u, e.deadline = some u ∧ u ≤ t) ∧
          ∀ now, d.isExpired now = true → e.isExpired now = true) ∧
      (∀ now, d.isExpired now = true ↔ d.remaining now = some .zero) ∧
      (∀ (flags : Cancellations) t,
        (flags.cancel t).isCancelled d.token = true ↔ t = c.token ∨ flags.isCancelled d.token = true) ∧
      ∀ other (flags later : Cancellations), (flags.cancel (c.derive other).token).Later later →
        later.isCancelled d.token = true := by
  intro d bounds
  have expires (more : List (Instant × Duration)) {now : Instant} (h : d.isExpired now = true) :
      (c.derive (steps ++ more)).isExpired now = true := by
    rw [derive_append]
    exact isExpired_derive.mpr (.inl h)
  refine ⟨fun t => deadline_eq_some_iff, deadline_eq_none_iff, fun other => derive_congr,
    fun more => ⟨?_, fun now => expires more⟩, fun now => isExpired_iff_remaining, fun flags t => ?_,
    fun other flags later h => ?_⟩
  · intro t hd
    exact isExpired_iff.mp (expires more (isExpired_iff.mpr ⟨t, hd, Int.le_refl _⟩))
  · rw [Cancellations.isCancelled_cancel_iff, token_derive, eq_comm]
  · rw [token_derive] at h ⊢
    exact h.isCancelled (Cancellations.isCancelled_cancel_iff.mpr (.inl rfl))

/-- Of three steps one is out of range, and of the other two the second ends first. -/
theorem derivation_law_out_of_range :
    let later : Instant := { nanos := 1000000 }
    let steps : List (Instant × Duration) :=
      [(.origin, .ofMillis 5), (later, .ofMillis 3), (.origin, .longest)]
    let c : CallContext := { token := ⟨0⟩ }
    (c.derive steps).deadline = some { nanos := 4000000 } ∧
      (c.derive [(later, .ofMillis 3), (.origin, .longest), (later, .ofMillis 3), (.origin, .ofMillis 5)]) =
        c.derive steps := by
  intro later steps c
  obtain ⟨hdeadline, -, horder, -⟩ := derivation_law c steps
  exact ⟨(hdeadline _).mpr (by decide), horder _ (by grind)⟩

end CallContext
end Resilience
