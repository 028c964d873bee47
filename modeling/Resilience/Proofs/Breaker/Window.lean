import Resilience.Proofs.Breaker.Runs

/-! Counting windows. A breaker keeps a failure count and the start of the current window, which it moves
    only when an operation looks at the clock. Over a whole closed episode this counts the failures in
    the cells of a fixed grid that begins with the episode, however often and however late it is looked
    at: after every event the window is the grid cell of that event (`Counting`). -/

namespace Resilience.Breaker

/-- The cell of the grid from `w₀` that holds `t`: how many whole intervals have passed. Without an
    interval the whole episode is one cell. -/
def Config.cell (c : Config) (w₀ t : Instant) : Nat :=
  if c.counterResetInterval.isZero then 0 else (t.since w₀).nanos / c.counterResetInterval.nanos

def Config.failuresIn (c : Config) (w₀ t : Instant) (history : List Event) : Nat :=
  history.countP fun e => c.verdict? e = some .failure ∧ c.cell w₀ e.1 = c.cell w₀ t

namespace State

/-- `ClosedSince c start before w₀`: the history `before` of a breaker built at `start` has just begun a
    closed episode, at `w₀`. Every reset begins a new one. -/
inductive ClosedSince (c : Config) (start : Instant) : List Event → Instant → Prop
  | built : ClosedSince c start [] start
  | closing (before : List Event) (e : Event) (h : ((fresh c start).after c before).phase ≠ .closed)
    (h' : ((fresh c start).after c (before ++ [e])).phase = .closed) :
    ClosedSince c start (before ++ [e]) e.1
  | reset (before : List Event) (now : Instant) : ClosedSince c start (before ++ [(now, .reset)]) now

/-- In the closed episode from `w₀`, after the events `past`, the last of them at `last`: the window is
    the cell of `last`, and the failures of that cell are counted. -/
structure Counting (c : Config) (w₀ : Instant) (past : List Event) (last : Instant) (s : State) : Prop where
  closed : s.phase = .closed
  begun : w₀ ≤ last
  past_le : ∀ e ∈ past, e.1 ≤ last
  windowStart : s.windowStart.nanos = w₀.nanos + (c.counterResetInterval.nanos * c.cell w₀ last : Nat)
  failures : s.failures = c.failuresIn w₀ last past

variable {c : Config} {start w₀ last now t : Instant} {past : List Event} {s : State} {o : Outcome}

/-! ### Cells -/

theorem cell_mono (c : Config) (w₀ : Instant) {t u : Instant} (h : t ≤ u) : c.cell w₀ t ≤ c.cell w₀ u := by
  have : t.nanos ≤ u.nanos := h
  unfold Config.cell
  split
  · exact Nat.le_refl _
  · apply Nat.div_le_div_right
    simp only [Instant.since]
    omega

theorem failuresIn_congr (h : c.cell w₀ t = c.cell w₀ last) :
    c.failuresIn w₀ t past = c.failuresIn w₀ last past := by
  simp only [Config.failuresIn, h]

/-- Nothing was reported yet in a cell that no event has reached. -/
theorem failuresIn_eq_zero (hp : ∀ e ∈ past, e.1 ≤ last) (h : c.cell w₀ last < c.cell w₀ t) :
    c.failuresIn w₀ t past = 0 := by
  rw [Config.failuresIn, List.countP_eq_zero]
  intro e he
  have := cell_mono c w₀ (hp e he)
  simp only [decide_eq_true_eq, not_and]
  intro _
  omega

theorem failuresIn_append (e : Event) :
    c.failuresIn w₀ t (past ++ [e]) = c.failuresIn w₀ t past + c.failuresIn w₀ t [e] :=
  List.countP_append

/-- The last boundary before `now`, as long as the interval fits into 64 bits of nanoseconds. -/
theorem windowBoundary_nanos {interval : Duration} (fits : interval.nanos < UInt64.size)
    (pos : 0 < interval.nanos) (h : start ≤ now) :
    (windowBoundary interval start now).nanos =
      now.nanos - ((now.since start).nanos % interval.nanos : Nat) := by
  have hle : start.nanos ≤ now.nanos := h
  have hlow := start.lower
  have hup := now.upper
  have hsince : (now.since start).nanos = (now.nanos - start.nanos).toNat := rfl
  have hmod := Nat.mod_lt (now.since start).nanos pos
  have hmod' := Nat.mod_le (now.since start).nanos interval.nanos
  have hmax := (now.since start).nanos_le
  have hin : min (min ((now.since start).nanos % interval.nanos) (UInt64.size - 1)) maxDurationNanos =
      (now.since start).nanos % interval.nanos := by
    omega
  simp only [windowBoundary, Instant.sub?, Duration.clamp, hin, Instant.ofNanos?]
  rw [dif_pos (by omega)]
  rfl

/-! ### Looking at the clock -/

theorem Counting.keep (h : Counting c w₀ past last s) (hle : last ≤ t) (hcell : c.cell w₀ t = c.cell w₀ last) :
    Counting c w₀ past t s where
  closed := h.closed
  begun := Int.le_trans h.begun hle
  past_le e he := Int.le_trans (h.past_le e he) hle
  windowStart := by rw [hcell, h.windowStart]
  failures := by rw [failuresIn_congr hcell, h.failures]

/-- The time since the start of the window is what passed since the episode began, less the cells
    before the window. -/
theorem Counting.elapsed (h : Counting c w₀ past last s) (hle : last ≤ t) :
    c.counterResetInterval.nanos * c.cell w₀ last ≤ (t.since w₀).nanos ∧
      (t.since s.windowStart).nanos =
        (t.since w₀).nanos - c.counterResetInterval.nanos * c.cell w₀ last := by
  have hbelow : c.counterResetInterval.nanos * c.cell w₀ last ≤ (t.since w₀).nanos := by
    refine Nat.le_trans (Nat.mul_le_mul_left _ (cell_mono c w₀ hle)) ?_
    unfold Config.cell
    split
    · exact Nat.zero_le _
    · exact Nat.mul_div_le _ _
  refine ⟨hbelow, ?_⟩
  have hws := h.windowStart
  simp only [Instant.since] at hbelow ⊢
  omega

theorem Counting.cell_eq (h : Counting c w₀ past last s) (hle : last ≤ t)
    (hlt : t.since s.windowStart < c.counterResetInterval) : c.cell w₀ t = c.cell w₀ last := by
  obtain ⟨hbelow, helapsed⟩ := h.elapsed hle
  have hlt : (t.since s.windowStart).nanos < c.counterResetInterval.nanos := hlt
  have hz : c.counterResetInterval.isZero = false := by
    rw [Duration.isZero, beq_eq_false_iff_ne]
    omega
  have hcell : c.cell w₀ t = (t.since w₀).nanos / c.counterResetInterval.nanos := by simp [Config.cell, hz]
  rw [hcell]
  apply Nat.div_eq_of_lt_le
  · rw [Nat.mul_comm]
    exact hbelow
  · rw [Nat.mul_comm, Nat.mul_add]
    omega

/-- Beyond the interval the window moves to the cell of `t`, where nothing was reported yet. -/
theorem Counting.move (fits : c.counterResetInterval.nanos < UInt64.size)
    (hz : c.counterResetInterval.isZero = false) (h : Counting c w₀ past last s) (hle : last ≤ t)
    (hge : ¬ t.since s.windowStart < c.counterResetInterval) :
    Counting c w₀ past t
      { s with
        windowStart := windowBoundary c.counterResetInterval s.windowStart t
        failures := 0
        successes := 0 } := by
  obtain ⟨hbelow, helapsed⟩ := h.elapsed hle
  have hge : c.counterResetInterval.nanos ≤ (t.since s.windowStart).nanos := Nat.le_of_not_lt hge
  have pos : 0 < c.counterResetInterval.nanos := by
    rw [Duration.isZero, beq_eq_false_iff_ne] at hz
    omega
  have hcell : c.cell w₀ t = (t.since w₀).nanos / c.counterResetInterval.nanos := by simp [Config.cell, hz]
  have hnext : c.cell w₀ last < c.cell w₀ t := by
    rw [hcell, Nat.lt_div_iff_mul_lt pos, Nat.mul_comm]
    omega
  have hbegun : w₀.nanos ≤ t.nanos := Int.le_trans h.begun hle
  refine ⟨h.closed, hbegun, fun e he => Int.le_trans (h.past_le e he) hle, ?_, ?_⟩
  · have hstart : s.windowStart ≤ t := by
      have : (t.since s.windowStart).nanos = (t.nanos - s.windowStart.nanos).toNat := rfl
      show s.windowStart.nanos ≤ t.nanos
      omega
    -- What is left over of the elapsed time does not depend on the window it is measured from.
    have hleft : (t.since s.windowStart).nanos % c.counterResetInterval.nanos =
        (t.since w₀).nanos % c.counterResetInterval.nanos := by
      rw [helapsed, Nat.sub_mul_mod hbelow]
    have hdiv := Nat.div_add_mod (t.since w₀).nanos c.counterResetInterval.nanos
    have hsince : (t.since w₀).nanos = (t.nanos - w₀.nanos).toNat := rfl
    dsimp only
    rw [windowBoundary_nanos fits pos hstart, hleft, hcell]
    omega
  · exact (failuresIn_eq_zero h.past_le hnext).symm

theorem Counting.roll (fits : c.counterResetInterval.nanos < UInt64.size) (h : Counting c w₀ past last s)
    (hle : last ≤ t) : Counting c w₀ past t (s.rollWindow c t) := by
  unfold rollWindow
  split
  · rename_i hz
    rcases hz with hp | hz
    · exact absurd h.closed hp
    · exact h.keep hle (by simp [Config.cell, hz])
  · rename_i hz
    rw [not_or, Bool.not_eq_true] at hz
    split
    · exact h.keep hle (h.cell_eq hle ‹_›)
    · exact h.move fits hz.2 hle ‹_›

/-! ### A closed episode -/

theorem Counting.begin (hp : s.phase = .closed) (hw : s.windowStart = w₀) (hf : s.failures = 0) :
    Counting c w₀ [] w₀ s where
  closed := hp
  begun := Int.le_refl _
  past_le := by simp
  windowStart := by
    have hcell : c.cell w₀ w₀ = 0 := by simp [Config.cell, Instant.since]
    simp [hw, hcell]
  failures := hf

theorem ClosedSince.counting {before : List Event} (h : ClosedSince c start before w₀) :
    Counting c w₀ [] w₀ ((fresh c start).after c before) := by
  cases h with
  | built => exact .begin rfl rfl rfl
  | closing before e h h' =>
    obtain ⟨now, op⟩ := e
    rw [after_append] at h' ⊢
    generalize (fresh c start).after c before = s at h h' ⊢
    change (s.perform c now op).state.phase = .closed at h'
    show Counting c now [] now (s.perform c now op).state
    cases op with
    | allow => exact absurd (catchUp_phase_closed ((allow_phase c now s).symm.trans h')) h
    | report o =>
      obtain ⟨r, hr⟩ := report_closing h h'
      simp only [perform, Step.map, hr]
      exact .begin rfl rfl rfl
    | snapshot => exact absurd (catchUp_phase_closed h') h
    | reset =>
      simp only [perform, Step.map, reset_of_ne h]
      exact .begin rfl rfl rfl
  | reset before =>
    rw [after_append]
    generalize (fresh c start).after c before = s
    show Counting c w₀ [] w₀ (s.perform c w₀ .reset).state
    by_cases hp : s.phase = .closed
    · simp only [perform, Step.map, reset_closed hp]
      exact .begin hp rfl rfl
    · simp only [perform, Step.map, reset_of_ne hp]
      exact .begin rfl rfl rfl

theorem Counting.snoc {s' : State} {e : Event} (h : Counting c w₀ past e.1 s) (hp : s'.phase = .closed)
    (hw : s'.windowStart = s.windowStart)
    (hf : s'.failures = s.failures + if c.verdict? e = some .failure then 1 else 0) :
    Counting c w₀ (past ++ [e]) e.1 s' where
  closed := hp
  begun := h.begun
  past_le x hx := by
    rcases List.mem_append.mp hx with hx | hx
    · exact h.past_le x hx
    · rw [List.mem_singleton.mp hx]
      exact Int.le_refl _
  windowStart := by rw [hw, h.windowStart]
  failures := by
    rw [hf, h.failures, failuresIn_append]
    simp [Config.failuresIn, List.countP_cons]

theorem Counting.report_opened_iff (fits : c.counterResetInterval.nanos < UInt64.size)
    (h : Counting c w₀ past last s) (hle : last ≤ t) (ho : c.classify o = .failure) :
    (s.report c t o).state.phase = .opened ↔
      c.failureBudget ≤ c.failuresIn w₀ t (past ++ [(t, .report o)]) := by
  have hroll := h.roll fits hle
  have hcount : c.failuresIn w₀ t (past ++ [(t, .report o)]) = (s.rollWindow c t).failures + 1 := by
    rw [failuresIn_append, ← hroll.failures]
    simp [Config.failuresIn, Config.verdict?, ho]
  rw [report_closed h.closed, ho, hcount]
  dsimp only
  split
  · exact iff_of_true rfl ‹_›
  · exact iff_of_false (by simp [enter, hroll.closed]) ‹_›

theorem Counting.perform {e : Event} (fits : c.counterResetInterval.nanos < UInt64.size)
    (h : Counting c w₀ past last s) (hle : last ≤ e.1) (hne : e.2 ≠ .reset)
    (hp : (s.perform c e.1 e.2).state.phase = .closed) :
    Counting c w₀ (past ++ [e]) e.1 (s.perform c e.1 e.2).state := by
  obtain ⟨t, op⟩ := e
  have hroll := h.roll fits hle
  refine hroll.snoc (e := (t, op)) hp ?_ ?_
  all_goals
    cases op with
    | allow => simp [State.perform, Step.map, allow_closed h.closed, Config.verdict?]
    | snapshot => simp [State.perform, Step.map, snapshot_closed h.closed, Config.verdict?]
    | reset => exact absurd rfl hne
    | report o =>
      simp only [State.perform, Step.map, report_closed h.closed] at hp ⊢
      cases hv : c.classify o with
      | ignored | success => simp [enter, Config.verdict?, hv]
      | failure =>
        simp only [hv] at hp ⊢
        split at hp
        · simp [trip, mark] at hp
        · rw [if_neg ‹_›]
          simp [enter, Config.verdict?, hv]

theorem Counting.after {during : List Event} (fits : c.counterResetInterval.nanos < UInt64.size)
    (h : Counting c w₀ past last s) (stays : s.Stays c .closed during)
    (kept : ∀ e ∈ during, e.2 ≠ .reset)
    (ordered : (last :: (during.map (·.1) ++ [t])).Pairwise (· ≤ ·)) :
    ∃ last', last' ≤ t ∧ Counting c w₀ (past ++ during) last' (s.after c during) := by
  induction during generalizing past last s with
  | nil => exact ⟨last, by simpa using ordered, by simpa [State.after] using h⟩
  | cons e rest ih =>
    rw [List.map_cons, List.cons_append, List.pairwise_cons] at ordered
    have hstep := h.perform fits (ordered.1 e.1 List.mem_cons_self) (kept e List.mem_cons_self) stays.2.head
    obtain ⟨last', hle, hc⟩ :=
      ih hstep stays.2 (fun x hx => kept x (List.mem_cons_of_mem _ hx)) ordered.2
    rw [List.append_assoc] at hc
    exact ⟨last', hle, hc⟩

/-- A closed breaker counts failures in the cells of a fixed grid that begins with the closed episode.
    A failure at `t` opens it if and only if the failures reported in the cell of `t`, this one
    included, are enough; and a snapshot at `t` shows the failures of that cell. Whatever else is asked
    meanwhile does not shift the grid. -/
theorem fixedWindow_law (c : Config) (start w₀ t : Instant) (before during : List Event)
    (fits : c.counterResetInterval.nanos < UInt64.size) (since : ClosedSince c start before w₀)
    (stays : ((fresh c start).after c before).Stays c .closed during)
    (kept : ∀ e ∈ during, e.2 ≠ .reset)
    (ordered : (w₀ :: (during.map (·.1) ++ [t])).Pairwise (· ≤ ·)) :
    let s := (fresh c start).after c (before ++ during)
    (∀ o, c.classify o = .failure →
      ((s.report c t o).state.phase = .opened ↔
        c.failureBudget ≤ c.failuresIn w₀ t (during ++ [(t, .report o)]))) ∧
      (s.snapshot c t).result.phase = .closed ∧
      (s.snapshot c t).result.failures = c.failuresIn w₀ t during := by
  intro s
  obtain ⟨last, hle, hcount⟩ := since.counting.after fits stays kept ordered
  rw [← after_append] at hcount
  refine ⟨fun o ho => hcount.report_opened_iff fits hle ho, ?_⟩
  rw [snapshot_closed hcount.closed]
  exact ⟨(hcount.roll fits hle).closed, (hcount.roll fits hle).failures⟩

/-- Two failures in the first minute after a reset and two in the second leave a breaker closed that
    three in one window open; a snapshot in the second minute shows two, and a third failure opens it. -/
theorem fixedWindow_law_second_minute :
    let c : Config := {}
    let t₁ : Instant := { nanos := 50000000000 }
    let t₂ : Instant := { nanos := 65000000000 }
    let t₃ : Instant := { nanos := 119000000000 }
    let failure : Operation := .report (.failure .zero)
    let before : List Event := [(.origin, .reset)]
    let during : List Event := [(t₁, failure), (t₁, failure), (t₂, .snapshot), (t₂, failure), (t₃, failure)]
    let s := (fresh c .origin).after c (before ++ during)
    c.counterResetInterval.nanos < UInt64.size ∧ ((fresh c .origin).after c before).Stays c .closed during ∧
      (s.report c t₃ (.failure .zero)).state.phase = .opened ∧ (s.snapshot c t₃).result.failures = 2 := by
  intro c t₁ t₂ t₃ failure before during
  have fits : c.counterResetInterval.nanos < UInt64.size := by decide
  have stays : ((fresh c .origin).after c before).Stays c .closed during := by decide
  obtain ⟨opens, -, shows⟩ :=
    fixedWindow_law c .origin .origin t₃ before during fits (.reset [] .origin) stays (by decide) (by decide)
  have enough : c.failureBudget ≤ c.failuresIn .origin t₃ (during ++ [(t₃, failure)]) := by decide
  have two : c.failuresIn .origin t₃ during = 2 := by decide
  exact ⟨fits, stays, (opens (.failure .zero) rfl).mpr enough, shows.trans two⟩

end State
end Resilience.Breaker
