import Resilience.Proofs.Breaker.Window

/-! Looking at a breaker. A look applies what the passing of time has made due, and so does the next
    request for permission. Two runs that differ only in how often the breaker was looked at therefore go
    on alike (`Ahead`), up to two ends: a report of a late call counts in a trial period that a look has
    begun, and the remainder of a counting window is cut off at 64 bits. -/

namespace Resilience.Breaker

/-- The events that are not looks. -/
def unwatched (history : List Event) : List Event := history.filter fun e => e.2 ≠ .snapshot

/-- Whether of the events to come a request for permission or a reset is the first that counts: before
    it there are only looks and reports that count as nothing. -/
def Config.AsksFirst (c : Config) : List Event → Prop
  | [] => True
  | (_, .allow) :: _ | (_, .reset) :: _ => True
  | (_, .snapshot) :: rest => c.AsksFirst rest
  | (_, .report o) :: rest => c.classify o = .ignored ∧ c.AsksFirst rest

instance Config.decidableAsksFirst (c : Config) : (history : List Event) → Decidable (c.AsksFirst history)
  | [] | (_, .allow) :: _ | (_, .reset) :: _ => inferInstanceAs (Decidable True)
  | (_, .snapshot) :: rest => decidableAsksFirst c rest
  | (_, .report o) :: rest =>
    have := decidableAsksFirst c rest
    inferInstanceAs (Decidable (c.classify o = .ignored ∧ c.AsksFirst rest))

/-- The breaker without its totals. -/
def State.bare (s : State) : State := { s with metrics := {} }

/-- The answer of an operation and the breaker that it left, without its totals. -/
def Step.effect {α : Type} (step : Step α) : α × State := (step.result, step.state.bare)

namespace State

/-- At every request for permission along a history: its answer, and the breaker that it left, without its
    totals. -/
def permissions (c : Config) : State → List Event → List (Answer × State)
  | _, [] => []
  | s, (now, .allow) :: rest =>
    let step := s.perform c now .allow
    step.effect :: permissions c step.state rest
  | s, e :: rest => permissions c (s.perform c e.1 e.2).state rest

/-- No look along the history begins a trial period in which a late report counts before a trial is
    asked for. -/
def Undisturbed (c : Config) : State → List Event → Prop
  | _, [] => True
  | s, e :: rest =>
    let step := s.perform c e.1 e.2
    (e.2 = .snapshot → step.transition ≠ none → c.AsksFirst rest) ∧ Undisturbed c step.state rest

instance decidableUndisturbed (c : Config) :
    (s : State) → (history : List Event) → Decidable (s.Undisturbed c history)
  | _, [] => inferInstanceAs (Decidable True)
  | s, e :: rest =>
    have := decidableUndisturbed c (s.perform c e.1 e.2).state rest
    inferInstanceAs (Decidable ((e.2 = .snapshot → (s.perform c e.1 e.2).transition ≠ none → c.AsksFirst rest) ∧
      (s.perform c e.1 e.2).state.Undisturbed c rest))

/-- At `now`, with `coming` ahead, `s` may have been looked at more often than `t`. -/
inductive Ahead (c : Config) (now : Instant) (coming : List Event) (s t : State) : Prop
  /-- A look from now on leaves both alike. -/
  | level (alike : ∀ u, now ≤ u → (s.rollWindow c u).bare = (t.rollWindow c u).bare)
  /-- A look at `s` has begun the trial period that is due in `t`. -/
  | trying (opened : t.phase = .opened) (due : t.isDue now = true) (begun : s.bare = (t.probe now).bare)
    (first : c.AsksFirst coming)

variable {c : Config} {now u : Instant} {o : Outcome} {op : Operation} {e : Event}
  {coming : List Event} {s t : State}

/-! ### Totals do not matter -/

theorem phase_eq_of_bare (h : s.bare = t.bare) : s.phase = t.phase :=
  show s.bare.phase = t.bare.phase from congrArg State.phase h

theorem rollWindow_bare : s.bare.rollWindow c now = (s.rollWindow c now).bare := by
  unfold rollWindow bare
  dsimp only
  split
  · rfl
  · split <;> rfl

theorem allow_bare : (s.bare.allow c now).effect = (s.allow c now).effect := by
  cases hp : s.phase with
  | closed =>
    have hb : s.bare.phase = .closed := hp
    rw [allow_closed hp, allow_closed hb, rollWindow_bare]
    rfl
  | opened =>
    have hb : s.bare.phase = .opened := hp
    have hd : s.bare.isDue now = s.isDue now := rfl
    rw [allow_opened hp, allow_opened hb, hd]
    split <;> rfl
  | halfOpen =>
    have hb : s.bare.phase = .halfOpen := hp
    rw [allow_halfOpen hp, allow_halfOpen hb, apply_ite Step.effect, apply_ite Step.effect]
    rfl

theorem snapshot_bare : (s.bare.snapshot c now).effect = (s.snapshot c now).effect := by
  cases hp : s.phase with
  | closed =>
    have hb : s.bare.phase = .closed := hp
    rw [snapshot_closed hp, snapshot_closed hb, rollWindow_bare]
    rfl
  | opened =>
    have hb : s.bare.phase = .opened := hp
    have hd : s.bare.isDue now = s.isDue now := rfl
    rw [snapshot_opened hp, snapshot_opened hb, hd]
    split <;> rfl
  | halfOpen =>
    have hb : s.bare.phase = .halfOpen := hp
    rw [snapshot_halfOpen hp, snapshot_halfOpen hb]
    rfl

theorem report_bare : (s.bare.report c now o).effect = (s.report c now o).effect := by
  cases hp : s.phase with
  | closed =>
    have hb : s.bare.phase = .closed := hp
    rw [report_closed hp, report_closed hb, rollWindow_bare]
    cases c.classify o with
    | ignored | success => rfl
    | failure =>
      dsimp only
      rw [apply_ite Step.effect, apply_ite Step.effect]
      rfl
  | opened =>
    have hb : s.bare.phase = .opened := hp
    rw [report_opened hp, report_opened hb]
    rfl
  | halfOpen =>
    have hb : s.bare.phase = .halfOpen := hp
    rw [report_halfOpen hp, report_halfOpen hb]
    cases c.classify o with
    | ignored | failure => rfl
    | success =>
      dsimp only
      rw [apply_ite Step.effect, apply_ite Step.effect]
      rfl

theorem reset_bare : (s.bare.reset c now).effect = (s.reset c now).effect := by
  by_cases hp : s.phase = .closed
  · have hb : s.bare.phase = .closed := hp
    rw [reset_closed hp, reset_closed hb]
    rfl
  · have hb : s.bare.phase ≠ .closed := hp
    rw [reset_of_ne hp, reset_of_ne hb]
    rfl

theorem perform_bare : (s.bare.perform c now op).effect = (s.perform c now op).effect := by
  cases op with
  | allow => exact congrArg (Prod.map Answer.permission id) allow_bare
  | report o => exact congrArg (Prod.map (fun _ => Answer.done) id) report_bare
  | snapshot => exact congrArg (Prod.map Answer.seen id) snapshot_bare
  | reset => exact congrArg (Prod.map (fun _ => Answer.done) id) reset_bare

theorem rollWindow_congr (h : s.bare = t.bare) : (s.rollWindow c now).bare = (t.rollWindow c now).bare := by
  rw [← rollWindow_bare, h, rollWindow_bare]

/-! ### Looking twice at the clock -/

theorem isDue_mono (h : s.isDue now = true) (le : now ≤ u) : s.isDue u = true := by
  have le : now.nanos ≤ u.nanos := le
  simp only [isDue, Bool.and_eq_true, decide_eq_true_eq] at h ⊢
  obtain ⟨hp, hd⟩ := h
  have hd : s.timeout.nanos ≤ (now.nanos - (s.openedAt.getD now).nanos).toNat := hd
  refine ⟨hp, ?_⟩
  show s.timeout.nanos ≤ (u.nanos - (s.openedAt.getD u).nanos).toNat
  cases ho : s.openedAt with
  | none =>
    simp only [ho, Option.getD_none] at hd ⊢
    omega
  | some since =>
    simp only [ho, Option.getD_some] at hd ⊢
    omega

section
variable {interval : Duration} {start : Instant}

theorem windowBoundary_of_lt (fits : interval.nanos < UInt64.size) (hs : start ≤ now)
    (h : now.since start < interval) : windowBoundary interval start now = start := by
  have hs : start.nanos ≤ now.nanos := hs
  have h : (now.since start).nanos < interval.nanos := h
  have hsince : (now.since start).nanos = (now.nanos - start.nanos).toNat := rfl
  apply Instant.ext
  rw [windowBoundary_nanos fits (by omega) hs, Nat.mod_eq_of_lt h]
  omega

/-- A boundary lies whole intervals after the start, so counting on from there gives the same boundaries. -/
theorem windowBoundary_windowBoundary (fits : interval.nanos < UInt64.size) (pos : 0 < interval.nanos)
    (hs : start ≤ now) (le : now ≤ u) :
    windowBoundary interval start now ≤ u ∧
      windowBoundary interval (windowBoundary interval start now) u = windowBoundary interval start u := by
  have hs' : start.nanos ≤ now.nanos := hs
  have le' : now.nanos ≤ u.nanos := le
  have hsince : (now.since start).nanos = (now.nanos - start.nanos).toNat := rfl
  have hsince' : (u.since start).nanos = (u.nanos - start.nanos).toNat := rfl
  -- The first boundary lies `k` whole intervals after the start.
  obtain ⟨k, hk⟩ : ∃ k, (now.since start).nanos / interval.nanos = k := ⟨_, rfl⟩
  have hdiv := Nat.div_add_mod (now.since start).nanos interval.nanos
  rw [hk] at hdiv
  have hw : (windowBoundary interval start now).nanos = start.nanos + (interval.nanos * k : Nat) := by
    rw [windowBoundary_nanos fits pos hs]
    omega
  generalize windowBoundary interval start now = w at hw
  have hwu : w ≤ u := by
    show w.nanos ≤ u.nanos
    omega
  have hmod : (u.since w).nanos % interval.nanos = (u.since start).nanos % interval.nanos := by
    have hsplit : (u.since start).nanos = (u.since w).nanos + interval.nanos * k := by
      have : (u.since w).nanos = (u.nanos - w.nanos).toNat := rfl
      omega
    rw [hsplit, Nat.add_mul_mod_self_left]
  refine ⟨hwu, Instant.ext ?_⟩
  rw [windowBoundary_nanos fits pos hwu, windowBoundary_nanos fits pos (Int.le_trans hs' le'), hmod]

end

theorem rollWindow_early (early : now.since s.windowStart < c.counterResetInterval) :
    s.rollWindow c now = s := by
  simp only [rollWindow, early, ↓reduceIte, ite_self]

theorem rollWindow_late (runs : ¬(s.phase ≠ .closed ∨ c.counterResetInterval.isZero))
    (late : ¬now.since s.windowStart < c.counterResetInterval) :
    s.rollWindow c now =
      { s with
        windowStart := windowBoundary c.counterResetInterval s.windowStart now
        failures := 0
        successes := 0 } :=
  (if_neg runs).trans (if_neg late)

section
variable (fits : c.counterResetInterval.nanos < UInt64.size)
include fits

theorem rollWindow_rollWindow (le : now ≤ u) :
    (s.rollWindow c now).rollWindow c u = s.rollWindow c u := by
  by_cases runs : s.phase ≠ .closed ∨ c.counterResetInterval.isZero
  · have idle : s.rollWindow c now = s := if_pos runs
    rw [idle]
  by_cases late : now.since s.windowStart < c.counterResetInterval
  · rw [rollWindow_early late]
  have pos : 0 < c.counterResetInterval.nanos := by
    rw [not_or, Duration.isZero, beq_iff_eq] at runs
    omega
  have hstart : s.windowStart ≤ now ∧ ¬u.since s.windowStart < c.counterResetInterval := by
    have le : now.nanos ≤ u.nanos := le
    have late : c.counterResetInterval.nanos ≤ (now.nanos - s.windowStart.nanos).toNat := Nat.le_of_not_lt late
    refine ⟨?_, Nat.not_lt.mpr ?_⟩
    · show s.windowStart.nanos ≤ now.nanos
      omega
    · show c.counterResetInterval.nanos ≤ (u.nanos - s.windowStart.nanos).toNat
      omega
  -- Beyond the interval both sides start a new window at `u`, unless the first look already has, in which
  -- case its window is the one that holds `u`.
  obtain ⟨hwu, hgrid⟩ := windowBoundary_windowBoundary fits pos hstart.1 le
  rw [rollWindow_late runs late, rollWindow_late runs hstart.2, ← hgrid]
  generalize windowBoundary c.counterResetInterval s.windowStart now = w at hwu
  by_cases early : u.since w < c.counterResetInterval
  · rw [rollWindow_early early, windowBoundary_of_lt fits hwu early]
  · exact rollWindow_late runs early

/-- Each operation on a closed breaker first looks at the window, or overwrites it. -/
theorem perform_rollWindow : (s.rollWindow c now).perform c now op = s.perform c now op := by
  by_cases hp : s.phase = .closed
  · have hr : (s.rollWindow c now).phase = .closed := (rollWindow_phase ..).trans hp
    have twice : (s.rollWindow c now).rollWindow c now = s.rollWindow c now :=
      rollWindow_rollWindow fits (Int.le_refl _)
    cases op with
    | allow => simp only [perform, allow_closed hp, allow_closed hr, twice]
    | report o => simp only [perform, report_closed hp, report_closed hr, twice]
    | snapshot => simp only [perform, snapshot_closed hp, snapshot_closed hr, twice]
    | reset =>
      simp only [perform, reset_closed hp, reset_closed hr]
      rcases rollWindow_eq_or c now s with he | he <;> rw [he]
  · rw [rollWindow_of_ne hp]

/-- Breakers that a look would leave alike answer alike and are left alike. -/
theorem perform_congr (h : (s.rollWindow c now).bare = (t.rollWindow c now).bare) :
    (s.perform c now op).effect = (t.perform c now op).effect := by
  rw [← perform_rollWindow fits, ← perform_bare, h, perform_bare, perform_rollWindow fits]

/-! ### One event -/

namespace Ahead

omit fits in
theorem of_bare (h : s.bare = t.bare) : Ahead c now coming s t := .level fun _ _ => rollWindow_congr h

/-- A look at `s` keeps it ahead. -/
theorem look (h : Ahead c now ((u, .snapshot) :: coming) s t) (le : now ≤ u)
    (calm : (s.snapshot c u).transition ≠ none → c.AsksFirst coming) :
    Ahead c u coming (s.snapshot c u).state t := by
  rcases h with alike | ⟨opened, due, begun, first⟩
  · have later (v : Instant) (hv : u ≤ v) := alike v (Int.le_trans le hv)
    cases hp : s.phase with
    | closed =>
      rw [snapshot_closed hp]
      refine .level fun v hv => ?_
      rw [rollWindow_rollWindow fits hv]
      exact later v hv
    | opened =>
      have hbare := later u (Int.le_refl _)
      have ht : t.phase = .opened := by
        have hphase : (s.rollWindow c u).phase = (t.rollWindow c u).phase := phase_eq_of_bare hbare
        rwa [rollWindow_phase, rollWindow_phase, hp, eq_comm] at hphase
      rw [rollWindow_of_ne (by simp [hp]), rollWindow_of_ne (by simp [ht])] at hbare
      rw [snapshot_opened hp] at calm ⊢
      by_cases hd : s.isDue u = true
      · -- The look begins the trial period; in `t` it stays due until somebody asks.
        rw [if_pos hd] at calm ⊢
        have due : t.isDue u = true := (congrArg (isDue u) hbare).symm.trans hd
        have begun : (s.probe u).bare = (t.probe u).bare := congrArg (fun s => (s.probe u).bare) hbare
        exact .trying ht due begun (calm (by simp))
      · rw [if_neg hd]
        exact .of_bare hbare
    | halfOpen =>
      rw [snapshot_halfOpen hp]
      exact .level later
  · have hp : s.phase = .halfOpen := phase_eq_of_bare begun
    rw [snapshot_halfOpen hp]
    exact .trying opened (isDue_mono due le) begun first

/-- Whoever asks first in a trial period that a look has begun is admitted to it, as one who finds the
    open time over is. -/
theorem allow (h : Ahead c now ((u, .allow) :: coming) s t) (le : now ≤ u) :
    (s.perform c u .allow).effect = (t.perform c u .allow).effect := by
  rcases h with alike | ⟨opened, due, begun, -⟩
  · exact perform_congr fits (alike u le)
  · have hd : t.isDue u = true := isDue_mono due le
    have hb : (t.probe now).successes + (t.probe now).inFlight < c.trialBudget := c.one_le_trialBudget
    have hp : (t.probe now).phase = .halfOpen := rfl
    rw [perform_congr fits (rollWindow_congr begun)]
    simp only [perform, allow_opened opened, if_pos hd, allow_halfOpen hp, if_pos hb]
    rfl

theorem reset (h : Ahead c now ((u, .reset) :: coming) s t) (le : now ≤ u) :
    Ahead c u coming (s.perform c u .reset).state (t.perform c u .reset).state := by
  rcases h with alike | ⟨opened, -, begun, -⟩
  · exact .of_bare (congrArg Prod.snd (perform_congr fits (alike u le)))
  · have hs : s.phase ≠ .closed := by simp [phase_eq_of_bare begun, probe, mark]
    have ht : t.phase ≠ .closed := by simp [opened]
    simp only [perform, reset_of_ne hs, reset_of_ne ht]
    exact .of_bare rfl

/-- A report that counts as nothing only ends a trial, and there is none. -/
theorem report (h : Ahead c now ((u, .report o) :: coming) s t) (le : now ≤ u) :
    Ahead c u coming (s.perform c u (.report o)).state (t.perform c u (.report o)).state := by
  rcases h with alike | ⟨opened, due, begun, ignored, first⟩
  · exact .of_bare (congrArg Prod.snd (perform_congr fits (alike u le)))
  · have hp : (t.probe now).phase = .halfOpen := rfl
    have hs : (s.perform c u (.report o)).effect = ((t.probe now).perform c u (.report o)).effect :=
      perform_congr fits (rollWindow_congr begun)
    simp only [perform, report_opened opened]
    refine .trying opened (isDue_mono due le) ((congrArg Prod.snd hs).trans ?_) first
    simp only [perform, report_halfOpen hp, ignored]
    rfl

/-- A look at both sees the same. -/
theorem seen (h : Ahead c now coming s t) (le : now ≤ u) :
    (s.snapshot c u).result = (t.snapshot c u).result := by
  rcases h with alike | ⟨opened, due, begun, -⟩
  · have hs : (s.perform c u .snapshot).effect = (t.perform c u .snapshot).effect :=
      perform_congr fits (alike u le)
    exact Answer.seen.inj (congrArg Prod.fst hs)
  · have hp : s.phase = .halfOpen := phase_eq_of_bare begun
    have hd : t.isDue u = true := isDue_mono due le
    have hview : s.bare.view = (t.probe now).bare.view := congrArg State.view begun
    rw [snapshot_halfOpen hp, snapshot_opened opened, if_pos hd]
    exact hview

end Ahead

/-! ### A run -/

theorem Ahead.run {history : List Event} (h : Ahead c now history s t) (calm : s.Undisturbed c history)
    (ordered : (now :: (history.map (·.1) ++ [u])).Pairwise (· ≤ ·)) :
    s.permissions c history = t.permissions c (unwatched history) ∧
      ((s.after c history).snapshot c u).result = ((t.after c (unwatched history)).snapshot c u).result := by
  induction history generalizing now s t with
  | nil =>
    have le : now ≤ u := (List.pairwise_cons.mp ordered).1 u List.mem_cons_self
    exact ⟨rfl, Ahead.seen fits h le⟩
  | cons e rest ih =>
    obtain ⟨v, op⟩ := e
    rw [List.map_cons, List.cons_append, List.pairwise_cons] at ordered
    obtain ⟨hle, ordered⟩ := ordered
    have le : now ≤ v := hle v List.mem_cons_self
    obtain ⟨first, calm⟩ := calm
    cases op with
    | allow =>
      have he := Ahead.allow fits h le
      obtain ⟨hrest, hseen⟩ := ih (.of_bare (congrArg Prod.snd he)) calm ordered
      exact ⟨List.cons_eq_cons.mpr ⟨he, hrest⟩, hseen⟩
    | report o => exact ih (Ahead.report fits h le) calm ordered
    | snapshot => exact ih (Ahead.look fits h le (first rfl)) calm ordered
    | reset => exact ih (Ahead.reset fits h le) calm ordered

end

/-- Looking at a breaker is neutral, as long as no look begins a trial period in which a late report
    counts before a trial is asked for, and the interval fits into 64 bits of nanoseconds: whoever asks
    for permission gets the same answer from the same breaker as if nobody had looked, and whoever looks
    in the end sees the same. -/
theorem polling_law (c : Config) (s : State) (history : List Event) (now : Instant)
    (fits : c.counterResetInterval.nanos < UInt64.size) (calm : s.Undisturbed c history)
    (ordered : (history.map (·.1) ++ [now]).Pairwise (· ≤ ·)) :
    s.permissions c history = s.permissions c (unwatched history) ∧
      ((s.after c history).snapshot c now).result =
        ((s.after c (unwatched history)).snapshot c now).result := by
  cases history with
  | nil => exact ⟨rfl, rfl⟩
  | cons e rest =>
    have level : Ahead c e.1 (e :: rest) s s := .of_bare rfl
    refine Ahead.run fits level calm (List.pairwise_cons.mpr ⟨fun u hu => ?_, ordered⟩)
    rcases List.mem_cons.mp hu with rfl | hu
    · exact Int.le_refl _
    · exact (List.pairwise_cons.mp ordered).1 u hu

/-- A trial period that a look has begun goes on through a report that counts as nothing: the call after
    it is permitted, with the look and without it. -/
theorem polling_law_ignored_report :
    let c : Config := { failureThreshold := 1, openTimeout := .ofSeconds 1, failOnCancel := false }
    let second : Instant := { nanos := 1000000000 }
    let s := (fresh c .origin).after c [(.origin, .report (.failure .zero))]
    let history : List Event :=
      [(second, .snapshot), (second, .report (.cancellation .zero)), (second, .allow), (second, .snapshot)]
    c.counterResetInterval.nanos < UInt64.size ∧ s.Undisturbed c history ∧
      (history.map (·.1) ++ [second]).Pairwise (· ≤ ·) ∧
      (s.permissions c history).map (·.1) = [.permission true] ∧
      ((s.after c history).snapshot c second).result.phase = .halfOpen := by
  intro c second s history
  have fits : c.counterResetInterval.nanos < UInt64.size := by decide
  have calm : s.Undisturbed c history := by decide
  have ordered : (history.map (·.1) ++ [second]).Pairwise (· ≤ ·) := by decide
  obtain ⟨hpermissions, hseen⟩ := polling_law c s history second fits calm ordered
  refine ⟨fits, calm, ordered, ?_, ?_⟩
  · rw [hpermissions]
    decide
  · rw [hseen]
    decide

/-- Where a look is not neutral. A failure that comes in after the open time is over is too late to count,
    but after a look it ends the trial period. And of a window of `2^65` nanoseconds a look in its second
    half keeps too little of what has passed, so that two failures close together fall into two windows. -/
theorem looks_not_neutral :
    let failure : Operation := .report (.failure .zero)
    (let c : Config := { failureThreshold := 1, openTimeout := .ofSeconds 1 }
      let second : Instant := { nanos := 1000000000 }
      let s := (fresh c .origin).after c [(.origin, failure)]
      let history : List Event := [(second, failure), (second, .allow)]
      (s.permissions c history).map (·.1) = [.permission true] ∧
        (s.permissions c ((second, .snapshot) :: history)).map (·.1) = [.permission false]) ∧
    (let c : Config := { failureThreshold := 2, counterResetInterval := { nanos := 2 * 18446744073709551616 } }
      let look : Instant := { nanos := 3 * 18446744073709551616 + 10 }
      let first : Instant := { nanos := 4 * 18446744073709551616 + 3 }
      let second : Instant := { nanos := 4 * 18446744073709551616 + 20 }
      let s := fresh c .origin
      let history : List Event := [(first, failure), (second, failure), (second, .allow)]
      (s.permissions c history).map (·.1) = [.permission false] ∧
        (s.permissions c ((look, .snapshot) :: history)).map (·.1) = [.permission true]) := by
  decide

end State
end Resilience.Breaker
