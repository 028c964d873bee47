import Resilience.Proofs.Breaker.Changes

/-! Breakers with a state observer. An observer may look at the breaker from inside an announcement, and
    such a look may be late enough to begin a trial period, which is announced in turn. An operation has
    stored its state before anything is announced, so a run with an observer is the plain history of its
    operations and of the observer's looks, in the order they were made (`deeds`), and what the observer is
    told are the changes of phase along that history. -/

namespace Resilience.Breaker

variable {ρ : Type}

/-- An operation at an instant, and the instants at which an observer that is told of its change reads
    the clock for its looks. -/
structure Occasion where
  event : Event
  looks : Nat → Instant

/-- What a run with an observer leaves. -/
structure Watched (ρ : Type) where
  answers : List Answer
  state : State
  journal : List (Entry ρ)

/-- The changes that an observer was told of. -/
def notices (journal : List (Entry ρ)) : List Transition :=
  journal.filterMap fun
    | .transition t => some t
    | _ => none

/-- The looks that an observer makes while it is told of a change that left the breaker in state `s`. The
    second one is made from inside the announcement of the change that the first one made. -/
def Observer.looks (o : Observer) (c : Config) (clock : Nat → Instant) (s : State) : List Event :=
  match o with
  | .absent | .recording => []
  | .polling =>
    if (s.snapshot c (clock 0)).transition = none then [(clock 0, .snapshot)]
    else [(clock 0, .snapshot), (clock 1, .snapshot)]

namespace State

/-- A run with an observer. Each operation is over, with all it announced, before the next one begins. -/
def watched (name : String) (c : Config) (o : Observer) : State → List Occasion → Watched ρ
  | s, [] => ⟨[], s, []⟩
  | s, e :: rest =>
    let step := s.perform c e.event.1 e.event.2
    let told := step.settle name (announceOn name c e.looks o)
    let later := watched name c o told.1 rest
    ⟨step.result :: later.answers, later.state, told.2 ++ later.journal⟩

/-- An operation and the looks of the observer that is told of its change. -/
def deed (c : Config) (o : Observer) (s : State) (e : Occasion) : List Event :=
  let step := s.perform c e.event.1 e.event.2
  e.event :: if step.transition = none then [] else o.looks c e.looks step.state

/-- Everything that is done to a breaker in a run with an observer. -/
def deeds (c : Config) (o : Observer) : State → List Occasion → List Event
  | _, [] => []
  | s, e :: rest => s.deed c o e ++ deeds c o (s.after c (s.deed c o e)) rest

variable {name : String} {c : Config} {o : Observer} {clock : Nat → Instant} {t : Transition} {s : State}

/-! ### What an observer is told -/

theorem notices_append (first rest : List (Entry ρ)) :
    notices (first ++ rest) = notices first ++ notices rest := List.filterMap_append

theorem notices_transition (t : Transition) (rest : List (Entry ρ)) :
    notices (.transition t :: rest) = t :: notices rest := rfl

/-- A change is logged whether or not anyone is told of it. -/
theorem notices_logLine (name : String) (t : Transition) (s : State) (rest : List (Entry ρ)) :
    notices (t.logLine name s :: rest) = notices rest := by
  unfold Transition.logLine
  split
  · split <;> rfl
  · rfl
  · rfl

/-- A look that changes nothing is the last one. -/
theorem announceOn_still (name : String) (c : Config) (clock : Nat → Instant) (t : Transition) (s : State)
    (h : (s.snapshot c (clock 0)).transition = none) :
    (announceOn name c clock .polling t s : State × List (Entry ρ)) =
      ((s.snapshot c (clock 0)).state, [.transition t, .observed (s.snapshot c (clock 0)).result]) := by
  rw [announceOn]
  split
  · rfl
  · rename_i inner hi
    rw [h] at hi
    cases hi

/-- A look that changes something is announced, and the look made then finds nothing to change. -/
theorem announceOn_nested (name : String) (c : Config) (clock : Nat → Instant) (t : Transition) (s : State)
    {inner : Transition} (h : (s.snapshot c (clock 0)).transition = some inner) :
    let look := s.snapshot c (clock 0)
    let second := look.state.snapshot c (clock 1)
    second.transition = none ∧
      (announceOn name c clock .polling t s : State × List (Entry ρ)) =
        (second.state, [.transition t, inner.logLine name look.state, .transition inner,
          .observed second.result, .observed look.result]) := by
  intro look second
  have hp : look.state.phase = .halfOpen := by
    rcases snapshot_inv c (clock 0) s with ⟨hn, -⟩ | ⟨-, -, hp⟩
    · rw [h] at hn
      cases hn
    · exact hp
  have hsecond : second.transition = none := by simp only [second, snapshot_halfOpen hp]
  refine ⟨hsecond, ?_⟩
  rw [announceOn]
  split
  · rename_i hn
    rw [h] at hn
    cases hn
  · rename_i inner' hi
    cases h.symm.trans hi
    dsimp only
    rw [announceOn_still name c (fun n => clock (n + 1)) inner _ hsecond]
    rfl

/-- Telling an observer does to the breaker what the observer's looks do, and the observer is told of the
    change and of those that its looks make. -/
theorem announceOn_looks (ρ : Type) (name : String) (c : Config) (clock : Nat → Instant) (t : Transition)
    (s : State) (told : o ≠ .absent) :
    let announced : State × List (Entry ρ) := announceOn name c clock o t s
    announced.1 = s.after c (o.looks c clock s) ∧
      notices announced.2 = t :: s.changes c (o.looks c clock s) := by
  intro announced
  cases o with
  | absent => exact absurd rfl told
  | recording =>
    have he : announced = (s, [.transition t]) := by simp only [announced, announceOn]
    rw [he]
    exact ⟨rfl, rfl⟩
  | polling =>
    cases hl : (s.snapshot c (clock 0)).transition with
    | none =>
      have he : announced = _ := announceOn_still name c clock t s hl
      rw [he, Observer.looks, if_pos hl, changes_cons]
      simp only [perform, Step.map, hl]
      exact ⟨rfl, rfl⟩
    | some inner =>
      obtain ⟨hsecond, he⟩ := announceOn_nested name c clock t s hl
      have he : announced = _ := he
      rw [he, Observer.looks, if_neg (by simp [hl]), changes_cons, changes_cons]
      simp only [perform, Step.map, hl, hsecond]
      refine ⟨rfl, ?_⟩
      rw [notices_transition, notices_logLine]
      rfl

/-! ### Runs with an observer -/

theorem settle_deed (ρ : Type) (name : String) (c : Config) (s : State) (e : Occasion) (told : o ≠ .absent) :
    let settled : State × List (Entry ρ) :=
      (s.perform c e.event.1 e.event.2).settle name (announceOn name c e.looks o)
    settled.1 = s.after c (s.deed c o e) ∧ notices settled.2 = s.changes c (s.deed c o e) := by
  intro settled
  rw [deed, after_cons, changes_cons]
  cases ht : (s.perform c e.event.1 e.event.2).transition with
  | none =>
    have he : settled = ((s.perform c e.event.1 e.event.2).state, []) := by
      simp only [settled, Step.settle, ht]
    rw [he]
    exact ⟨rfl, rfl⟩
  | some t =>
    obtain ⟨hstate, hnotices⟩ :=
      announceOn_looks ρ name c e.looks t (s.perform c e.event.1 e.event.2).state told
    simp only [settled, Step.settle, ht, notices_logLine]
    exact ⟨hstate, hnotices⟩

/-- A run with an observer is the plain history of its deeds. -/
theorem watched_deeds (ρ : Type) (name : String) (c : Config) (s : State) (run : List Occasion)
    (told : o ≠ .absent) :
    let w : Watched ρ := s.watched name c o run
    w.state = s.after c (s.deeds c o run) ∧ notices w.journal = s.changes c (s.deeds c o run) := by
  induction run generalizing s with
  | nil => exact ⟨rfl, rfl⟩
  | cons e rest ih =>
    obtain ⟨hstate, hnotices⟩ := settle_deed ρ name c s e told
    obtain ⟨ihs, ihn⟩ := ih (s.after c (s.deed c o e))
    simp only [watched, deeds, after_append, changes_append, notices_append, hstate, hnotices, ihs, ihn,
      and_self]

/-- What is done to the breaker during an operation does not depend on whether anybody is told of it. -/
theorem settle_state (ρ : Type) (name : String) (c : Config) (o : Observer) (s : State) (e : Occasion) :
    ((s.perform c e.event.1 e.event.2).settle name (announceOn name c e.looks o) : State × List (Entry ρ)).1 =
      s.after c (s.deed c o e) := by
  by_cases told : o = .absent
  · subst told
    rw [deed, after_cons]
    cases ht : (s.perform c e.event.1 e.event.2).transition with
    | none => simp [Step.settle, ht, after]
    | some t => simp [Step.settle, ht, announceOn, Observer.looks, after]
  · exact (settle_deed ρ name c s e told).1

theorem watched_append (ρ : Type) (name : String) (c : Config) (o : Observer) (s : State)
    (first rest : List Occasion) :
    let before : Watched ρ := s.watched name c o first
    let later : Watched ρ := before.state.watched name c o rest
    s.watched name c o (first ++ rest) =
      ⟨before.answers ++ later.answers, later.state, before.journal ++ later.journal⟩ := by
  induction first generalizing s with
  | nil => rfl
  | cons e first ih => simp [watched, ih]

/-- The looks of an observer make no change, unless the breaker is open. -/
theorem changes_looks (o : Observer) (c : Config) (clock : Nat → Instant) (s : State) :
    s.changes c (o.looks c clock s) = [] ∨
      o = .polling ∧ s.phase = .opened ∧ s.changes c (o.looks c clock s) = [⟨.opened, .halfOpen⟩] := by
  cases o with
  | absent | recording => exact .inl rfl
  | polling =>
    rw [Observer.looks]
    rcases snapshot_inv c (clock 0) s with ⟨hn, -⟩ | ⟨hp, hl, hp'⟩
    · rw [if_pos hn, changes_cons]
      simp only [perform, Step.map, hn]
      exact .inl rfl
    · have hsecond : ((s.snapshot c (clock 0)).state.snapshot c (clock 1)).transition = none := by
        rw [snapshot_halfOpen hp']
      refine .inr ⟨rfl, hp, ?_⟩
      rw [if_neg (by simp [hl]), changes_cons, changes_cons]
      simp only [perform, Step.map, hl, hsecond]
      rfl

theorem snapshot_of_mem_looks {e : Event} (h : e ∈ o.looks c clock s) : e.2 = .snapshot := by
  cases o with
  | absent | recording => cases h
  | polling =>
    rw [Observer.looks] at h
    split at h <;> simp only [List.mem_cons, List.not_mem_nil, or_false] at h
    · exact h ▸ rfl
    · rcases h with rfl | rfl <;> rfl

/-- A deed is the operation and some looks after it, which make no change unless it left the breaker open. -/
theorem deed_inv (c : Config) (o : Observer) (s : State) (e : Occasion) :
    let left := (s.perform c e.event.1 e.event.2).state
    ∃ looks, s.deed c o e = e.event :: looks ∧ (∀ x ∈ looks, x.2 = .snapshot) ∧
      (left.phase ≠ .opened → left.changes c looks = []) := by
  intro left
  refine ⟨_, rfl, fun x hx => ?_, fun hp => ?_⟩
  · split at hx
    · cases hx
    · exact snapshot_of_mem_looks hx
  · split
    · rfl
    · rcases changes_looks o c e.looks left with hnone | ⟨-, hopen, -⟩
      · exact hnone
      · exact absurd hopen hp

/-- During one operation an observer is told of the operation's own change, if it made one. A polling
    observer that is told of an opening may be told of one more, the one that its look makes. -/
theorem changes_deed (c : Config) (o : Observer) (s : State) (e : Occasion) :
    s.changes c (s.deed c o e) = [] ∨
      ∃ t ∈ e.event.2.changes, s.changes c (s.deed c o e) = [t] ∨
        o = .polling ∧ t.target = .opened ∧ s.changes c (s.deed c o e) = [t, ⟨.opened, .halfOpen⟩] := by
  rw [deed, changes_cons]
  rcases perform_inv c e.event.1 e.event.2 s with ⟨ht, -⟩ | ⟨t, hmem, ht, -, hp⟩
  · left
    rw [ht, if_pos rfl]
    rfl
  · right
    refine ⟨t, hmem, ?_⟩
    rw [ht, if_neg (by simp)]
    rcases changes_looks o c e.looks (s.perform c e.event.1 e.event.2).state with hn | ⟨ho, hp', hl⟩
    · left
      rw [hn]
      rfl
    · right
      rw [hl]
      exact ⟨ho, hp.trans hp', rfl⟩

/-- An observer is told of the changes of the stored phase, of each one once and in the order they
    happened: they lead from a closed breaker to the stored phase without a gap. During one operation it
    is told of what operations of that kind can change, and, if it looks at the breaker, of at most one
    more change, from open to half-open. -/
theorem announcements_law (ρ : Type) (name : String) (c : Config) (start : Instant) (o : Observer)
    (told : o ≠ .absent) (run : List Occasion) :
    let s := fresh c start
    let w : Watched ρ := s.watched name c o run
    w.state = s.after c (s.deeds c o run) ∧
      notices w.journal = s.changes c (s.deeds c o run) ∧
      Linked .closed (notices w.journal) w.state.phase ∧
      ∀ e : Occasion,
        let during := notices (w.state.watched name c o [e] : Watched ρ).journal
        during = [] ∨ ∃ t ∈ e.event.2.changes, during = [t] ∨
          o = .polling ∧ t.target = .opened ∧ during = [t, ⟨.opened, .halfOpen⟩] := by
  intro s w
  obtain ⟨hstate, hnotices⟩ := watched_deeds ρ name c s run told
  refine ⟨hstate, hnotices, ?_, fun e => ?_⟩
  · have hlinked := linked_changes c s (s.deeds c o run)
    rw [← hstate, ← hnotices] at hlinked
    exact hlinked
  · obtain ⟨-, hduring⟩ := watched_deeds ρ name c w.state [e] told
    have hone : w.state.changes c (w.state.deeds c o [e]) = w.state.changes c (w.state.deed c o e) := by
      rw [deeds, deeds, List.append_nil]
    rw [hduring, hone]
    exact changes_deed c o w.state e

/-- A breaker that stays open for no time is half-open as soon as its observer has looked, so each of two
    failures is told as an opening and, nested in it, the beginning of a trial period. -/
theorem announcements_law_no_open_time :
    let c : Config :=
      { failureThreshold := 1, openTimeout := .zero, openTimeoutBackoff := .constant .zero }
    let failure : Occasion := ⟨(.origin, .report (.failure .zero)), fun _ => .origin⟩
    let w : Watched Unit := (fresh c .origin).watched "" c .polling [failure, failure]
    Observer.polling ≠ .absent ∧ w.state.phase = .halfOpen ∧
      notices w.journal =
        [⟨.closed, .opened⟩, ⟨.opened, .halfOpen⟩, ⟨.halfOpen, .opened⟩, ⟨.opened, .halfOpen⟩] := by
  intro c failure w
  have told : Observer.polling ≠ .absent := by decide
  obtain ⟨hstate, hnotices, -, -⟩ := announcements_law Unit "" c .origin .polling told [failure, failure]
  refine ⟨told, ?_, ?_⟩
  · rw [hstate]
    decide
  · rw [hnotices]
    decide

end State
end Resilience.Breaker
