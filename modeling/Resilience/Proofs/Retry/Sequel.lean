import Resilience.Proofs.Retry.Course

/-! Where the entries of an attempt stand in the journal of its run, and what the run does after them: it waits
    and makes the next attempt, or it ends (`run_sequel`). -/

namespace Resilience

namespace Retrier

variable {σ ρ ε α : Type} {r : Retrier} {env : Surroundings σ} {ctx : CallContext} {kind : ErrorKind ε}
  {work : Nat → σ → Performed σ ρ (Except ε α)} {budget left attempt j k : Nat} {started : Instant}
  {s t u : σ} {result : Except Overflow (Except (RetryError ε) α)} {rest journal : List (Entry ρ)}

/-- A turn announces its attempt, makes it, and then tells of it. -/
theorem Turn.journal_eq {ended : Except Overflow (Option (Except (RetryError ε) α))}
    (h : Turn r env ctx kind work budget started left attempt s ended t journal) :
    ∃ after, journal = announced budget attempt ++ ((work attempt s).journal ++ after) := by
  cases h with
  | broken hw => exact ⟨[], by rw [hw, List.append_nil]⟩
  | succeeded hw | aborted hw | exhausted hw => exact ⟨_, by rw [hw, List.append_assoc]⟩
  | stuck hw | again hw => exact ⟨_, by rw [hw, List.append_assoc, List.append_assoc]⟩
  | interrupted hw => exact ⟨_, by rw [hw, List.append_assoc, List.append_assoc, List.append_assoc]⟩

/-- Records are left by the attempt itself. -/
theorem Turn.event_mem {ended : Except Overflow (Option (Except (RetryError ε) α))} {e : LogEvent}
    (h : Turn r env ctx kind work budget started left attempt s ended t journal) (he : .event e ∈ journal) :
    .event e ∈ (work attempt s).journal := by
  let view : Entry ρ → Option LogEvent
    | .event e => some e
    | _ => none
  have hview {journal : List (Entry ρ)} : .event e ∈ journal ↔ e ∈ journal.filterMap view := by
    rw [List.mem_filterMap]
    constructor
    · intro he
      exact ⟨_, he, rfl⟩
    · rintro ⟨x, hx, he⟩
      cases x with
      | event => cases he; exact hx
      | log | attempt | sleep | dispatch | transition | observed | refused | spanStarted | spanEnded => cases he
  rw [hview] at he ⊢
  rwa [h.filterMap_journal (fun _ _ => rfl) (fun _ => rfl) fun _ => rfl] at he

/-- The entries of attempt `j` stand in the journal, after the attempts and waits before it. -/
def Stands (r : Retrier) (env : Surroundings σ) (ctx : CallContext)
    (work : Nat → σ → Performed σ ρ (Except ε α)) (s : σ) (j : Nat) (journal : List (Entry ρ)) : Prop :=
  ∃ before after, journal = before ++ .attempt j :: ((r.tried env ctx work s j).journal ++ after) ∧
    acts before = (List.range j).flatMap (r.shown env ctx work s)

theorem Stands.append (h : r.Stands env ctx work s j journal) (more : List (Entry ρ)) :
    r.Stands env ctx work s j (journal ++ more) := by
  obtain ⟨before, after, rfl, hbefore⟩ := h
  exact ⟨before, after ++ more, by rw [List.append_assoc, List.cons_append, List.append_assoc], hbefore⟩

/-- The journal tells of the first `k` attempts: the entries of each stand in it, and its records are theirs. -/
structure Tells (r : Retrier) (env : Surroundings σ) (ctx : CallContext)
    (work : Nat → σ → Performed σ ρ (Except ε α)) (s : σ) (k : Nat) (journal : List (Entry ρ)) : Prop where
  stands : ∀ j < k, r.Stands env ctx work s j journal
  records : ∀ e, .event e ∈ journal → ∃ j < k, .event e ∈ (r.tried env ctx work s j).journal

/-- One more turn tells of one more attempt. -/
theorem Tells.next {seen more : List (Entry ρ)} {ended : Except Overflow (Option (Except (RetryError ε) α))}
    (h : r.Tells env ctx work s k seen) (hreached : r.Reached env ctx kind work budget s k t seen)
    (hturn : Turn r env ctx kind work budget started left k t ended u more) :
    r.Tells env ctx work s (k + 1) (seen ++ more) := by
  obtain ⟨-, rfl, -, hseen⟩ := hreached
  refine ⟨fun j hj => ?_, fun e he => ?_⟩
  · rcases Nat.lt_succ_iff_lt_or_eq.mp hj with hlt | rfl
    · exact (h.stands j hlt).append more
    · obtain ⟨after, rfl⟩ := hturn.journal_eq
      exact ⟨seen ++ [_], after, by rw [List.append_assoc]; rfl, (acts_log _).trans hseen⟩
  · rcases List.mem_append.mp he with he | he
    · obtain ⟨j, hj, he⟩ := h.records e he
      exact ⟨j, Nat.lt_succ_of_lt hj, he⟩
    · exact ⟨k, Nat.lt_succ_self k, hturn.event_mem he⟩

/-- A run goes its course, and its journal tells of its attempts. -/
theorem run_tells (r : Retrier) (env : Surroundings σ) (ctx : CallContext) (kind : ErrorKind ε)
    (work : Nat → σ → Performed σ ρ (Except ε α)) (maxRetries : UInt32) (s : σ) :
    let budget := r.budget maxRetries
    let done := r.run env ctx kind work maxRetries s
    ∃ k rest, r.Course env ctx kind work budget s k done.result done.state rest done.journal ∧
      r.Tells env ctx work s (k + 1) done.journal := by
  intro budget done
  let Keeps (left k : Nat) (t : σ) (seen : List (Entry ρ)) : Prop :=
    left = budget - k ∧ r.Reached env ctx kind work budget s k t seen ∧ r.Tells env ctx work s k seen
  have start : Keeps budget 0 s [] := ⟨rfl, ⟨Nat.zero_le _, rfl, nofun, rfl⟩, ⟨nofun, nofun⟩⟩
  refine loop_rule Keeps
    (fun result u journal => ∃ k rest, r.Course env ctx kind work budget s k result u rest journal ∧
      r.Tells env ctx work s (k + 1) journal)
    ?goesOn ?answers ?breaks start
  case goesOn =>
    rintro left k t seen u more ⟨hl, hreached, htells⟩ hturn
    exact ⟨by omega, hreached.next (hl ▸ hturn), htells.next hreached hturn⟩
  case answers =>
    rintro left k t seen answer u more ⟨rfl, hreached, htells⟩ hturn
    obtain ⟨rest, hcourse⟩ : ∃ rest, r.Course env ctx kind work budget s k (.ok answer) u rest (seen ++ more) :=
      hreached.ends hturn
    exact ⟨k, rest, hcourse, htells.next hreached hturn⟩
  case breaks =>
    rintro left k t seen cause u more ⟨rfl, hreached, htells⟩ hturn
    obtain ⟨rest, hcourse⟩ : ∃ rest, r.Course env ctx kind work budget s k (.error cause) u rest (seen ++ more) :=
      hreached.ends hturn
    exact ⟨k, rest, hcourse, htells.next hreached hturn⟩

/-- In a row of attempts that is ended by attempt `k`, every other one is followed by a wait and the next one. -/
theorem range_shown_split (hj : j < k) (tail : List (Entry ρ)) :
    ∃ later, (List.range k).flatMap (r.shown env ctx work s) ++ .attempt k :: tail =
      (List.range j).flatMap (r.shown env ctx work s) ++
        (r.shown env ctx work s j ++ .attempt (j + 1) :: later) := by
  induction k generalizing tail with
  | zero => exact absurd hj (Nat.not_lt_zero j)
  | succ n ih =>
    rw [List.range_succ, List.flatMap_append, List.flatMap_singleton, List.append_assoc]
    rcases Nat.lt_succ_iff_lt_or_eq.mp hj with hlt | rfl
    · exact ih hlt _
    · exact ⟨tail, rfl⟩

theorem Course.entries_split (h : r.Course env ctx kind work budget s k result u rest journal) (hj : j < k) :
    ∃ later, acts journal = (List.range j).flatMap (r.shown env ctx work s) ++
      (r.shown env ctx work s j ++ .attempt (j + 1) :: later) := by
  rw [h.entries]
  exact range_shown_split hj _

/-- What a run does after an attempt: it waits and makes the next one, or it ends. -/
theorem Course.after (h : r.Course env ctx kind work budget s k result u rest journal) (hj : j ≤ k)
    {before after : List (Entry ρ)}
    (hjournal : journal = before ++ .attempt j :: ((r.tried env ctx work s j).journal ++ after))
    (hbefore : acts before = (List.range j).flatMap (r.shown env ctx work s)) :
    (j = k ∧ acts after = rest) ∨
      (j < k ∧ ∃ later, acts after = waitEntries (r.nextInterval j) ++ .attempt (j + 1) :: later) := by
  have hacts : acts journal = (List.range j).flatMap (r.shown env ctx work s) ++
      .attempt j :: (acts (r.tried env ctx work s j).journal ++ acts after) := by
    rw [hjournal, acts_append, hbefore, ← acts_append]
    rfl
  rcases Nat.lt_or_eq_of_le hj with hlt | rfl
  · obtain ⟨later, hsplit⟩ := h.entries_split hlt
    rw [hsplit, shown, List.append_cancel_left_eq, List.cons_append, List.append_assoc, List.cons.injEq,
      List.append_cancel_left_eq] at hacts
    exact .inr ⟨hlt, later, hacts.2.symm⟩
  · rw [h.entries, List.append_cancel_left_eq, List.cons.injEq, List.append_cancel_left_eq] at hacts
    exact .inl ⟨rfl, hacts.2.symm⟩

/-- The entries of every attempt of a run stand in its journal, and after them the run waits and makes the next
    attempt, unless it ends. The records in the journal are those of the attempts. -/
theorem run_sequel (r : Retrier) (env : Surroundings σ) (ctx : CallContext) (kind : ErrorKind ε)
    (work : Nat → σ → Performed σ ρ (Except ε α)) (maxRetries : UInt32) (s : σ) :
    let budget := r.budget maxRetries
    let done := r.run env ctx kind work maxRetries s
    ∃ k rest, r.Course env ctx kind work budget s k done.result done.state rest done.journal ∧
      (∀ j ≤ k, ∃ before after,
        done.journal = before ++ .attempt j :: ((r.tried env ctx work s j).journal ++ after) ∧
        ((j = k ∧ acts after = rest) ∨
          (j < k ∧ ∃ later, acts after = waitEntries (r.nextInterval j) ++ .attempt (j + 1) :: later))) ∧
      ∀ e, .event e ∈ done.journal → ∃ j ≤ k, .event e ∈ (r.tried env ctx work s j).journal := by
  intro budget done
  obtain ⟨k, rest, hcourse, htells⟩ := r.run_tells env ctx kind work maxRetries s
  refine ⟨k, rest, hcourse, fun j hj => ?_, fun e he => ?_⟩
  · obtain ⟨before, after, hjournal, hbefore⟩ := htells.stands j (Nat.lt_succ_of_le hj)
    exact ⟨before, after, hjournal, hcourse.after hj hjournal hbefore⟩
  · obtain ⟨j, hj, he⟩ := htells.records e he
    exact ⟨j, Nat.le_of_lt_succ hj, he⟩

/-- A run makes no attempt after the one that it ends with. -/
theorem Course.le_of_attempt (h : r.Course env ctx kind work budget s k result u rest journal)
    (silent : ∀ i t, .attempt j ∉ (work i t).journal) (hj : .attempt j ∈ journal) : j ≤ k := by
  have hrest : .attempt j ∉ rest := fun hmem => by cases h.ending.eq_sleep hmem
  have hwait (delay : Duration) : .attempt j ∉ (waitEntries delay : List (Entry ρ)) :=
    fun hmem => by cases mem_waitEntries hmem
  have hacts : .attempt j ∈ acts journal := attempt_mem_acts.mpr hj
  have hsilent (i : Nat) : .attempt j ∉ acts (r.tried env ctx work s i).journal :=
    fun hmem => silent i _ (attempt_mem_acts.mp hmem)
  simp only [h.entries, shown, List.mem_append, List.mem_flatMap, List.mem_range, List.mem_cons, Entry.attempt.injEq,
    hsilent, hwait, hrest, or_false] at hacts
  rcases hacts with ⟨i, hi, rfl⟩ | rfl
  · exact Nat.le_of_lt hi
  · exact Nat.le_refl j

end Retrier
end Resilience
