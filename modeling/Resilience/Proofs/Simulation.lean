import Resilience.Simulation
import Resilience.Proofs.Retry.Pause

/-! Waits on the manual clock, and in the simulated surroundings that keep such a clock. -/

namespace Resilience

namespace ManualClock

theorem now_advance {c c' : ManualClock} {d : Duration} (h : c.advance d = (.ok (), c')) :
    c'.now.nanos = c.now.nanos + d.nanos := by
  unfold advance at h
  split at h
  · rename_i t ht
    cases h
    unfold Instant.add? Instant.ofNanos? at ht
    split at ht <;> cases ht
    rfl
  · cases h

/-- A completed wait takes exactly the time that was asked for. -/
theorem now_sleep {c c' : ManualClock} {d : Duration} {cancelled : Bool}
    (h : c.sleep d cancelled = (.ok true, c')) : c'.now.nanos = c.now.nanos + d.nanos := by
  unfold sleep at h
  split at h
  · cases h
  · split at h
    · rename_i moved hm
      cases h
      exact (now_advance hm :)
    · cases h

end ManualClock

namespace Cancellations

theorem isCancelled_cancel (f : Cancellations) (t : Token) : (f.cancel t).isCancelled t = true := by
  unfold cancel
  split
  · assumption
  · simp [isCancelled]

end Cancellations

namespace Simulation

variable {ε α : Type}

theorem clock_cancelIf (s : Simulation ε α) (condition : Bool) (t : Token) :
    (s.cancelIf condition t).clock = s.clock := by
  unfold cancelIf
  split <;> rfl

theorem isCancelled_cancelIf (s : Simulation ε α) (condition : Bool) (t : Token) :
    (s.cancelIf condition t).flags.isCancelled t = (condition || s.flags.isCancelled t) := by
  unfold cancelIf
  cases condition with
  | true => exact s.flags.isCancelled_cancel t
  | false => rfl

/-- Whether the flag is raised when the clock is asked to wait. -/
def raisedBefore (s : Simulation ε α) (t : Token) : Bool :=
  (s.waits.headD {}).cancelBefore || s.flags.isCancelled t

/-- The surroundings when the clock is asked to wait. -/
def beforeWait (s : Simulation ε α) (t : Token) : Simulation ε α :=
  ({ s with waits := s.waits.tail }).cancelIf (s.waits.headD {}).cancelBefore t

theorem isCancelled_beforeWait (s : Simulation ε α) (t : Token) :
    (s.beforeWait t).flags.isCancelled t = s.raisedBefore t := isCancelled_cancelIf ..

theorem clock_beforeWait (s : Simulation ε α) (t : Token) : (s.beforeWait t).clock = s.clock := clock_cancelIf ..

/-- What follows the wait of the clock: more time passes, and the flag may be raised. -/
def afterWait (s : Simulation ε α) (wait : Wait) (t : Token) (done : Bool) :
    Except Overflow Bool × Simulation ε α :=
  match s.advance wait.extra with
  | (.error e, s) => (.error e, s)
  | (.ok (), s) => (.ok done, s.cancelIf wait.cancelAfter t)

theorem sleep_eq (s : Simulation ε α) (d : Duration) (t : Token) :
    s.sleep d t =
      match (s.beforeWait t).clock.sleep d ((s.beforeWait t).flags.isCancelled t) with
      | (.error e, clock) => (.error e, { s.beforeWait t with clock })
      | (.ok done, clock) => afterWait { s.beforeWait t with clock } (s.waits.headD {}) t done := rfl

theorem afterWait_inv {s u : Simulation ε α} {wait : Wait} {t : Token} {done : Bool}
    {answer : Except Overflow Bool} (h : s.afterWait wait t done = (answer, u)) :
    (answer = .ok done ∨ ∃ cause, answer = .error cause) ∧ u.clock = (s.clock.advance wait.extra).2 ∧
      (s.flags.isCancelled t = true → u.flags.isCancelled t = true) := by
  have hs : (s.advance wait.extra).2.clock = (s.clock.advance wait.extra).2 := rfl
  have hf : (s.advance wait.extra).2.flags = s.flags := rfl
  unfold afterWait at h
  generalize s.advance wait.extra = moved at h hs hf
  rcases moved with ⟨cause | _, moved⟩ <;> cases h
  · exact ⟨.inr ⟨cause, rfl⟩, hs, fun hc => (congrArg (·.isCancelled t) hf).trans hc⟩
  · rw [clock_cancelIf, isCancelled_cancelIf, hf]
    exact ⟨.inl rfl, hs, fun hc => by rw [hc, Bool.or_true]⟩

/-- A wait under a raised flag does not move the clock; only the time that passes after it does. -/
theorem sleep_raised {s u : Simulation ε α} {d : Duration} {t : Token} {answer : Except Overflow Bool}
    (h : s.sleep d t = (answer, u)) (hr : s.raisedBefore t = true) :
    answer ≠ .ok true ∧ u.clock = (s.clock.advance (s.waits.headD {}).extra).2 ∧
      u.flags.isCancelled t = true := by
  have hc : (s.beforeWait t).flags.isCancelled t = true := (s.isCancelled_beforeWait t).trans hr
  rw [sleep_eq, hc] at h
  have h : (s.beforeWait t).afterWait (s.waits.headD {}) t false = (answer, u) := h
  obtain ⟨ha, hs, hf⟩ := afterWait_inv h
  rw [clock_beforeWait] at hs
  refine ⟨?_, hs, hf hc⟩
  rcases ha with rfl | ⟨_, rfl⟩ <;> exact nofun

theorem surroundings_cutByFlag : (surroundings : Surroundings (Simulation ε α)).CutByFlag := by
  intro s d t u h
  have h : s.sleep d t = (.ok false, u) := h
  by_cases hr : s.raisedBefore t = true
  · exact (sleep_raised h hr).2.2
  · -- A wait that nobody cuts short is completed, if the clock can make it.
    have hc : (s.beforeWait t).flags.isCancelled t = false :=
      (s.isCancelled_beforeWait t).trans (Bool.eq_false_iff.mpr hr)
    rw [sleep_eq, hc, ManualClock.sleep, if_neg Bool.false_ne_true] at h
    generalize ManualClock.advance _ d = moved at h
    rcases moved with ⟨cause | _, clock⟩
    · cases h
    · obtain ⟨ha | ⟨_, ha⟩, -⟩ := afterWait_inv h <;> cases ha

end Simulation
end Resilience
