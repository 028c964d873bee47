import Resilience.Proofs.Breaker.Calls
import Resilience.Proofs.Breaker.Totals
import Resilience.Proofs.Client.Attempt

/-! Exchanges of a client with its breaker. The breaker refuses a call, or it permits the call and is told
    of its end; so between exchanges nobody is using the breaker, and its totals count exchanges. -/

namespace Resilience.Client

variable {α : Type}

/-- A question to the breaker and what came of it. -/
inductive Exchange (α : Type)
  | sent (asked ended : Instant) (answer : Except TransportError α)
  | refused (asked : Instant)

namespace Exchange

def events : Exchange α → List Breaker.Event
  | .sent asked ended answer => [(asked, .allow), (ended, .report (finished asked ended answer))]
  | .refused asked => [(asked, .allow)]

def replies : Exchange α → List Breaker.Answer
  | .sent .. => [.permission true, .done]
  | .refused _ => [.permission false]

def answer? : Exchange α → Option (Except TransportError α)
  | .sent _ _ answer => some answer
  | .refused _ => none

def isRefused : Exchange α → Bool
  | .sent .. => false
  | .refused _ => true

end Exchange

/-- What a send counts as by its answer. -/
def verdict (c : Breaker.Config) : Except TransportError α → Breaker.Verdict
  | .ok _ => .success
  | .error (.connection _) => .failure
  | .error (.status code _) => if 400 ≤ code ∧ code < 500 then .success else .failure
  | .error .deadlineExceeded => if c.failOnDeadline then .failure else .ignored
  | .error .cancelled => if c.failOnCancel then .failure else .ignored

theorem finished_error (asked ended : Instant) (e : TransportError) :
    finished asked ended (.error e : Except TransportError α) =
      (CallError.ofTransport e).outcome (ended.since asked) := rfl

theorem classify_finished (c : Breaker.Config) (asked ended : Instant) (answer : Except TransportError α) :
    c.classify (finished asked ended answer) = verdict c answer := by
  rcases answer with e | value
  · rw [finished_error]
    cases e with
    | connection => rfl
    | status code message =>
      simp only [verdict, CallError.ofTransport]
      split <;> rfl
    | deadlineExceeded =>
      cases h : c.failOnDeadline <;>
        simp [Breaker.Config.classify, CallError.ofTransport, CallError.outcome,
          Breaker.Outcome.missedDeadline, Breaker.Outcome.failure, verdict, h]
    | cancelled =>
      cases h : c.failOnCancel <;>
        simp [Breaker.Config.classify, CallError.ofTransport, CallError.outcome,
          Breaker.Outcome.cancellation, Breaker.Outcome.failure, verdict, h]
  · rfl

namespace Exchange

variable {c : Breaker.Config} {start : Instant} {s : Breaker.State}

theorem reports_events (c : Breaker.Config) (v : Breaker.Verdict) (xs : List (Exchange α)) :
    c.reports v (xs.flatMap events) = (xs.filterMap answer?).countP fun answer => verdict c answer = v := by
  induction xs with
  | nil => rfl
  | cons x xs ih =>
    rw [List.flatMap_cons, Breaker.Config.reports_append, ih]
    cases x with
    | refused asked =>
      have hz : c.reports v [(asked, .allow)] = 0 := Breaker.Config.reports_eq_zero_of_ne (by simp)
      rw [events, hz, List.filterMap_cons_none rfl, Nat.zero_add]
    | sent asked ended answer =>
      have hz : c.reports v [(asked, .allow)] = 0 := Breaker.Config.reports_eq_zero_of_ne (by simp)
      have ha : answer? (.sent asked ended answer) = some answer := rfl
      rw [events, Breaker.Config.reports_cons, hz, Breaker.Config.reports_report, classify_finished,
        List.filterMap_cons_some ha, List.countP_cons]
      simp [Nat.add_comm]

theorem count_replies (xs : List (Exchange α)) :
    (xs.flatMap replies).count (.permission false) = xs.countP isRefused := by
  induction xs with
  | nil => rfl
  | cons x xs ih =>
    rw [List.flatMap_cons, List.count_append, ih, List.countP_cons, Nat.add_comm]
    cases x <;> rfl

theorem events_ne_reset (xs : List (Exchange α)) : ∀ e ∈ xs.flatMap events, e.2 ≠ .reset := by
  intro e he
  obtain ⟨x, -, hx⟩ := List.mem_flatMap.mp he
  cases x with
  | sent asked ended answer =>
    rcases List.mem_cons.mp hx with rfl | hx
    · simp
    · simp [List.mem_singleton.mp hx]
  | refused asked => simp [List.mem_singleton.mp hx]

theorem grown (xs : List (Exchange α)) (s : Breaker.State)
    (hr : s.answers c (xs.flatMap events) = xs.flatMap replies) :
    Breaker.Grown c s.metrics (s.after c (xs.flatMap events)).metrics (xs.flatMap events)
      (xs.flatMap replies) := by
  have h := Breaker.Grown.after (c := c) s (events_ne_reset xs)
  rwa [hr] at h

theorem inUse (xs : List (Exchange α)) (h : Breaker.State.InUse c start s 0)
    (hr : s.answers c (xs.flatMap events) = xs.flatMap replies) :
    Breaker.State.InUse c start (s.after c (xs.flatMap events)) 0 := by
  induction xs generalizing s with
  | nil => exact h
  | cons x xs ih =>
    -- The replies tell whether the call passed, hence whether it is under way until its report.
    cases x with
    | sent asked ended answer =>
      obtain ⟨hp, -, hrest⟩ : (s.allow c asked).result = true ∧ True ∧ _ := by
        simpa [events, replies, Breaker.State.answers, Breaker.State.perform, Breaker.Step.map] using hr
      have hallow := h.allow asked
      rw [if_pos hp] at hallow
      exact ih (hallow.report ended (finished asked ended answer)) hrest
    | refused asked =>
      obtain ⟨hp, hrest⟩ : (s.allow c asked).result = false ∧ _ := by
        simpa [events, replies, Breaker.State.answers, Breaker.State.perform, Breaker.Step.map] using hr
      have hallow := h.allow asked
      rw [if_neg (by simp [hp])] at hallow
      exact ih hallow hrest

end Exchange
end Resilience.Client
