import Resilience.Client.Build
import Resilience.Proofs.Client.Course
import Resilience.Simulation

/-! The result of a call. The last attempt decides it together with the retries that are left: either its
    answer is final, or the breaker, the flag or the deadline ended the call, or the budget is used up. -/

namespace Resilience

namespace CallError

theorem isRetryable_iff {e : CallError} :
    e.isRetryable = true ↔
      (∃ message, e = .transport message) ∨ e = .timeout ∨ ∃ code message, e = .server code message := by
  cases e <;> simp [isRetryable]

/-- What blames the request or the caller is final. -/
theorem ofTransport_final {f : TransportError} (h : (ofTransport f).isRetryable = false) :
    (∃ code message, f = .status code message ∧ (400 ≤ code ∧ code < 500) ∧
        ofTransport f = .client code message) ∨
      f = .cancelled := by
  cases f with
  | connection | deadlineExceeded => cases h
  | cancelled => exact .inr rfl
  | status code message =>
    by_cases hc : 400 ≤ code ∧ code < 500
    · exact .inl ⟨code, message, rfl, hc, if_pos hc⟩
    · rw [ofTransport, if_neg hc] at h
      cases h

end CallError

namespace Client

variable {σ τ ρ α : Type}

/-- The last answer, if there is one, is a failure that may be repeated. -/
def Passing (answers : List (Except TransportError α)) : Prop :=
  ∀ answer, answers.getLast? = some answer →
    ∃ failure, answer = .error failure ∧ (CallError.ofTransport failure).isRetryable = true

/-- The call has seen the flag: it is raised, or the last wait was cut short. -/
def SawCancelled (env : Surroundings σ) (ctx : CallContext) (final : σ) (deeds : List (Deed σ α)) : Prop :=
  env.cancelled final ctx.token = true ∨
    ∃ before delay, deeds.getLast? = some (.slept before delay (.ok false) final)

/-- How a call comes to its result. Attempt `k` is its last one and starts from stage `last`, `tried` is
    what that attempt came to, and `final` are the surroundings when the call ends. -/
inductive Verdict (c : Client τ) (env : Surroundings σ) (ctx : CallContext) (started : Instant) (budget k : Nat)
    (last : Stage σ) (tried : Performed (Stage σ) ρ (Except CallError α)) (final : σ)
    (answers : List (Except TransportError α)) (deeds : List (Deed σ α)) : Except CallError α → Prop
  | succeeded {value : α} (ha : answers.getLast? = some (.ok value)) (hp : ¬c.Refuses env ctx last) :
    Verdict c env ctx started budget k last tried final answers deeds (.ok value)
  | final {failure : TransportError} (ha : answers.getLast? = some (.error failure))
    (hf : (CallError.ofTransport failure).isRetryable = false) (hp : ¬c.Refuses env ctx last) :
    Verdict c env ctx started budget k last tried final answers deeds (.error (.ofTransport failure))
  | cancelled (ha : Passing answers) (hp : ¬c.Refuses env ctx last)
    (hc : SawCancelled env ctx final deeds) :
    Verdict c env ctx started budget k last tried final answers deeds (.error .cancelled)
  | refused (ha : Passing answers) (hp : c.Refuses env ctx last)
    (hd : deeds.getLast? = some (.attempt k last)) :
    Verdict c env ctx started budget k last tried final answers deeds (.error .breakerOpen)
  | timeout {e : CallError} {remaining : Duration} (ha : Passing answers) (hp : ¬c.Refuses env ctx last)
    (hk : k < budget) (ht : tried.result = .ok (.error e)) (he : e.isRetryable = true)
    (hr : ctx.remaining (env.now tried.state.world) = some remaining)
    (hle : remaining ≤ c.retrier.nextInterval k) :
    Verdict c env ctx started budget k last tried final answers deeds (.error .timeout)
  | exhausted {e : CallError} (ha : Passing answers) (hp : ¬c.Refuses env ctx last) (hk : k = budget)
    (ht : tried.result = .ok (.error e)) (he : e.isRetryable = true) :
    Verdict c env ctx started budget k last tried final answers deeds
      (.error (.exhausted (k + 1) ((env.now final).since started) e))

namespace Verdict

variable {c : Client τ} {env : Surroundings σ} {ctx : CallContext} {started : Instant} {budget k : Nat}
  {last : Stage σ} {tried : Performed (Stage σ) ρ (Except CallError α)} {final : σ}
  {answers : List (Except TransportError α)} {deeds : List (Deed σ α)} {result : Except CallError α}

theorem ok_iff (h : Verdict c env ctx started budget k last tried final answers deeds result) {value : α} :
    result = .ok value ↔ answers.getLast? = some (.ok value) := by
  cases h with
  | succeeded ha => simp [ha]
  | final ha => simp [ha]
  | cancelled ha | refused ha | timeout ha | exhausted ha =>
    constructor
    · exact nofun
    · intro h
      obtain ⟨_, he, -⟩ := ha _ h
      cases he

theorem client_iff (h : Verdict c env ctx started budget k last tried final answers deeds result)
    {code : UInt16} {message : String} :
    result = .error (.client code message) ↔
      answers.getLast? = some (.error (.status code message)) ∧ 400 ≤ code ∧ code < 500 := by
  cases h with
  | succeeded ha => simp [ha]
  | @final failure ha hf =>
    rw [ha]
    rcases CallError.ofTransport_final hf with ⟨code', message', rfl, hc, he⟩ | rfl
    · rw [he]
      constructor
      · intro h
        cases h
        exact ⟨rfl, hc⟩
      · rintro ⟨h, -⟩
        cases h
        rfl
    · simp [CallError.ofTransport]
  | cancelled ha | refused ha | timeout ha | exhausted ha =>
    constructor
    · exact nofun
    · rintro ⟨h, hc⟩
      obtain ⟨failure, he, hr⟩ := ha _ h
      cases he
      rw [CallError.ofTransport, if_pos hc] at hr
      cases hr

theorem breakerOpen_iff (h : Verdict c env ctx started budget k last tried final answers deeds result) :
    result = .error .breakerOpen ↔ c.Refuses env ctx last := by
  cases h with
  | refused _ hp => exact ⟨fun _ => hp, fun _ => rfl⟩
  | final _ hf hp =>
    refine ⟨fun h => ?_, fun h => absurd h hp⟩
    rcases CallError.ofTransport_final hf with ⟨_, _, _, _, he⟩ | rfl
    · rw [he] at h
      cases h
    · cases h
  | succeeded _ hp | cancelled _ hp | timeout _ hp | exhausted _ hp =>
    exact ⟨nofun, fun h => absurd h hp⟩

theorem last_of_breakerOpen (h : Verdict c env ctx started budget k last tried final answers deeds result)
    (hr : result = .error .breakerOpen) : deeds.getLast? = some (.attempt k last) := by
  have hrefuses := h.breakerOpen_iff.mp hr
  cases h with
  | refused _ _ hd => exact hd
  | succeeded _ hp | final _ _ hp | cancelled _ hp | timeout _ hp | exhausted _ hp => exact absurd hrefuses hp

theorem cancelled_inv (h : Verdict c env ctx started budget k last tried final answers deeds result)
    (hr : result = .error .cancelled) :
    answers.getLast? = some (.error .cancelled) ∨ SawCancelled env ctx final deeds := by
  cases h with
  | cancelled _ _ hc => exact .inr hc
  | final ha hf =>
    rcases CallError.ofTransport_final hf with ⟨_, _, _, _, he⟩ | rfl
    · rw [he] at hr
      cases hr
    · exact .inl ha
  | succeeded | refused | timeout | exhausted => cases hr

theorem timeout_inv (h : Verdict c env ctx started budget k last tried final answers deeds result)
    (hr : result = .error .timeout) :
    k < budget ∧ ∃ e remaining, tried.result = .ok (.error e) ∧ e.isRetryable = true ∧
      ctx.remaining (env.now tried.state.world) = some remaining ∧ remaining ≤ c.retrier.nextInterval k := by
  cases h with
  | timeout _ _ hk ht he hremaining hle => exact ⟨hk, _, _, ht, he, hremaining, hle⟩
  | final _ hf =>
    rcases CallError.ofTransport_final hf with ⟨_, _, _, _, he⟩ | rfl
    · rw [he] at hr
      cases hr
    · cases hr
  | succeeded | cancelled | refused | exhausted => cases hr

theorem kinds (h : Verdict c env ctx started budget k last tried final answers deeds result) :
    (∃ value, result = .ok value) ∨ result = .error .breakerOpen ∨
      (∃ code message, result = .error (.client code message)) ∨ result = .error .cancelled ∨
      result = .error .timeout ∨ ∃ elapsed source,
        result = .error (.exhausted (budget + 1) elapsed source) ∧ tried.result = .ok (.error source) ∧
        ((∃ message, source = .transport message) ∨ source = .timeout ∨
          ∃ code message, source = .server code message) := by
  cases h with
  | succeeded => exact .inl ⟨_, rfl⟩
  | final _ hf =>
    rcases CallError.ofTransport_final hf with ⟨_, _, _, _, he⟩ | rfl
    · exact .inr (.inr (.inl ⟨_, _, congrArg Except.error he⟩))
    · exact .inr (.inr (.inr (.inl rfl)))
  | cancelled => exact .inr (.inr (.inr (.inl rfl)))
  | refused => exact .inr (.inl rfl)
  | timeout => exact .inr (.inr (.inr (.inr (.inl rfl))))
  | exhausted _ _ hk ht he =>
    subst hk
    exact .inr (.inr (.inr (.inr (.inr ⟨_, _, rfl, ht, CallError.isRetryable_iff.mp he⟩))))

end Verdict

section
variable {c : Client τ} {env : Surroundings σ} {transport : Transport σ ρ α} {ctx : CallContext} {request : ρ}
  {timeout : Duration} {started : Instant} {budget k : Nat} {first s t : Stage σ} {earlier last : List (Deed σ α)}

theorem Underway.passing (h : Underway c env transport ctx request timeout started budget first k s earlier) :
    Passing ((earlier ++ [Deed.attempt k s]).filterMap Deed.answer?) := by
  intro answer ha
  have hd : (earlier ++ [Deed.attempt k s]).filterMap Deed.answer? = earlier.filterMap Deed.answer? := by
    rw [List.filterMap_append]
    exact List.append_nil _
  rw [hd] at ha
  exact h.answers answer (List.mem_of_getLast? ha)

theorem Permits.not_refuses (h : c.Permits env ctx s) : ¬c.Refuses env ctx s :=
  fun hr => Bool.false_ne_true (hr.2.symm.trans h.2)

/-- The last round of a call gives its verdict. -/
theorem Round.verdict (call : Call) {answer : Except (RetryError CallError) α}
    (hrow : Underway c env transport ctx request timeout started budget first k s earlier)
    (h : Round c env transport ctx request timeout started (budget - k) k s (.ok (some answer)) t last) :
    Verdict c env ctx started budget k s (c.attempt env transport ctx request timeout call k s) t.world
      ((earlier ++ last).filterMap Deed.answer?) (earlier ++ last) (answer.mapError callError) := by
  have hk := hrow.le
  have passing := hrow.passing
  cases h with
  | cancelled hc =>
    have hp : ¬c.Refuses env ctx s := fun h => Bool.false_ne_true (h.1.1.symm.trans hc)
    exact .cancelled passing hp (.inl hc)
  | expired hc he hl =>
    have hp : ¬c.Refuses env ctx s := fun h => Bool.false_ne_true (h.1.2.symm.trans he)
    obtain ⟨remaining, hr, hle⟩ := Retrier.remaining_le_of_pause
      (pause_of_expired (c.retrier.nextInterval k) hc he)
    rw [attempt_of_expired hc he]
    exact .timeout passing hp (by omega) rfl rfl hr hle
  | expiredLast hc he hl =>
    have hp : ¬c.Refuses env ctx s := fun h => Bool.false_ne_true (h.1.2.symm.trans he)
    rw [attempt_of_expired hc he]
    exact .exhausted passing hp (by omega) rfl rfl
  | refused hp =>
    exact .refused passing hp List.getLast?_concat
  | @answered hp answer w u ended more hs next =>
    have hlast : (Deed.attempt k s :: .sent s.world (bounded env ctx timeout s) (.ok answer) w :: more).filterMap
        Deed.answer? = [answer] := congrArg (answer :: ·) next.answers
    have ha : (earlier.filterMap Deed.answer? ++ [answer]).getLast? = some answer := List.getLast?_concat
    rw [List.filterMap_append, hlast]
    obtain ⟨htried, hstate⟩ : (c.attempt env transport ctx request timeout call k s).result = _ ∧ _ :=
      attempt_of_answered hp hs
    have hp := hp.not_refuses
    rcases answer with failure | value
    · have passing (hr : (CallError.ofTransport failure).isRetryable = true) : Passing _ :=
        fun answer h => ⟨failure, Option.some.inj (h.symm.trans ha), hr⟩
      cases next with
      | aborted hr => exact .final ha hr hp
      | exhausted hr hl => exact .exhausted (passing hr) hp (by omega) htried hr
      | @interrupted _ cause hr hl hpause =>
        cases cause with
        | cancelled => exact .cancelled (passing hr) hp (.inl (Retrier.cancelled_of_pause hpause))
        | deadlineExceeded =>
          obtain ⟨remaining, hremaining, hle⟩ := Retrier.remaining_le_of_pause hpause
          exact .timeout (passing hr) hp (by omega) htried hr (by rwa [hstate]) hle
      | cut hr =>
        refine .cancelled (passing hr) hp (.inr ⟨w, c.retrier.nextInterval k, ?_⟩)
        rw [List.getLast?_append]
        rfl
    · cases next with
      | succeeded => exact .succeeded ha hp

/-- Time arithmetic that fails shows in the deeds. -/
theorem Round.overflows {cause : Overflow}
    (h : Round c env transport ctx request timeout started budget k s (.error cause) t last) :
    ∃ d ∈ last, d.overflows = true := by
  cases h with
  | lost => exact ⟨_, .tail _ (.head _), rfl⟩
  | answered _ _ next =>
    generalize Except.mapError CallError.ofTransport _ = answer at next
    cases next with
    | stuck => exact ⟨_, .tail _ (.tail _ (.head _)), rfl⟩

theorem countP_sent {deeds : List (Deed σ α)} (inRange : ∀ d ∈ deeds, d.overflows = false) :
    deeds.countP Deed.isSent = (deeds.filterMap Deed.answer?).length := by
  rw [List.length_filterMap_eq_countP]
  refine List.countP_congr fun d hd => ?_
  have := inRange d hd
  match d with
  | .attempt .. | .slept .. => exact Iff.rfl
  | .sent _ _ (.ok _) _ => exact Iff.rfl
  | .sent _ _ (.error _) _ => cases this

end

theorem Plan.budget_build (plan : Plan) (telemetry : Telemetry τ) (callId : Nat → String) (hook observed : Bool) :
    let c := plan.build telemetry callId hook observed
    c.retrier.budget c.maxRetryAttempts =
      if plan.retriesDisabled ∨ plan.maxRetryAttempts = 0 then 0 else plan.maxRetryAttempts.toNat := by
  intro c
  show plan.retrier.budget plan.maxRetryAttempts = _
  unfold Plan.retrier
  split <;> rfl

/-- A call gives the transport at most one request more than its budget. Its result is the last answer
    if that is a value or a client error, and a refusal exactly if the breaker refused the last attempt,
    after which the call does nothing more. It is a cancellation only if the transport said so or the call
    has seen the flag, and a timeout only if the last attempt failed and the deadline left no room for the
    wait before the next one. Otherwise every permitted attempt was made, and the result carries the
    failure of the last one; no such failure is a result itself. -/
theorem call_result_law (plan : Plan) (telemetry : Telemetry τ) (callId : Nat → String) (hook observed : Bool)
    (env : Surroundings σ) (transport : Transport σ ρ α) (ctx : CallContext) (request : ρ) (timeout : Duration)
    (s : State σ τ) (counted : plan.maxRetryAttempts.toNat < UInt32.size - 1)
    (inRange : ∀ d ∈ (plan.build telemetry callId hook observed).deeds env transport ctx request timeout s,
      d.overflows = false) :
    let c := plan.build telemetry callId hook observed
    let done := c.executeWithin env transport ctx request timeout s
    let deeds := c.deeds env transport ctx request timeout s
    let answers := deeds.filterMap Deed.answer?
    let budget := if plan.retriesDisabled ∨ plan.maxRetryAttempts = 0 then 0 else plan.maxRetryAttempts.toNat
    acts done.journal = deeds.map (Deed.entry env request) ∧
      dispatches done.journal = answers.length ∧ answers.length ≤ budget + 1 ∧ budget + 1 < UInt32.size ∧
      ∃ k last result, (deeds.filterMap Deed.start?).getLast? = some (k, last) ∧ done.result = .ok result ∧
        let tried := c.attempt env transport ctx request timeout (c.nextCall timeout s) k last
        (∀ value, result = .ok value ↔ answers.getLast? = some (.ok value)) ∧
        (result = .error .breakerOpen ↔ c.Refuses env ctx last) ∧
        (result = .error .breakerOpen → deeds.getLast? = some (.attempt k last)) ∧
        (∀ code message, result = .error (.client code message) ↔
          answers.getLast? = some (.error (.status code message)) ∧ 400 ≤ code ∧ code < 500) ∧
        (result = .error .cancelled → answers.getLast? = some (.error .cancelled) ∨
          SawCancelled env ctx done.state.stage.world deeds) ∧
        (result = .error .timeout → k < budget ∧ ∃ e remaining,
          tried.result = .ok (.error e) ∧ e.isRetryable = true ∧
          ctx.remaining (env.now tried.state.world) = some remaining ∧ remaining ≤ c.retrier.nextInterval k) ∧
        ((∃ value, result = .ok value) ∨ result = .error .breakerOpen ∨
          (∃ code message, result = .error (.client code message)) ∨ result = .error .cancelled ∨
          result = .error .timeout ∨ ∃ elapsed source,
            result = .error (.exhausted (budget + 1) elapsed source) ∧ tried.result = .ok (.error source) ∧
            ((∃ message, source = .transport message) ∨ source = .timeout ∨
              ∃ code message, source = .server code message)) := by
  intro c done deeds answers budget
  have hbudget : c.retrier.budget c.maxRetryAttempts = budget := plan.budget_build telemetry callId hook observed
  obtain ⟨k, last, earlier, more, result, hrow, hround, hresult, hdeeds, -⟩ :=
    c.course env transport ctx request timeout s
  rw [hbudget] at hrow hround
  have hdeeds : deeds = earlier ++ more := hdeeds
  have hanswers : deeds.countP Deed.isSent = answers.length := countP_sent inRange
  have hsent : dispatches done.journal = answers.length :=
    (c.dispatches_deeds env transport ctx request timeout s).trans hanswers
  have hle : answers.length ≤ budget + 1 := by
    rw [← hanswers, hdeeds, List.countP_append]
    exact Nat.add_le_add (Nat.le_trans hrow.countP_sent hrow.le) hround.countP_sent
  have hsize : budget + 1 < UInt32.size := by
    have : UInt32.size = 4294967296 := rfl
    show (if _ then 0 else plan.maxRetryAttempts.toNat) + 1 < UInt32.size
    split <;> omega
  have hlast : (deeds.filterMap Deed.start?).getLast? = some (k, last) := by
    rw [hdeeds, List.filterMap_append, hround.starts]
    exact List.getLast?_concat
  rcases result with cause | answer
  · obtain ⟨d, hd, ho⟩ := hround.overflows
    have := inRange d (show d ∈ deeds from hdeeds ▸ List.mem_append_right _ hd)
    exact absurd (this.symm.trans ho) Bool.false_ne_true
  · have hv := hround.verdict (c.nextCall timeout s) hrow
    rw [← hdeeds] at hv
    exact ⟨c.acts_deeds env transport ctx request timeout s, hsent, hle, hsize, k, last, _, hlast, hresult,
      fun _ => hv.ok_iff, hv.breakerOpen_iff, hv.last_of_breakerOpen, fun _ _ => hv.client_iff, hv.cancelled_inv,
      hv.timeout_inv, hv.kinds⟩

/-- A target that is down: the call tries again at once, and once more after two seconds. -/
theorem call_result_law_outage :
    let env : Surroundings (Simulation TransportError Unit) := Simulation.surroundings
    let transport : Transport (Simulation TransportError Unit) Unit Unit := Simulation.transport (.connection "down")
    let plan : Plan := { backoff := .constant (.ofSeconds 1), maxRetryAttempts := 2 }
    let c := plan.build Telemetry.silent toString false false
    let s : State (Simulation TransportError Unit) Unit := .start c {} () .origin
    let done := c.execute env transport ⟨none, ⟨0⟩⟩ () s
    let deeds := c.deeds env transport ⟨none, ⟨0⟩⟩ () plan.perCallTimeout s
    plan.maxRetryAttempts.toNat < UInt32.size - 1 ∧ (∀ d ∈ deeds, d.overflows = false) ∧
      dispatches done.journal = 3 ∧
      done.result = .ok (.error (.exhausted 3 (.ofSeconds 2) (.transport "down"))) := by
  intro env transport plan c s done deeds
  have counted : plan.maxRetryAttempts.toNat < UInt32.size - 1 := by decide
  have inRange : ∀ d ∈ deeds, d.overflows = false := by
    have h : deeds.all (fun d => !d.overflows) = true := by decide +kernel
    simpa using h
  obtain ⟨-, hsent, -⟩ := call_result_law plan Telemetry.silent toString false false env transport
    ⟨none, ⟨0⟩⟩ () plan.perCallTimeout s counted inRange
  exact ⟨counted, inRange, hsent.trans (by decide +kernel), eq_of_failure? (by decide +kernel)⟩

end Client
end Resilience
