import Resilience.Client.Build
import Resilience.Proofs.Client.Course
import Resilience.Proofs.Simulation

/-! What the caller's deadline does to a call. Nothing is sent at or after it, what is sent carries it or
    an earlier one, and no wait reaches it. Once it has passed, or an attempt has run into it, the call
    does nothing more. -/

namespace Resilience
namespace Client

variable {σ τ ρ α : Type}

theorem Asks.lt_deadline {env : Surroundings σ} {ctx : CallContext} {s : Stage σ} {deadline : Instant}
    (h : Asks env ctx s) (hd : ctx.deadline = some deadline) : env.now s.world < deadline := by
  have he := h.2
  rw [CallContext.isExpired, hd] at he
  exact Int.not_le.mp (of_decide_eq_false he)

/-- Every request that a call gives to the transport is given before the deadline, under the caller's flag
    and until the earlier of the caller's deadline and the end of the time for one attempt. Every wait
    ends before the deadline; where it would not, the call makes no wait and ends. -/
theorem deadline_law (c : Client τ) (env : Surroundings σ) (exact : env.Exact) (transport : Transport σ ρ α)
    (ctx : CallContext) (request : ρ) (timeout : Duration) (s : State σ τ) :
    let done := c.executeWithin env transport ctx request timeout s
    let deeds := c.deeds env transport ctx request timeout s
    let budget := c.retrier.budget c.maxRetryAttempts
    acts done.journal = deeds.map (Deed.entry env request) ∧
    (∀ before given answer after, .sent before given answer after ∈ deeds →
      given.token = ctx.token ∧
      (ctx.deadline = none → given.deadline = (env.now before).add? timeout) ∧
      ∀ deadline, ctx.deadline = some deadline → env.now before < deadline ∧
        (∀ own, (env.now before).add? timeout = some own → given.deadline = some (min deadline own)) ∧
        ((env.now before).add? timeout = none → given.deadline = some deadline)) ∧
    ∀ deadline, ctx.deadline = some deadline →
      (∀ before delay answer after, .slept before delay answer after ∈ deeds →
        (env.now before).nanos + delay.nanos < deadline.nanos ∧ (answer = .ok true → env.now after < deadline)) ∧
      ∀ k start, .attempt k start ∈ deeds →
        let tried := c.attempt env transport ctx request timeout (c.nextCall timeout s) k start
        ∀ e, tried.result = .ok (.error e) → e.isRetryable = true → k < budget →
          deadline.nanos ≤ (env.now tried.state.world).nanos + (c.retrier.nextInterval k).nanos →
          done.state.stage = tried.state ∧
          (∃ earlier sends, deeds = earlier ++ .attempt k start :: sends ∧ ∀ d ∈ sends, d.isSent = true) ∧
          done.result = .ok (.error (if env.cancelled tried.state.world ctx.token then .cancelled else .timeout)) := by
  intro done deeds budget
  have lawful := c.deeds_lawful env transport ctx request timeout s
  refine ⟨c.acts_deeds env transport ctx request timeout s, ?_, fun deadline hdeadline => ⟨?_, ?_⟩⟩
  · intro before given answer after hd
    cases lawful _ hd with
    | sent hp hs =>
      refine ⟨rfl, fun hn => ?_, fun deadline hdeadline =>
        ⟨hp.1.lt_deadline hdeadline, fun own ho => ?_, fun ho => ?_⟩⟩
      · rw [bounded, CallContext.shrink, hn]
      · rw [bounded, CallContext.shrink, hdeadline, ho]
      · rw [bounded, CallContext.shrink, hdeadline, ho]
  · intro before delay answer after hd
    cases lawful _ hd with
    | @slept k _ _ _ hp hs =>
      have hlt := Retrier.lt_deadline_of_pause (fun cause h => by cases hp.symm.trans h) hdeadline
      refine ⟨hlt, fun hanswer => ?_⟩
      rw [hanswer] at hs
      have hexact := exact _ _ _ _ hs
      show (env.now after).nanos < deadline.nanos
      omega
  · intro k start hd tried e hresult hr hk hlate
    have hp : Retrier.pause env ctx (c.retrier.nextInterval k) tried.state.world =
        .refused (if env.cancelled tried.state.world ctx.token then .cancelled else .deadlineExceeded) := by
      split
      · exact Retrier.pause_of_cancelled ‹_›
      · exact Retrier.pause_of_late (Bool.eq_false_iff.mpr ‹_›) hdeadline hlate
    have hl : budget - k ≠ 0 := by omega
    obtain ⟨-, ⟨t, more, hround⟩ | ⟨earlier, last, result, hround, hdone, hdeeds⟩⟩ :=
      c.round_of_attempt env transport ctx request timeout s hd
    · obtain ⟨hended, -⟩ := hround.of_refused (c.nextCall timeout s) hresult hr hl hp
      cases hended
    · obtain ⟨hended, hstage, sends, rfl, hsends⟩ := hround.of_refused (c.nextCall timeout s) hresult hr hl hp
      refine ⟨hstage, ⟨earlier, sends, hdeeds, hsends⟩, ?_⟩
      rcases result with cause | answer <;> cases hended
      rw [hdone]
      split <;> rfl

/-- A target that takes a second to fail leaves no time under a deadline of one second. -/
theorem deadline_law_no_room :
    let env : Surroundings ManualClock := ⟨(·.now), fun _ _ => false, fun s d _ => s.sleep d false⟩
    let transport : Transport ManualClock Unit Unit :=
      ⟨fun s _ _ => (.ok (.error (.connection "down")), (s.advance (.ofSeconds 1)).2)⟩
    let c : Client Unit :=
      { target := "target", retrier := .standard, breaker := {}
        maxRetryAttempts := 5, perCallTimeout := .ofSeconds 1, telemetry := .silent
        callId := toString }
    let s : State ManualClock Unit := .start c {} () .origin
    let ctx : CallContext := ⟨some ⟨1000000000, by decide, by decide⟩, ⟨0⟩⟩
    env.Exact ∧ (c.execute env transport ctx () s).result = .ok (.error .timeout) := by
  intro env transport c s ctx
  have exact : env.Exact := by
    intro s d token t h
    have h : s.sleep d false = (.ok true, t) := h
    exact ManualClock.now_sleep h
  obtain ⟨-, -, hdeadline⟩ := deadline_law c env exact transport ctx () c.perCallTimeout s
  obtain ⟨-, hstop⟩ := hdeadline _ rfl
  obtain ⟨-, -, hresult⟩ := hstop 0 s.stage (c.first_attempt ..) (.transport "down") rfl rfl (by decide) (by decide)
  exact ⟨exact, hresult⟩

/-! ### The passed deadline -/

/-- An attempt that starts at or after the deadline, or a request that runs into it. -/
def Deed.isLate (env : Surroundings σ) (deadline : Instant) : Deed σ α → Bool
  | .attempt _ start => deadline ≤ env.now start.world
  | .sent _ _ (.ok (.error .deadlineExceeded)) after => deadline ≤ env.now after
  | _ => false

section
variable {c : Client τ} {env : Surroundings σ} {transport : Transport σ ρ α} {ctx : CallContext} {request : ρ}
  {timeout : Duration} {started : Instant} {left k : Nat} {s t : Stage σ} {more : List (Deed σ α)}
  {ended : Except Overflow (Option (Except (RetryError CallError) α))} {deadline : Instant} {d : Deed σ α}

theorem Asks.not_late (h : Asks env ctx s) (hd : ctx.deadline = some deadline) :
    (Deed.attempt k s : Deed σ α).isLate env deadline = false :=
  decide_eq_false (Int.not_le.mpr (h.lt_deadline hd))

theorem isExpired_of_late {now : Instant} (hd : ctx.deadline = some deadline) (h : deadline ≤ now) :
    ctx.isExpired now = true := by
  rw [CallContext.isExpired, hd]
  exact decide_eq_true h

/-- A late deed is the last one of its round, and the round ends the call: with a timeout while retries
    are left, else with a report of every attempt that was made. -/
theorem Round.of_late (h : Round c env transport ctx request timeout started left k s ended t more)
    (hdeadline : ctx.deadline = some deadline) (calm : ∀ d ∈ more, env.cancelled d.after ctx.token = false)
    (hd : d ∈ more) (hlate : d.isLate env deadline = true) :
    more.getLast? = some d ∧
      ((left ≠ 0 ∧ ended = .ok (some (.error (.interrupted (k + 1) .deadlineExceeded .timeout)))) ∨
        (left = 0 ∧ ∃ elapsed, ended = .ok (some (.error (.exhausted (k + 1) elapsed .timeout))))) := by
  cases h with
  | cancelled hc =>
    have := calm _ (List.mem_singleton_self _)
    exact absurd (this.symm.trans hc) Bool.false_ne_true
  | expired _ _ hl =>
    cases List.mem_singleton.mp hd
    exact ⟨rfl, .inl ⟨hl, rfl⟩⟩
  | expiredLast _ _ hl =>
    cases List.mem_singleton.mp hd
    exact ⟨rfl, .inr ⟨hl, _, rfl⟩⟩
  | refused hp =>
    cases List.mem_singleton.mp hd
    exact absurd ((hp.1.not_late hdeadline).symm.trans hlate) Bool.false_ne_true
  | lost hp =>
    rcases List.mem_cons.mp hd with rfl | hd
    · exact absurd ((hp.1.not_late hdeadline).symm.trans hlate) Bool.false_ne_true
    · cases List.mem_singleton.mp hd
      cases hlate
  | @answered hp answer w u ended more hs next =>
    have calm := calm _ (.tail _ (.head _))
    rcases List.mem_cons.mp hd with rfl | hd
    · exact absurd ((hp.1.not_late hdeadline).symm.trans hlate) Bool.false_ne_true
    rcases List.mem_cons.mp hd with rfl | hd
    · match answer, hlate with
      | .error .deadlineExceeded, hlate =>
        have he : ctx.isExpired (env.now w) = true := isExpired_of_late hdeadline (of_decide_eq_true hlate)
        by_cases hl : left = 0
        · cases next with
          | exhausted => exact ⟨rfl, .inr ⟨hl, _, rfl⟩⟩
          | aborted hr => cases hr
          | interrupted _ hl' | again _ hl' | waited _ hl' | cut _ hl' | stuck _ hl' => exact absurd hl hl'
        · obtain ⟨rfl, -, rfl⟩ := next.of_refused rfl hl (pause_of_expired _ calm he)
          exact ⟨rfl, .inl ⟨hl, rfl⟩⟩
    · -- What follows an answer is at most a wait, and no wait is late.
      generalize answer.mapError CallError.ofTransport = result at next
      cases next with
      | succeeded | aborted | exhausted | interrupted | again => cases hd
      | waited | cut | stuck =>
        cases List.mem_singleton.mp hd
        cases hlate

end

/-- The caller's deadline, while nobody cancels. When it has passed as an attempt starts, or an attempt
    has run into it, the call does nothing more. Its result is the timeout itself while retries are left;
    after the last permitted attempt the timeout is the failure of that attempt like any other. -/
theorem deadline_passed (c : Client τ) (env : Surroundings σ) (transport : Transport σ ρ α) (ctx : CallContext)
    (request : ρ) (timeout : Duration) (s : State σ τ) {deadline : Instant}
    (hdeadline : ctx.deadline = some deadline)
    (calm : ∀ d ∈ c.deeds env transport ctx request timeout s, env.cancelled d.after ctx.token = false) :
    let done := c.executeWithin env transport ctx request timeout s
    let deeds := c.deeds env transport ctx request timeout s
    let budget := c.retrier.budget c.maxRetryAttempts
    let attempts := (deeds.filterMap Deed.start?).length
    acts done.journal = deeds.map (Deed.entry env request) ∧ attempts ≤ budget + 1 ∧
      ∀ d ∈ deeds, d.isLate env deadline = true →
      deeds.getLast? = some d ∧
      (attempts ≤ budget → done.result = .ok (.error .timeout)) ∧
      (attempts = budget + 1 → ∃ elapsed,
        done.result = .ok (.error (.exhausted (budget + 1) elapsed .timeout))) := by
  intro done deeds budget attempts
  obtain ⟨k, t, earlier, last, result, hrow, hround, hresult, hdeeds, -⟩ :=
    c.course env transport ctx request timeout s
  have hdeeds : deeds = earlier ++ last := hdeeds
  have hk := hrow.le
  have hattempts : attempts = k + 1 := by
    show (deeds.filterMap Deed.start?).length = k + 1
    rw [hdeeds, List.filterMap_append, List.length_append, hrow.starts, hround.starts]
    rfl
  refine ⟨c.acts_deeds env transport ctx request timeout s, by omega, fun d hd hlate => ?_⟩
  rw [hdeeds] at hd
  have calm (d : Deed σ α) (hd : d ∈ earlier ++ last) : env.cancelled d.after ctx.token = false :=
    calm d (show d ∈ deeds from hdeeds ▸ hd)
  rcases List.mem_append.mp hd with hd | hd
  · -- A round that leads to another one has no late deed.
    obtain ⟨j, u, v, more, round, hd, hsub⟩ := hrow.round_of_mem hd
    obtain ⟨-, ⟨-, he⟩ | ⟨-, _, he⟩⟩ :=
      round.of_late hdeadline (fun d hd => calm d (List.mem_append_left _ (hsub hd))) hd hlate <;> cases he
  · obtain ⟨hlast, hended⟩ :=
      hround.of_late hdeadline (fun d hd => calm d (List.mem_append_right _ hd)) hd hlate
    refine ⟨?_, fun hle => ?_, fun heq => ?_⟩
    · rw [hdeeds, List.getLast?_append, hlast]
      rfl
    · rcases hended with ⟨-, he⟩ | ⟨hl, -⟩
      · rcases result with cause | answer <;> cases he
        exact hresult
      · omega
    · rcases hended with ⟨hl, -⟩ | ⟨-, elapsed, he⟩
      · omega
      · rcases result with cause | answer <;> cases he
        have : k = budget := by omega
        exact ⟨elapsed, this ▸ hresult⟩

/-- A deadline that has passed before the call, with retries to spare. -/
theorem deadline_passed_before :
    let env : Surroundings ManualClock := ⟨(·.now), fun _ _ => false, fun s d _ => s.sleep d false⟩
    let transport : Transport ManualClock Unit Unit := ⟨fun s _ _ => (.ok (.ok ()), s)⟩
    let c : Client Unit :=
      { target := "target", retrier := .standard, breaker := {}
        maxRetryAttempts := 5, perCallTimeout := .ofSeconds 1, telemetry := .silent
        callId := toString }
    let s : State ManualClock Unit := .start c {} () .origin
    (c.execute env transport ⟨some .origin, ⟨0⟩⟩ () s).result = .ok (.error .timeout) := by
  intro env transport c s
  obtain ⟨-, -, hpassed⟩ := deadline_passed c env transport ⟨some .origin, ⟨0⟩⟩ () c.perCallTimeout s rfl
    (fun _ _ => rfl)
  obtain ⟨-, hresult, -⟩ := hpassed (.attempt 0 s.stage) (c.first_attempt ..) rfl
  exact hresult (by decide +kernel)

/-- A client without retries reports a timeout at the caller's deadline as the failure of its only
    attempt. -/
theorem deadline_passed_without_retries :
    let env : Surroundings (Simulation TransportError Unit) := Simulation.surroundings
    let transport : Transport (Simulation TransportError Unit) Unit Unit := Simulation.transport .cancelled
    let c := ({} : Plan).build Telemetry.silent toString false false
    let world : Simulation TransportError Unit :=
      { cues := [{ advance := .ofMillis 300, result := .error .deadlineExceeded }] }
    let deadline : Instant := ⟨300000000, by decide, by decide⟩
    let ctx : CallContext := ⟨some deadline, ⟨0⟩⟩
    let s : State (Simulation TransportError Unit) Unit := .start c world () .origin
    let done := c.execute env transport ctx () s
    let deeds := c.deeds env transport ctx () c.perCallTimeout s
    (∀ d ∈ deeds, env.cancelled d.after ctx.token = false) ∧ (∃ d ∈ deeds, d.isLate env deadline = true) ∧
      done.result = .ok (.error (.exhausted 1 (.ofMillis 300) .timeout)) ∧
      done.result ≠ .ok (.error .timeout) := by
  intro env transport c world deadline ctx s done deeds
  have hcalm : deeds.all (fun d => !env.cancelled d.after ctx.token) = true := by decide +kernel
  have hlate : deeds.any (fun d => d.isLate env deadline) = true := by decide +kernel
  have hresult : done.result = .ok (.error (.exhausted 1 (.ofMillis 300) .timeout)) :=
    eq_of_failure? (by decide +kernel)
  refine ⟨by simpa using hcalm, List.any_eq_true.mp hlate, hresult, ?_⟩
  rw [hresult]
  exact nofun

end Client
end Resilience
