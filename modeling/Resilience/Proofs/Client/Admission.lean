import Resilience.Proofs.Client.Exchange
import Resilience.Proofs.Client.Session

/-! What a client does with its breaker. Whenever an attempt gets as far as asking, it is refused, or it
    is permitted, sent and reported, each once; nothing else is sent or reported. So the breaker's totals
    count the sends of the client, and between calls nobody is using the breaker. -/

namespace Resilience

/-- A transport that comes back from every request. -/
def Transport.Returns {σ ρ α : Type} (transport : Transport σ ρ α) : Prop :=
  ∀ s request ctx, ∃ answer, (transport.send s request ctx).1 = .ok answer

namespace Client

variable {σ τ ρ α : Type}

/-- Whether a call ended because the breaker refused it. -/
def isRefused : Except Overflow (Except CallError α) → Bool
  | .ok (.error .breakerOpen) => true
  | _ => false

/-- From stage `s` to stage `t` the client made the exchanges `xs` and no other use of its breaker and
    its transport. -/
structure Conducted (c : Client τ) (xs : List (Exchange α)) (s t : Stage (Recorded σ α))
    (journal : List (Entry ρ)) : Prop where
  breaker : t.breaker = s.breaker.after c.breaker (xs.flatMap Exchange.events)
  replies : s.breaker.answers c.breaker (xs.flatMap Exchange.events) = xs.flatMap Exchange.replies
  answers : t.world.answers = s.world.answers ++ xs.filterMap Exchange.answer?
  dispatched : dispatches journal = (xs.filterMap Exchange.answer?).length

namespace Conducted

variable {c : Client τ} {xs ys : List (Exchange α)} {s t u : Stage (Recorded σ α)}
  {journal more : List (Entry ρ)}

theorem refl (c : Client τ) (s : Stage (Recorded σ α)) : Conducted c [] s s ([] : List (Entry ρ)) :=
  ⟨rfl, rfl, (List.append_nil _).symm, rfl⟩

theorem trans (h : Conducted c xs s t journal) (h' : Conducted c ys t u more) :
    Conducted c (xs ++ ys) s u (journal ++ more) where
  breaker := by rw [h'.breaker, h.breaker, List.flatMap_append, Breaker.State.after_append]
  replies := by
    rw [List.flatMap_append, List.flatMap_append, Breaker.State.answers_append, ← h.breaker, h.replies,
      h'.replies]
  answers := by rw [h'.answers, h.answers, List.filterMap_append, List.append_assoc]
  dispatched := by
    rw [dispatches_append, h.dispatched, h'.dispatched, List.filterMap_append, List.length_append]

/-- Apart from exchanges anything may happen to the surroundings, and anything be written. -/
theorem frame (h : Conducted c xs s t journal) (hb : u.breaker = t.breaker)
    (ha : u.world.answers = t.world.answers) (hj : dispatches more = dispatches journal) :
    Conducted c xs s u more :=
  ⟨hb.trans h.breaker, h.replies, ha.trans h.answers, hj.trans h.dispatched⟩

end Conducted

/-! ### Attempts -/

variable {c : Client τ} {env : Surroundings σ} {transport : Transport σ ρ α} {ctx : CallContext}

theorem recorded_answers {s t : Recorded σ α} {request : ρ} {answer : Except TransportError α}
    (h : transport.recorded.send s request ctx = (.ok answer, t)) : t.answers = s.answers ++ [answer] := by
  simp only [Transport.recorded] at h
  split at h
  · cases h
  · cases h
    rfl

theorem isRefused_ofTransport (answer : Except TransportError α) :
    isRefused (.ok (answer.mapError CallError.ofTransport)) = false := by
  rcases answer with e | value
  · cases e with
    | status code message =>
      show isRefused (.ok (.error (CallError.ofTransport (.status code message)))) = false
      simp only [CallError.ofTransport]
      split <;> rfl
    | connection | deadlineExceeded | cancelled => rfl
  · rfl

theorem recorded_returns (h : transport.Returns) : transport.recorded.Returns := by
  intro s request ctx
  obtain ⟨answer, ha⟩ := h s.world request ctx
  have hm := transport_recorded transport s request ctx
  rw [hm] at ha
  exact ⟨answer, ha⟩

/-- An attempt makes at most one exchange, and its result tells whether that was a refusal. -/
theorem attempt_conducted (returns : transport.Returns) (c : Client τ) (env : Surroundings σ)
    (ctx : CallContext) (request : ρ) (timeout : Duration) (call : Call) (index : Nat)
    (s : Stage (Recorded σ α)) :
    let done := c.attempt (env.recorded α) transport.recorded ctx request timeout call index s
    ∃ xs, Conducted c xs s done.state done.journal ∧
      xs.countP Exchange.isRefused = if isRefused done.result then 1 else 0 := by
  intro done
  have h : Attempted c (env.recorded α) transport.recorded ctx request timeout call index s done :=
    attempted ..
  have hd := h.dispatches
  generalize done = p at h hd
  cases h with
  | cancelled => exact ⟨[], .refl c s, rfl⟩
  | expired => exact ⟨[], .refl c s, rfl⟩
  | refused hc he ha =>
    rw [hc, he, ha] at hd
    refine ⟨[.refused ((env.recorded α).now s.world)], ⟨rfl, ?_, (List.append_nil _).symm, hd⟩, rfl⟩
    have hr : (s.breaker.allow c.breaker ((env.recorded α).now s.world)).result = false := ha
    simp [Exchange.events, Exchange.replies, Breaker.State.answers, Breaker.State.perform, Breaker.Step.map, hr]
  | lost _ _ _ hs =>
    -- A transport that comes back loses no request.
    obtain ⟨answer, hok⟩ := recorded_returns returns s.world request (bounded (env.recorded α) ctx timeout s)
    rw [hs] at hok
    cases hok
  | @sent hc he ha answer world hs =>
    rw [hc, he, ha] at hd
    refine ⟨[.sent ((env.recorded α).now s.world) ((env.recorded α).now world) answer],
      ⟨rfl, ?_, recorded_answers hs, hd⟩, ?_⟩
    · have hr : (s.breaker.allow c.breaker ((env.recorded α).now s.world)).result = true := ha
      simp [Exchange.events, Exchange.replies, Breaker.State.answers, Breaker.State.perform, Breaker.Step.map, hr]
    · have hn : isRefused (.ok (answer.mapError CallError.ofTransport)) = false := isRefused_ofTransport answer
      rw [hn]
      rfl

/-! ### Calls -/

def endsRefused : Except Overflow (Option (Except (RetryError CallError) α)) → Bool
  | .ok (some answer) => isRefused (.ok (answer.mapError callError))
  | _ => false

theorem isRefused_of_retryable {e : CallError} (h : errors.retryable e = true) :
    isRefused (.ok (.error e) : Except Overflow (Except CallError α)) = false := by
  cases e with
  | breakerOpen => cases h
  | transport | timeout | server | client | cancelled | exhausted => rfl

/-- A refusal is not repeated, and nothing else looks like one. -/
theorem turn_refused {r : Retrier} {env : Surroundings (Stage σ)}
    {work : Nat → Stage σ → Performed (Stage σ) ρ (Except CallError α)} {budget left attempt : Nat}
    {started : Instant} {s t : Stage σ} {ended : Except Overflow (Option (Except (RetryError CallError) α))}
    {journal : List (Entry ρ)}
    (h : Retrier.Turn r env ctx errors work budget started left attempt s ended t journal) :
    isRefused (work attempt s).result = endsRefused ended := by
  cases h with
  | broken hw | succeeded hw | aborted hw =>
    rw [hw]
    rfl
  | exhausted hw hr | stuck hw hr | again hw hr =>
    rw [hw]
    exact isRefused_of_retryable hr
  | @interrupted _ _ _ _ _ cause hw hr =>
    rw [hw]
    cases cause with
    | cancelled | deadlineExceeded => exact isRefused_of_retryable hr

theorem turn_conducted (returns : transport.Returns) {r : Retrier} {request : ρ} {timeout : Duration}
    {call : Call} {budget left attempt : Nat} {started : Instant} {s t : Stage (Recorded σ α)}
    {ended : Except Overflow (Option (Except (RetryError CallError) α))} {journal : List (Entry ρ)}
    (h : Retrier.Turn r (surroundings (env.recorded α)) ctx errors
      (c.attempt (env.recorded α) transport.recorded ctx request timeout call) budget started left attempt s
      ended t journal) :
    ∃ xs, Conducted c xs s t journal ∧
      xs.countP Exchange.isRefused = if endsRefused ended then 1 else 0 := by
  obtain ⟨xs, hx, hr⟩ := attempt_conducted returns c env ctx request timeout call attempt s
  rw [turn_refused h] at hr
  refine ⟨xs, ?_, hr⟩
  -- The pause after an attempt touches neither the breaker nor the record.
  rcases h.state_eq_or with ht | ⟨delay, ht⟩
  · exact hx.frame (by rw [ht]) (by rw [ht]) h.dispatches
  · exact hx.frame (by rw [ht]; rfl) (by rw [ht]; rfl) h.dispatches

theorem looped_conducted (returns : transport.Returns) (c : Client τ) (env : Surroundings σ)
    (ctx : CallContext) (request : ρ) (timeout : Duration) (s : State (Recorded σ α) τ) :
    let loop := c.looped (env.recorded α) transport.recorded ctx request timeout s
    ∃ xs, Conducted c xs s.stage loop.state loop.journal ∧
      xs.countP Exchange.isRefused = if endsRefused (loop.result.map some) then 1 else 0 := by
  let Keeps (_ _ : Nat) (t : Stage (Recorded σ α)) (seen : List (Entry ρ)) : Prop :=
    ∃ xs, Conducted c xs s.stage t seen ∧ xs.countP Exchange.isRefused = 0
  let Ends (result : Except Overflow (Except (RetryError CallError) α)) (t : Stage (Recorded σ α))
      (seen : List (Entry ρ)) : Prop :=
    ∃ xs, Conducted c xs s.stage t seen ∧
      xs.countP Exchange.isRefused = if endsRefused (result.map some) then 1 else 0
  -- A turn after which the loop goes on was not refused, so only the last turn may have been.
  have extend {left attempt : Nat} {u t : Stage (Recorded σ α)} {seen more : List (Entry ρ)}
      {ended : Except Overflow (Option (Except (RetryError CallError) α))} (h : Keeps left attempt u seen)
      (hturn : Retrier.Turn c.retrier (surroundings (env.recorded α)) ctx errors
        (c.attempt (env.recorded α) transport.recorded ctx request timeout (c.nextCall timeout s))
        (c.retrier.budget c.maxRetryAttempts) (env.now s.stage.world.world) left attempt u ended t more) :
      ∃ xs, Conducted c xs s.stage t (seen ++ more) ∧
        xs.countP Exchange.isRefused = if endsRefused ended then 1 else 0 := by
    obtain ⟨xs, hx, hr⟩ := h
    obtain ⟨ys, hy, hr'⟩ := turn_conducted returns hturn
    exact ⟨xs ++ ys, hx.trans hy, by rw [List.countP_append, hr, hr', Nat.zero_add]⟩
  exact Retrier.loop_rule Keeps Ends (fun h hturn => extend h hturn) (fun h hturn => extend h hturn)
    (fun h hturn => extend h hturn) ⟨[], .refl c s.stage, rfl⟩

theorem endsRefused_map (result : Except Overflow (Except (RetryError CallError) α)) :
    endsRefused (result.map some) = isRefused (result.map (Except.mapError callError)) := by
  cases result <;> rfl

theorem executeWithin_conducted (returns : transport.Returns) (c : Client τ) (env : Surroundings σ)
    (ctx : CallContext) (request : ρ) (timeout : Duration) (s : State (Recorded σ α) τ) :
    let done := c.executeWithin (env.recorded α) transport.recorded ctx request timeout s
    ∃ xs, Conducted c xs s.stage done.state.stage done.journal ∧
      xs.countP Exchange.isRefused = if isRefused done.result then 1 else 0 := by
  intro done
  obtain ⟨xs, hx, hr⟩ := looped_conducted returns c env ctx request timeout s
  obtain ⟨hresult, hstage, hd⟩ :=
    c.executeWithin_looped (env.recorded α) transport.recorded ctx request timeout s
  rw [endsRefused_map, ← hresult] at hr
  exact ⟨xs, hx.frame (by rw [hstage]) (by rw [hstage]) hd, hr⟩

theorem call_conducted (returns : transport.Returns) (c : Client τ) (env : Surroundings σ)
    (ctx : CallContext) (request : ρ) (timeout : Option Duration) (s : State (Recorded σ α) τ) :
    let done := c.call (env.recorded α) transport.recorded ctx request timeout s
    ∃ xs, Conducted c xs s.stage done.state.stage done.journal ∧
      xs.countP Exchange.isRefused = if isRefused done.result then 1 else 0 := by
  cases timeout with
  | none => exact executeWithin_conducted returns c env ctx request c.perCallTimeout s
  | some timeout => exact executeWithin_conducted returns c env ctx request timeout s

theorem session_conducted (returns : transport.Returns) (c : Client τ) (env : Surroundings σ)
    (actions : List (Action σ ρ)) (s : State (Recorded σ α) τ) :
    let run := c.session (env.recorded α) transport.recorded (actions.map (Action.recorded α)) s
    ∃ xs, Conducted c xs s.stage run.state.stage run.journal ∧
      xs.countP Exchange.isRefused = run.results.countP isRefused := by
  induction actions generalizing s with
  | nil => exact ⟨[], .refl c s.stage, rfl⟩
  | cons action rest ih =>
    cases action with
    | call ctx request timeout =>
      obtain ⟨xs, hx, hr⟩ := call_conducted returns c env ctx request timeout s
      obtain ⟨ys, hy, hr'⟩ := ih (c.call (env.recorded α) transport.recorded ctx request timeout s).state
      refine ⟨xs ++ ys, hx.trans hy, ?_⟩
      rw [List.countP_append, hr, hr', List.map_cons, Action.recorded, session, List.countP_cons, Nat.add_comm]
    | pass change =>
      have idle : Conducted c [] s.stage ⟨{ s.stage.world with world := change s.stage.world.world },
          s.stage.breaker⟩ ([] : List (Entry ρ)) := (Conducted.refl c s.stage).frame rfl rfl rfl
      obtain ⟨ys, hy, hr⟩ := ih { s with stage := ⟨{ s.stage.world with world := change _ }, _⟩ }
      exact ⟨ys, idle.trans hy, hr⟩

/-! ### The next call -/

theorem eq_refused {result : Except Overflow (Except CallError α)} (h : isRefused result = true) :
    result = .ok (.error .breakerOpen) := by
  unfold isRefused at h
  split at h
  · rfl
  · cases h

theorem attempt_refused {request : ρ} {timeout : Duration} {call : Call} {index : Nat} {s : Stage σ}
    (hc : env.cancelled s.world ctx.token = false) (he : ctx.isExpired (env.now s.world) = false)
    (ha : (c.asked env s).result = false) :
    isRefused (c.attempt env transport ctx request timeout call index s).result = true := by
  have h := attempted c env transport ctx request timeout call index s
  generalize c.attempt env transport ctx request timeout call index s = p at h
  cases h with
  | cancelled hc' => simp [hc] at hc'
  | expired _ he' => simp [he] at he'
  | refused => rfl
  | lost _ _ ha' | sent _ _ ha' => simp [ha] at ha'

/-- A call sends what its first attempt sends, and more only if that attempt was not refused. -/
theorem looped_first (c : Client τ) (env : Surroundings σ) (transport : Transport σ ρ α) (ctx : CallContext)
    (request : ρ) (timeout : Duration) (s : State σ τ) :
    let first := c.attempt env transport ctx request timeout (c.nextCall timeout s) 0 s.stage
    let loop := c.looped env transport ctx request timeout s
    dispatches first.journal ≤ dispatches loop.journal ∧
      (isRefused first.result = true →
        endsRefused (loop.result.map some) = true ∧ dispatches loop.journal = dispatches first.journal) := by
  intro first loop
  let budget := c.retrier.budget c.maxRetryAttempts
  obtain ⟨ended, t, seen, hturn, he⟩ := c.retrier.loop_turn (surroundings env) ctx errors
    (c.attempt env transport ctx request timeout (c.nextCall timeout s)) budget (env.now s.stage.world)
    budget 0 s.stage
  have hd : dispatches seen = dispatches first.journal := hturn.dispatches
  have hr : isRefused first.result = endsRefused ended := turn_refused hturn
  rw [show loop = _ from he, hr, ← hd]
  match ended with
  | .error cause => exact ⟨Nat.le_refl _, fun h => by cases h⟩
  | .ok (some answer) => exact ⟨Nat.le_refl _, fun h => ⟨h, rfl⟩⟩
  | .ok none =>
    refine ⟨?_, fun h => by cases h⟩
    rw [dispatches_append]
    exact Nat.le_add_right _ _

/-- Under a context that is neither cancelled nor expired a client whose breaker nobody is using sends
    something, unless the breaker is open and its time is not over. -/
theorem executeWithin_sends (c : Client τ) (env : Surroundings σ) (transport : Transport σ ρ α)
    (ctx : CallContext) (request : ρ) (timeout : Duration) {s : State σ τ}
    (hs : Breaker.State.Sound c.breaker s.stage.breaker) (idle : s.stage.breaker.inFlight = 0)
    (hc : env.cancelled s.stage.world ctx.token = false)
    (he : ctx.isExpired (env.now s.stage.world) = false) :
    let done := c.executeWithin env transport ctx request timeout s
    (s.stage.breaker.Passable (env.now s.stage.world) → 0 < dispatches done.journal) ∧
      (¬s.stage.breaker.Passable (env.now s.stage.world) →
        dispatches done.journal = 0 ∧ done.result = .ok (.error .breakerOpen)) := by
  intro done
  have ha : (c.asked env s.stage).result = true ↔ s.stage.breaker.Passable (env.now s.stage.world) :=
    Breaker.State.allow_result_iff hs idle
  have hfirst := (attempted c env transport ctx request timeout (c.nextCall timeout s) 0 s.stage).dispatches
  rw [hc, he] at hfirst
  obtain ⟨hle, hrefused⟩ := looped_first c env transport ctx request timeout s
  obtain ⟨hresult, -, hd⟩ := c.executeWithin_looped env transport ctx request timeout s
  constructor
  · intro hp
    rw [ha.mpr hp] at hfirst
    rw [hfirst, ← hd] at hle
    exact hle
  · intro hp
    have hr : (c.asked env s.stage).result = false := Bool.eq_false_iff.mpr fun h => hp (ha.mp h)
    obtain ⟨hend, hj⟩ := hrefused (attempt_refused hc he hr)
    rw [hr] at hfirst
    rw [endsRefused_map, ← hresult] at hend
    exact ⟨hd.trans (hj.trans hfirst), eq_refused hend⟩

/-! ### Sequences of calls -/

theorem countP_verdict (c : Breaker.Config) (sends : List (Except TransportError α)) :
    (sends.countP fun answer => verdict c answer = .success) +
      (sends.countP fun answer => verdict c answer = .failure) +
        (sends.countP fun answer => verdict c answer = .ignored) = sends.length := by
  induction sends with
  | nil => rfl
  | cons answer sends ih =>
    simp only [List.countP_cons, List.length_cons]
    cases verdict c answer <;> simp <;> omega

theorem Conducted.totals {xs : List (Exchange α)} {world : σ} {start : Instant} {t : Stage (Recorded σ α)}
    {journal : List (Entry ρ)} (h : Conducted c xs ⟨⟨world, []⟩, .fresh c.breaker start⟩ t journal) :
    dispatches journal = t.world.answers.length ∧
      t.breaker.metrics.requests = t.world.answers.length ∧
      (t.breaker.metrics.successes = t.world.answers.countP fun answer => verdict c.breaker answer = .success) ∧
      (t.breaker.metrics.ignored = t.world.answers.countP fun answer => verdict c.breaker answer = .ignored) ∧
      (t.breaker.metrics.failures = t.world.answers.countP fun answer => verdict c.breaker answer = .failure) ∧
      t.breaker.metrics.rejected = xs.countP Exchange.isRefused := by
  have hsends : t.world.answers = xs.filterMap Exchange.answer? := h.answers
  have hreports (v : Breaker.Verdict) : c.breaker.reports v (xs.flatMap Exchange.events) =
      t.world.answers.countP fun answer => verdict c.breaker answer = v := by
    rw [Exchange.reports_events, hsends]
  have hcount := countP_verdict c.breaker t.world.answers
  have hg := Exchange.grown xs _ h.replies
  rw [← h.breaker] at hg
  refine ⟨by rw [h.dispatched, hsends], ?_, ?_, ?_, ?_, ?_⟩
  · rw [hg.requests, hreports, hreports, hreports, hcount]
    exact Nat.zero_add _
  · rw [hg.successes, hreports]
    exact Nat.zero_add _
  · rw [hg.ignored, hreports]
    exact Nat.zero_add _
  · rw [hg.failures, hreports]
    exact Nat.zero_add _
  · rw [hg.rejected, Exchange.count_replies]
    exact Nat.zero_add _

theorem Conducted.inUse {xs : List (Exchange α)} {world : σ} {start : Instant} {t : Stage (Recorded σ α)}
    {journal : List (Entry ρ)} (h : Conducted c xs ⟨⟨world, []⟩, .fresh c.breaker start⟩ t journal) :
    Breaker.State.InUse c.breaker start t.breaker 0 := by
  rw [h.breaker]
  exact Exchange.inUse xs .fresh h.replies

/-- A caller uses a new client for any number of calls; between calls anything happens to the
    surroundings. Every attempt that the breaker permits is sent and reported once, nothing else is sent
    or reported, and the totals of the breaker count the sends by their answers and the calls that it
    refused. Nothing is in flight between calls, so the next call sends something unless the breaker is
    open and its time is not over. -/
theorem session_law (c : Client τ) (env : Surroundings σ) (transport : Transport σ ρ α)
    (returns : transport.Returns) (actions : List (Action σ ρ)) (world : σ) (spans : τ) (start : Instant) :
    let run := c.session env transport actions (.start c world spans start)
    let recorded := c.session (env.recorded α) transport.recorded (actions.map (Action.recorded α))
      (.start c ⟨world, []⟩ spans start)
    let sends := recorded.state.stage.world.answers
    let breaker := run.state.stage.breaker
    run = recorded.mapState Recorded.world ∧
      (∃ xs, Conducted c xs ⟨⟨world, []⟩, .fresh c.breaker start⟩ recorded.state.stage recorded.journal) ∧
      dispatches run.journal = sends.length ∧
      breaker.metrics.requests = sends.length ∧
      (breaker.metrics.successes = sends.countP fun answer => verdict c.breaker answer = .success) ∧
      (breaker.metrics.ignored = sends.countP fun answer => verdict c.breaker answer = .ignored) ∧
      (breaker.metrics.failures = sends.countP fun answer => verdict c.breaker answer = .failure) ∧
      breaker.metrics.rejected = run.results.countP isRefused ∧
      breaker.inFlight = 0 ∧
      ∀ ctx request timeout, env.cancelled run.state.stage.world ctx.token = false →
        ctx.isExpired (env.now run.state.stage.world) = false →
        let next := c.call env transport ctx request timeout run.state
        (breaker.Passable (env.now run.state.stage.world) → 0 < dispatches next.journal) ∧
          (¬breaker.Passable (env.now run.state.stage.world) →
            dispatches next.journal = 0 ∧ next.result = .ok (.error .breakerOpen)) := by
  intro run recorded sends breaker
  let first : State (Recorded σ α) τ := .start c ⟨world, []⟩ spans start
  have hrun : run = recorded.mapState Recorded.world := c.session_recorded env transport actions first
  obtain ⟨xs, hx, hr⟩ := session_conducted returns c env actions first
  obtain ⟨hd, hrequests, hsuccesses, hignored, hfailures, hrejected⟩ := hx.totals
  -- What the record adds to the surroundings is not part of what the law is about.
  have hb : breaker = recorded.state.stage.breaker := congrArg (·.state.stage.breaker) hrun
  have hj : run.journal = recorded.journal := congrArg (·.journal) hrun
  have hres : run.results = recorded.results := congrArg (·.results) hrun
  have huse : Breaker.State.InUse c.breaker start breaker 0 := hb ▸ hx.inUse
  have idle : breaker.inFlight = 0 := Nat.le_zero.mp huse.inFlight_le
  refine ⟨hrun, ⟨xs, hx⟩, (congrArg dispatches hj).trans hd, (congrArg (·.metrics.requests) hb).trans hrequests,
    (congrArg (·.metrics.successes) hb).trans hsuccesses, (congrArg (·.metrics.ignored) hb).trans hignored,
    (congrArg (·.metrics.failures) hb).trans hfailures, ?_, idle, ?_⟩
  · rw [hb, hres]
    exact hrejected.trans hr
  · intro ctx request timeout hc he
    cases timeout with
    | none => exact executeWithin_sends c env transport ctx request c.perCallTimeout huse.sound idle hc he
    | some timeout => exact executeWithin_sends c env transport ctx request timeout huse.sound idle hc he

/-- A call that fails twice, which opens the breaker, and is refused when it tries a third time. -/
theorem session_law_outage :
    let env : Surroundings Nat := ⟨fun _ => .origin, fun _ _ => false, fun s _ _ => (.ok true, s)⟩
    let transport : Transport Nat Unit Unit := ⟨fun s _ _ => (.ok (.error (.connection "down")), s + 1)⟩
    let c : Client Unit :=
      { target := "target", retrier := ⟨some (.constant .zero)⟩, breaker := { failureThreshold := 2 }
        maxRetryAttempts := 5, perCallTimeout := .ofSeconds 1, telemetry := .silent
        callId := toString }
    let run := c.session env transport [.call ⟨none, ⟨0⟩⟩ () none] (.start c 0 () .origin)
    transport.Returns ∧ run.state.stage.breaker.metrics.requests = 2 ∧
      run.state.stage.breaker.metrics.failures = 2 ∧ run.state.stage.breaker.metrics.rejected = 1 := by
  intro env transport c run
  have returns : transport.Returns := fun _ _ _ => ⟨_, rfl⟩
  obtain ⟨-, -, -, hrequests, -, -, hfailures, hrejected, -⟩ :=
    session_law c env transport returns [.call ⟨none, ⟨0⟩⟩ () none] 0 () .origin
  have hrun : run = c.session env transport [.call ⟨none, ⟨0⟩⟩ () none] (.start c 0 () .origin) := rfl
  rw [hrun, hrequests, hfailures, hrejected]
  exact ⟨returns, by decide, by decide, by decide⟩

end Client
end Resilience
