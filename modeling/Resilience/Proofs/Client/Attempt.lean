import Resilience.Client.Basic
import Resilience.Proofs.Journal
import Resilience.Proofs.Retry.Loop

/-! What one attempt of a client comes to, what it gives to the transport, and what a call makes of its
    attempts. Proofs about clients read the cases of `Attempted` and of `Called`; they open neither an attempt nor
    a call. -/

namespace Resilience

namespace Retrier

variable {σ ρ ε α : Type} {r : Retrier} {env : Surroundings σ} {ctx : CallContext} {kind : ErrorKind ε}
  {work : Nat → σ → Performed σ ρ (Except ε α)} {budget left attempt : Nat} {started : Instant} {s t : σ}

theorem Turn.dispatches {ended : Except Overflow (Option (Except (RetryError ε) α))}
    {journal : List (Entry ρ)} (h : Turn r env ctx kind work budget started left attempt s ended t journal) :
    dispatches journal = Resilience.dispatches (work attempt s).journal := by
  have hview : journal.filterMap (Option.guard Entry.isDispatch) =
      (work attempt s).journal.filterMap (Option.guard Entry.isDispatch) :=
    h.filterMap_journal (fun _ _ => rfl) (fun _ => rfl) fun _ => rfl
  rw [List.filterMap_eq_filter] at hview
  unfold Resilience.dispatches
  rw [List.countP_eq_length_filter, List.countP_eq_length_filter, hview]

end Retrier

namespace Client

variable {σ τ ρ α : Type}

def asked (c : Client τ) (env : Surroundings σ) (s : Stage σ) : Breaker.Step Bool :=
  s.breaker.allow c.breaker (env.now s.world)

/-- What the breaker is told after a permitted attempt from which the transport came back at `ended`. -/
def finished (started ended : Instant) (answer : Except TransportError α) : Breaker.Outcome :=
  outcome (ended.since started) (answer.mapError CallError.ofTransport)

/-- The client's report to the breaker after a permitted attempt that left the surroundings `world`. -/
def reported (c : Client τ) (env : Surroundings σ) (s : Stage σ) (answer : Except TransportError α)
    (world : σ) : Breaker.Step Unit :=
  (c.asked env s).state.report c.breaker (env.now world) (finished (env.now s.world) (env.now world) answer)

def bounded (env : Surroundings σ) (ctx : CallContext) (timeout : Duration) (s : Stage σ) : CallContext :=
  ctx.shrink (env.now s.world) timeout

def dispatchEntry (env : Surroundings σ) (ctx : CallContext) (request : ρ) (timeout : Duration)
    (s : Stage σ) : Entry ρ :=
  .dispatch request (bounded env ctx timeout s).deadline
    (env.cancelled s.world (bounded env ctx timeout s).token)

/-- One attempt from `s`: its outcome, the stage it leaves and its entries. -/
inductive Attempted (c : Client τ) (env : Surroundings σ) (transport : Transport σ ρ α) (ctx : CallContext)
    (request : ρ) (timeout : Duration) (call : Call) (index : Nat) (s : Stage σ) :
    Performed (Stage σ) ρ (Except CallError α) → Prop
  | cancelled (hc : env.cancelled s.world ctx.token = true) :
    Attempted c env transport ctx request timeout call index s ⟨.ok (.error .cancelled), s, []⟩
  | expired (hc : env.cancelled s.world ctx.token = false) (he : ctx.isExpired (env.now s.world) = true) :
    Attempted c env transport ctx request timeout call index s ⟨.ok (.error .timeout), s, []⟩
  | refused (hc : env.cancelled s.world ctx.token = false) (he : ctx.isExpired (env.now s.world) = false)
    (ha : (c.asked env s).result = false) :
    Attempted c env transport ctx request timeout call index s
      ⟨.ok (.error .breakerOpen), ⟨s.world, (c.asked env s).state⟩,
        (c.settle (c.asked env s)).2 ++ (if c.hook then [.refused request] else []) ++
          c.record call .info s!"circuit breaker for '{c.target}' is open, rejecting call"
            [("attempt", Json.ofNat index)]⟩
  /-- The transport never came back. -/
  | lost (hc : env.cancelled s.world ctx.token = false) (he : ctx.isExpired (env.now s.world) = false)
    (ha : (c.asked env s).result = true) {cause : Overflow} {world : σ}
    (hs : transport.send s.world request (bounded env ctx timeout s) = (.error cause, world)) :
    Attempted c env transport ctx request timeout call index s
      ⟨.error cause, ⟨world, (c.asked env s).state⟩,
        (c.settle (c.asked env s)).2 ++ [dispatchEntry env ctx request timeout s]⟩
  | sent (hc : env.cancelled s.world ctx.token = false) (he : ctx.isExpired (env.now s.world) = false)
    (ha : (c.asked env s).result = true) {answer : Except TransportError α} {world : σ}
    (hs : transport.send s.world request (bounded env ctx timeout s) = (.ok answer, world)) :
    Attempted c env transport ctx request timeout call index s
      ⟨.ok (answer.mapError CallError.ofTransport), ⟨world, (c.reported env s answer world).state⟩,
        (c.settle (c.asked env s)).2 ++ ([dispatchEntry env ctx request timeout s] ++
          (c.settle (c.reported env s answer world)).2 ++
            match answer.mapError CallError.ofTransport with
            | .ok _ => []
            | .error e => c.failureRecord call index ((env.now world).since (env.now s.world)) e)⟩

variable {c : Client τ} {env : Surroundings σ} {transport : Transport σ ρ α} {ctx : CallContext}
  {request : ρ} {timeout : Duration} {call : Call} {index : Nat} {s : Stage σ}

theorem settle_state {β : Type} (c : Client τ) (step : Breaker.Step β) :
    (c.settle step : Breaker.State × List (Entry ρ)).1 = step.state := by
  unfold settle Breaker.Step.settle
  split <;> rfl

theorem settle_inv {β : Type} (c : Client τ) (step : Breaker.Step β) :
    (c.settle step : Breaker.State × List (Entry ρ)).2 = [] ∨
      ∃ level text t, (c.settle step : Breaker.State × List (Entry ρ)).2 = .log level text :: c.announce t := by
  unfold settle Breaker.Step.settle
  split
  · exact .inl rfl
  · rename_i t _
    refine .inr ?_
    unfold Breaker.Transition.logLine
    split
    · split <;> exact ⟨_, _, t, rfl⟩
    · exact ⟨_, _, t, rfl⟩
    · exact ⟨_, _, t, rfl⟩

theorem attempted (c : Client τ) (env : Surroundings σ) (transport : Transport σ ρ α) (ctx : CallContext)
    (request : ρ) (timeout : Duration) (call : Call) (index : Nat) (s : Stage σ) :
    Attempted c env transport ctx request timeout call index s
      (c.attempt env transport ctx request timeout call index s) := by
  unfold attempt
  split
  · exact .cancelled ‹_›
  have hc : env.cancelled s.world ctx.token = false := Bool.eq_false_iff.mpr ‹_›
  split
  · exact .expired hc ‹_›
  have he : ctx.isExpired (env.now s.world) = false := Bool.eq_false_iff.mpr ‹_›
  simp only [settle_state]
  split
  · have ha : (c.asked env s).result = true := ‹_›
    rcases hs : transport.send s.world request (bounded env ctx timeout s) with ⟨cause | answer, world⟩
    · simp only [dispatch, bounded] at hs ⊢
      simp only [hs]
      exact .lost hc he ha hs
    · simp only [dispatch, bounded] at hs ⊢
      simp only [hs, settle_state]
      exact .sent hc he ha hs
  · have ha : (c.asked env s).result = false := Bool.eq_false_iff.mpr ‹_›
    exact .refused hc he ha

/-! ### Requests given to the transport -/

theorem acts_entry (t : Telemetry τ) (e : LogEvent) : acts (t.entry e : List (Entry ρ)) = [] := by
  unfold Telemetry.entry
  split <;> rfl

theorem acts_settle {β : Type} (c : Client τ) (step : Breaker.Step β) :
    acts (c.settle step : Breaker.State × List (Entry ρ)).2 = [] := by
  rcases c.settle_inv (ρ := ρ) step with h | ⟨level, text, t, h⟩
  · rw [h]
    rfl
  · rw [h]
    show acts (c.announce t : List (Entry ρ)) = []
    rw [announce, acts_append, acts_entry]
    split <;> rfl

theorem acts_record (c : Client τ) (call : Call) (level : Level) (message : String)
    (fields : List (String × Json)) : acts (c.record call level message fields : List (Entry ρ)) = [] :=
  acts_entry ..

/-- Exactly a permitted attempt gives the transport a request. -/
theorem Attempted.acts {p : Performed (Stage σ) ρ (Except CallError α)}
    (h : Attempted c env transport ctx request timeout call index s p) :
    acts p.journal =
      if env.cancelled s.world ctx.token || ctx.isExpired (env.now s.world) || !(c.asked env s).result then []
      else [dispatchEntry env ctx request timeout s] := by
  have hd : Resilience.acts [dispatchEntry env ctx request timeout s] =
      [dispatchEntry env ctx request timeout s] := rfl
  cases h with
  | cancelled hc => rw [hc]; rfl
  | expired hc he => rw [hc, he]; rfl
  | refused hc he ha =>
    rw [hc, he, ha, acts_append, acts_append, acts_settle, acts_record]
    split <;> rfl
  | lost hc he ha =>
    rw [hc, he, ha, acts_append, acts_settle, hd]
    rfl
  | sent hc he ha =>
    rw [hc, he, ha, acts_append, acts_append, acts_append, acts_settle, acts_settle, hd]
    split
    · rfl
    · rw [failureRecord, acts_record]
      rfl

theorem Attempted.dispatches {p : Performed (Stage σ) ρ (Except CallError α)}
    (h : Attempted c env transport ctx request timeout call index s p) :
    dispatches p.journal =
      if env.cancelled s.world ctx.token || ctx.isExpired (env.now s.world) || !(c.asked env s).result then 0
      else 1 := by
  rw [dispatches_acts, h.acts]
  split <;> rfl

theorem acts_conclusion (c : Client τ) (call : Call) (answer : Except CallError α) :
    acts (c.conclusion call answer : List (Entry ρ) × SpanStatus).1 = [] := by
  cases answer with
  | ok value => rfl
  | error e => exact acts_record ..

/-! ### Calls -/

/-- The name and the span of the next call. -/
def nextCall (c : Client τ) (timeout : Duration) (s : State σ τ) : Call :=
  let id := c.callId s.calls
  ⟨id, (c.telemetry.startSpan s.spans "resilient_call" (c.spanFields id timeout)).1⟩

def looped (c : Client τ) (env : Surroundings σ) (transport : Transport σ ρ α) (ctx : CallContext)
    (request : ρ) (timeout : Duration) (s : State σ τ) :
    Performed (Stage σ) ρ (Except (RetryError CallError) α) :=
  let budget := c.retrier.budget c.maxRetryAttempts
  c.retrier.loop (surroundings env) ctx errors
    (c.attempt env transport ctx request timeout (c.nextCall timeout s)) budget (env.now s.stage.world)
    budget 0 s.stage

/-- The span of the next call. -/
def opened (c : Client τ) (timeout : Duration) (s : State σ τ) : SpanId × τ :=
  c.telemetry.startSpan s.spans "resilient_call" (c.spanFields (c.callId s.calls) timeout)

def openingEntry (c : Client τ) (timeout : Duration) (s : State σ τ) : Entry ρ :=
  .spanStarted (c.opened timeout s).1 "resilient_call" (c.spanFields (c.callId s.calls) timeout)

/-- One call from `s`: its outcome, the state it leaves and its entries. -/
inductive Called (c : Client τ) (env : Surroundings σ) (transport : Transport σ ρ α) (ctx : CallContext)
    (request : ρ) (timeout : Duration) (s : State σ τ) : Performed (State σ τ) ρ (Except CallError α) → Prop
  /-- The call never returned, and its span stays open. -/
  | lost {cause : Overflow} {t : Stage σ} {journal : List (Entry ρ)}
    (hl : c.looped env transport ctx request timeout s = ⟨.error cause, t, journal⟩) :
    Called c env transport ctx request timeout s
      ⟨.error cause, ⟨t, (c.opened timeout s).2, s.calls + 1⟩, [c.openingEntry timeout s] ++ journal⟩
  | returned {answer : Except (RetryError CallError) α} {t : Stage σ} {journal : List (Entry ρ)}
    {last : List (Entry ρ) × SpanStatus}
    (hl : c.looped env transport ctx request timeout s = ⟨.ok answer, t, journal⟩)
    (hlast : c.conclusion (c.nextCall timeout s) (answer.mapError callError) = last) :
    Called c env transport ctx request timeout s
      ⟨.ok (answer.mapError callError),
        ⟨t, c.telemetry.endSpan (c.opened timeout s).2 (c.opened timeout s).1 last.2, s.calls + 1⟩,
        [c.openingEntry timeout s] ++ journal ++ last.1 ++ [.spanEnded (c.opened timeout s).1 last.2]⟩

theorem called (c : Client τ) (env : Surroundings σ) (transport : Transport σ ρ α) (ctx : CallContext)
    (request : ρ) (timeout : Duration) (s : State σ τ) :
    Called c env transport ctx request timeout s (c.executeWithin env transport ctx request timeout s) := by
  have hl : c.retrier.run (surroundings env) ctx errors
      (c.attempt env transport ctx request timeout (c.nextCall timeout s)) c.maxRetryAttempts s.stage =
        c.looped env transport ctx request timeout s := rfl
  unfold executeWithin
  dsimp only [nextCall] at hl ⊢
  rw [hl]
  rcases h : c.looped env transport ctx request timeout s with ⟨cause | answer, t, journal⟩
  · exact .lost h
  · exact .returned h rfl

/-- A call is its retry loop; around it only telemetry is told. -/
theorem executeWithin_loop (c : Client τ) (env : Surroundings σ) (transport : Transport σ ρ α)
    (ctx : CallContext) (request : ρ) (timeout : Duration) (s : State σ τ) :
    let done := c.executeWithin env transport ctx request timeout s
    let loop := c.looped env transport ctx request timeout s
    done.result = loop.result.map (Except.mapError callError) ∧ done.state.stage = loop.state ∧
      acts done.journal = acts loop.journal := by
  have h := c.called env transport ctx request timeout s
  generalize c.executeWithin env transport ctx request timeout s = done at h ⊢
  cases h with
  | lost hl =>
    rw [hl]
    exact ⟨rfl, rfl, acts_append ..⟩
  | returned hl hlast =>
    rw [hl]
    refine ⟨rfl, rfl, ?_⟩
    rw [acts_append, acts_append, acts_append, ← hlast, acts_conclusion]
    exact (List.append_nil _).trans (List.append_nil _)

theorem executeWithin_looped (c : Client τ) (env : Surroundings σ) (transport : Transport σ ρ α)
    (ctx : CallContext) (request : ρ) (timeout : Duration) (s : State σ τ) :
    let done := c.executeWithin env transport ctx request timeout s
    let loop := c.looped env transport ctx request timeout s
    done.result = loop.result.map (Except.mapError callError) ∧ done.state.stage = loop.state ∧
      dispatches done.journal = dispatches loop.journal := by
  intro done loop
  obtain ⟨hresult, hstage, hj⟩ := c.executeWithin_loop env transport ctx request timeout s
  refine ⟨hresult, hstage, ?_⟩
  rw [dispatches_acts, dispatches_acts loop.journal]
  exact congrArg dispatches hj

end Client
end Resilience
