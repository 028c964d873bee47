import Resilience.Proofs.Client.Course
import Resilience.Proofs.Simulation

/-! What a raised flag does to a call. Every check of the flag is made in the surroundings that the last
    deed left, so the flag cannot slip in between: after it is raised the call asks the breaker for
    nothing, sends nothing and makes no wait. -/

namespace Resilience
namespace Client

variable {σ τ ρ α ε β : Type}

section
variable {c : Client τ} {env : Surroundings σ} {transport : Transport σ ρ α} {ctx : CallContext} {request : ρ}
  {timeout : Duration} {started : Instant} {budget left k : Nat} {first s t : Stage σ}
  {earlier more : List (Deed σ α)} {ended : Except Overflow (Option (Except (RetryError CallError) α))}
  {d : Deed σ α}

/-- Of two deeds the first leaves the flag raised only if the second is an attempt that finds it so. -/
def Ceases (env : Surroundings σ) (ctx : CallContext) (d x : Deed σ α) : Prop :=
  env.cancelled d.after ctx.token = true →
    ∃ k stage, x = .attempt k stage ∧ env.cancelled stage.world ctx.token = true

theorem Ceases.of_calm {x : Deed σ α} (h : env.cancelled d.after ctx.token = false) : Ceases env ctx d x :=
  fun hc => absurd (h.symm.trans hc) Bool.false_ne_true

/-- An attempt under a raised flag asks nobody and ends the call. -/
theorem Round.of_raised (hc : env.cancelled s.world ctx.token = true)
    (h : Round c env transport ctx request timeout started left k s ended t more) :
    ended = .ok (some (.error (.aborted (k + 1) .cancelled))) ∧ t = s ∧ more = [.attempt k s] := by
  cases h with
  | cancelled => exact ⟨rfl, rfl, rfl⟩
  | expired hc' | expiredLast hc' => exact absurd (hc'.symm.trans hc) Bool.false_ne_true
  | refused hp | lost hp | answered hp => exact absurd (hp.1.1.symm.trans hc) Bool.false_ne_true

/-- After an answer under a raised flag nothing more is done: the answer itself ends the call, or the
    budget is used up, or the call is cancelled. -/
theorem Aftermath.of_raised {r : Retrier} {w u : σ} {answer : Except CallError α}
    (hc : env.cancelled w ctx.token = true)
    (h : Aftermath r env ctx started left k w answer ended u more) :
    u = w ∧ more = [] ∧ ended ≠ .ok none := by
  cases h with
  | succeeded | aborted | exhausted | interrupted => exact ⟨rfl, rfl, nofun⟩
  | again _ _ hp | waited _ _ hp | cut _ _ hp | stuck _ _ hp =>
    rw [Retrier.pause_of_cancelled hc] at hp
    cases hp

theorem Aftermath.ceases {r : Retrier} {w u : σ} {answer : Except CallError α}
    (h : Aftermath r env ctx started left k w answer ended u more) : more.Pairwise (Ceases env ctx) := by
  cases h with
  | succeeded | aborted | exhausted | interrupted | again => exact .nil
  | waited | cut | stuck => exact List.pairwise_singleton ..

theorem Round.ceases (h : Round c env transport ctx request timeout started left k s ended t more) :
    more.Pairwise (Ceases env ctx) := by
  cases h with
  | cancelled | expired | expiredLast | refused => exact List.pairwise_singleton ..
  | lost hp => exact .cons (fun _ _ => .of_calm hp.1.1) (List.pairwise_singleton ..)
  | @answered hp answer w u ended more hs next =>
    refine .cons (fun _ _ => .of_calm hp.1.1) (.cons (fun x hx hc => ?_) next.ceases)
    obtain ⟨-, rfl, -⟩ := next.of_raised hc
    cases hx

/-- A round that leads to another one leaves the flag raised only if that other one finds it so. -/
theorem Round.raised (h : Round c env transport ctx request timeout started left k s (.ok none) t more)
    (hd : d ∈ more) (hc : env.cancelled d.after ctx.token = true) : env.cancelled t.world ctx.token = true := by
  obtain ⟨-, hp, failure, w, -, -, hrest⟩ := h.goesOn
  have hs : env.cancelled s.world ctx.token = false := hp.1.1
  obtain ⟨hpause, rfl, rfl⟩ | ⟨hpause, -, rfl⟩ := hrest <;>
    simp only [List.mem_cons, List.not_mem_nil, or_false] at hd
  · rcases hd with rfl | rfl
    · exact absurd (hs.symm.trans hc) Bool.false_ne_true
    · exact hc
  · have hw : env.cancelled w ctx.token = false :=
      Retrier.not_cancelled_of_pause fun h => by cases hpause.symm.trans h
    rcases hd with rfl | rfl | rfl
    · exact absurd (hs.symm.trans hc) Bool.false_ne_true
    · exact absurd (hw.symm.trans hc) Bool.false_ne_true
    · exact hc

theorem Underway.raised (h : Underway c env transport ctx request timeout started budget first k s earlier)
    (hd : d ∈ earlier) (hc : env.cancelled d.after ctx.token = true) : env.cancelled s.world ctx.token = true := by
  induction h with
  | start => cases hd
  | next _ round ih =>
    rcases List.mem_append.mp hd with hd | hd
    · -- The round that has followed would have ended the call.
      obtain ⟨hended, -⟩ := round.of_raised (ih hd)
      cases hended
    · exact round.raised hd hc

/-- What follows the rounds so far finds the flag as they left it. -/
theorem Underway.ceases_append
    (hrow : Underway c env transport ctx request timeout started budget first k s earlier)
    (hearlier : earlier.Pairwise (Ceases env ctx))
    (h : Round c env transport ctx request timeout started left k s ended t more) :
    (earlier ++ more).Pairwise (Ceases env ctx) := by
  refine List.pairwise_append.mpr ⟨hearlier, h.ceases, fun d hd x hx hc => ?_⟩
  have hs := hrow.raised hd hc
  obtain ⟨-, -, rfl⟩ := h.of_raised hs
  exact ⟨k, s, List.mem_singleton.mp hx, hs⟩

theorem Underway.ceases (h : Underway c env transport ctx request timeout started budget first k s earlier) :
    earlier.Pairwise (Ceases env ctx) := by
  induction h with
  | start => exact .nil
  | next hrow round ih => exact hrow.ceases_append ih round

theorem Underway.of_raised (h : Underway c env transport ctx request timeout started budget first k s earlier)
    (hd : d ∈ earlier) (hc : env.cancelled d.after ctx.token = true) :
    ∃ j u more, Round c env transport ctx request timeout started (budget - j) j u (.ok none) s more ∧
      d ∈ more ∧ more ⊆ earlier := by
  cases h with
  | start => cases hd
  | next hrow round =>
    rcases List.mem_append.mp hd with hd | hd
    · obtain ⟨hended, -⟩ := round.of_raised (hrow.raised hd hc)
      cases hended
    · exact ⟨_, _, _, round, hd, List.subset_append_right ..⟩

/-- A wait that came back ends its round, which leads to another one or is cut short. -/
theorem Round.of_slept {before after : σ} {delay : Duration} {completed : Bool}
    (h : Round c env transport ctx request timeout started left k s ended t more)
    (hd : .slept before delay (.ok completed) after ∈ more) :
    t.world = after ∧
      (ended = .ok none ∨ ∃ e, ended = .ok (some (.error (.interrupted (k + 1) .cancelled e)))) := by
  cases h with
  | cancelled | expired | expiredLast | refused | lost => simp at hd
  | @answered hp answer w u ended more hs next =>
    have hd : .slept before delay (.ok completed) after ∈ more := by simpa using hd
    generalize answer.mapError CallError.ofTransport = result at next
    cases next with
    | succeeded | aborted | exhausted | interrupted | again => cases hd
    | stuck => cases List.mem_singleton.mp hd
    | waited =>
      cases List.mem_singleton.mp hd
      exact ⟨rfl, .inl rfl⟩
    | cut =>
      cases List.mem_singleton.mp hd
      exact ⟨rfl, .inr ⟨_, rfl⟩⟩

/-- What the answer of an attempt comes to if nothing more can follow it. -/
theorem Aftermath.result_of_raised {r : Retrier} {w u : σ} {answer : Except CallError α}
    {result : Except Overflow (Except (RetryError CallError) α)} (hc : env.cancelled w ctx.token = true)
    (h : Aftermath r env ctx started left k w answer (result.map some) u more) :
    result.map (Except.mapError callError) = .ok (answer.mapError fun e =>
      if e.isRetryable = false then e
      else if left = 0 then .exhausted (k + 1) ((env.now w).since started) e else .cancelled) := by
  have hpause (delay : Duration) : Retrier.pause env ctx delay w = .refused .cancelled :=
    Retrier.pause_of_cancelled hc
  rcases result with cause | final
  · have h : Aftermath r env ctx started left k w answer (.error cause) u more := h
    cases h with
    | stuck _ _ hp => cases (hpause _).symm.trans hp
  · have h : Aftermath r env ctx started left k w answer (.ok (some final)) u more := h
    show Except.ok (final.mapError callError) = _
    cases h with
    | succeeded => rfl
    | aborted hr => exact congrArg (fun e => Except.ok (Except.error e)) (if_pos hr).symm
    | @exhausted e hr hl =>
      have hr : ¬e.isRetryable = false := by simp [hr]
      exact congrArg (fun e => Except.ok (Except.error e)) ((if_neg hr).trans (if_pos hl)).symm
    | @interrupted e cause hr hl hp =>
      have hr : ¬e.isRetryable = false := by simp [hr]
      cases (hpause _).symm.trans hp
      exact congrArg (fun e => Except.ok (Except.error e)) ((if_neg hr).trans (if_neg hl)).symm
    | cut _ _ hp => cases (hpause _).symm.trans hp

end

section
variable (c : Client τ) (env : Surroundings σ) (transport : Transport σ ρ α) (ctx : CallContext) (request : ρ)
  (timeout : Duration) (s : State σ τ)

theorem deeds_cease : (c.deeds env transport ctx request timeout s).Pairwise (Ceases env ctx) := by
  obtain ⟨k, t, earlier, last, result, hrow, hround, -, hdeeds, -⟩ :=
    c.course env transport ctx request timeout s
  rw [hdeeds]
  exact hrow.ceases_append hrow.ceases hround

/-- A flag that an attempt finds raised. -/
theorem raised_attempt {k : Nat} {start : Stage σ}
    (hd : .attempt k start ∈ c.deeds env transport ctx request timeout s)
    (hc : env.cancelled start.world ctx.token = true) :
    let done := c.executeWithin env transport ctx request timeout s
    done.state.stage = start ∧
      (c.deeds env transport ctx request timeout s).getLast? = some (.attempt k start) ∧
      done.result = .ok (.error .cancelled) := by
  intro done
  obtain ⟨-, ⟨t, more, hround⟩ | ⟨earlier, last, result, hround, hresult, hdeeds⟩⟩ :=
    c.round_of_attempt env transport ctx request timeout s hd
  · obtain ⟨hended, -⟩ := hround.of_raised hc
    cases hended
  · obtain ⟨hended, hstage, rfl⟩ := hround.of_raised hc
    rcases result with cause | answer <;> cases hended
    exact ⟨hstage, hdeeds ▸ List.getLast?_concat, hresult⟩

/-- A flag that is raised by the end of an attempt. -/
theorem raised_answer {k : Nat} {start : Stage σ}
    (hd : .attempt k start ∈ c.deeds env transport ctx request timeout s) {answer : Except CallError α} :
    let done := c.executeWithin env transport ctx request timeout s
    let tried := c.attempt env transport ctx request timeout (c.nextCall timeout s) k start
    tried.result = .ok answer → env.cancelled tried.state.world ctx.token = true →
      done.state.stage = tried.state ∧
      (∃ earlier sends, c.deeds env transport ctx request timeout s = earlier ++ .attempt k start :: sends ∧
        ∀ d ∈ sends, d.isSent = true) ∧
      done.result = .ok (answer.mapError fun e =>
        if e.isRetryable = false then e
        else if k = c.retrier.budget c.maxRetryAttempts then
          .exhausted (k + 1) ((env.now tried.state.world).since (env.now s.stage.world)) e
        else .cancelled) := by
  intro done tried htried hc
  obtain ⟨hk, ⟨t, more, hround⟩ | ⟨earlier, last, result, hround, hresult, hdeeds⟩⟩ :=
    c.round_of_attempt env transport ctx request timeout s hd
  · obtain ⟨_, _, -, -, -, ⟨_, -, he⟩ | ⟨_, -, next⟩⟩ := hround.aftermath (c.nextCall timeout s)
    · cases he
    · exact absurd rfl (next.of_raised hc).2.2
  · obtain ⟨sends, rest, rfl, hsends, hb, ⟨_, hlost, -⟩ | ⟨answer', ha, next⟩⟩ :=
      hround.aftermath (c.nextCall timeout s)
    · cases htried.symm.trans hlost
    · cases htried.symm.trans ha
      obtain ⟨hw, rfl, -⟩ := next.of_raised hc
      refine ⟨congr (congrArg Stage.mk hw) hb, ⟨earlier, sends, by rw [hdeeds, List.append_nil], hsends⟩, ?_⟩
      rw [hresult, next.result_of_raised hc]
      have hl : c.retrier.budget c.maxRetryAttempts - k = 0 ↔ k = c.retrier.budget c.maxRetryAttempts := by omega
      simp only [hl]

/-- A flag that is raised by the end of a wait. -/
theorem raised_wait {before after : σ} {delay : Duration} {completed : Bool}
    (hd : .slept before delay (.ok completed) after ∈ c.deeds env transport ctx request timeout s)
    (hc : env.cancelled after ctx.token = true) :
    let done := c.executeWithin env transport ctx request timeout s
    done.result = .ok (.error .cancelled) ∧ ∃ k start,
      .attempt k start ∈ c.deeds env transport ctx request timeout s ∧
      done.state.stage = ⟨after,
        (c.attempt env transport ctx request timeout (c.nextCall timeout s) k start).state.breaker⟩ := by
  intro done
  obtain ⟨k, t, earlier, last, result, hrow, hround, hresult, hdeeds, -⟩ :=
    c.course env transport ctx request timeout s
  rw [hdeeds] at hd ⊢
  rcases List.mem_append.mp hd with hd | hd
  · obtain ⟨j, u, more, round, hd', hsub⟩ := hrow.of_raised hd hc
    obtain ⟨hended, hstage, -⟩ := hround.of_raised (hrow.raised hd hc)
    obtain ⟨-, -, -, -, hb, -⟩ := round.aftermath (c.nextCall timeout s)
    rcases result with cause | answer <;> cases hended
    refine ⟨hresult, j, u, List.mem_append_left _ (hsub round.head), ?_⟩
    exact hstage.trans (congr (congrArg Stage.mk (round.of_slept hd').1) hb)
  · obtain ⟨hw, he | ⟨e, he⟩⟩ := hround.of_slept hd <;> rcases result with cause | answer <;> cases he
    obtain ⟨-, -, -, -, hb, -⟩ := hround.aftermath (c.nextCall timeout s)
    exact ⟨hresult, k, t, List.mem_append_right _ hround.head, congr (congrArg Stage.mk hw) hb⟩

/-- A flag that is raised before the call. -/
theorem raised_call (hc : env.cancelled s.stage.world ctx.token = true) :
    let done := c.executeWithin env transport ctx request timeout s
    done.state.stage = s.stage ∧ c.deeds env transport ctx request timeout s = [.attempt 0 s.stage] ∧
      done.result = .ok (.error .cancelled) := by
  intro done
  obtain ⟨k, t, earlier, last, result, hrow, hround, hresult, hdeeds, -⟩ :=
    c.course env transport ctx request timeout s
  have hfirst : .attempt 0 s.stage ∉ earlier := by
    intro h
    obtain ⟨j, u, v, more, round, hd, -⟩ := hrow.round_of_mem h
    obtain ⟨rfl, rfl⟩ := round.attempt_mem hd
    obtain ⟨hended, -⟩ := round.of_raised hc
    cases hended
  obtain ⟨rfl, rfl⟩ := hrow.head.resolve_right hfirst
  obtain ⟨hended, hstage, rfl⟩ := hround.of_raised hc
  rcases result with cause | answer <;> cases hended
  cases hrow with
  | start => exact ⟨hstage, hdeeds, hresult⟩

end

/-- A call on the manual clock, whatever the transport does and wherever the caller's flag is raised: before
    the call, while a request is with the transport, just before a wait or after it. No request is sent
    and no wait begins under a raised flag, and a wait that finds it raised does not move the clock. After
    a deed that leaves the flag raised there is at most an attempt that finds it so, and such an attempt
    leaves everything as it is. A flag raised during an attempt leaves the call with what that attempt
    decides, or else with a cancellation, and in every other case the call is cancelled. -/
theorem cancellation_law (c : Client τ) (transport : Transport (Simulation ε β) ρ α) (ctx : CallContext)
    (request : ρ) (timeout : Duration) (s : State (Simulation ε β) τ) :
    let env : Surroundings (Simulation ε β) := Simulation.surroundings
    let raised (w : Simulation ε β) : Prop := w.flags.isCancelled ctx.token = true
    let done := c.executeWithin env transport ctx request timeout s
    let deeds := c.deeds env transport ctx request timeout s
    let tried (k : Nat) (start : Stage (Simulation ε β)) :=
      c.attempt env transport ctx request timeout (c.nextCall timeout s) k start
    acts done.journal = deeds.map (Deed.entry env request) ∧
    (∀ before given answer after, .sent before given answer after ∈ deeds →
      given.token = ctx.token ∧ ¬raised before) ∧
    (∀ before delay answer after, .slept before delay answer after ∈ deeds → ¬raised before ∧
      ((before.waits.headD {}).cancelBefore = true → answer ≠ .ok true ∧ raised after ∧
        after.clock = (before.clock.advance (before.waits.headD {}).extra).2)) ∧
    (deeds.Pairwise fun d x => raised d.after → ∃ k stage, x = .attempt k stage ∧ raised stage.world) ∧
    (∀ k start, .attempt k start ∈ deeds → raised start.world →
      done.state.stage = start ∧ deeds.getLast? = some (.attempt k start) ∧
        done.result = .ok (.error .cancelled)) ∧
    (∀ k start answer, .attempt k start ∈ deeds → (tried k start).result = .ok answer →
      raised (tried k start).state.world →
      done.state.stage = (tried k start).state ∧
        (∃ earlier sends, deeds = earlier ++ .attempt k start :: sends ∧ ∀ d ∈ sends, d.isSent = true) ∧
        done.result = .ok (answer.mapError fun e =>
          if e.isRetryable = false then e
          else if k = c.retrier.budget c.maxRetryAttempts then
            .exhausted (k + 1) ((env.now (tried k start).state.world).since (env.now s.stage.world)) e
          else .cancelled)) ∧
    (∀ before delay completed after, .slept before delay (.ok completed) after ∈ deeds → raised after →
      done.result = .ok (.error .cancelled) ∧ ∃ k start, .attempt k start ∈ deeds ∧
        done.state.stage = ⟨after, (tried k start).state.breaker⟩) ∧
    (raised s.stage.world → done.state.stage = s.stage ∧ deeds = [.attempt 0 s.stage] ∧
      done.result = .ok (.error .cancelled)) := by
  intro env raised done deeds tried
  have lawful := c.deeds_lawful env transport ctx request timeout s
  refine ⟨c.acts_deeds env transport ctx request timeout s, ?_, ?_,
    c.deeds_cease env transport ctx request timeout s,
    fun k start => c.raised_attempt env transport ctx request timeout s, ?_, ?_,
    c.raised_call env transport ctx request timeout s⟩
  · intro before given answer after hd
    cases lawful _ hd with
    | sent hp => exact ⟨rfl, Bool.eq_false_iff.mp hp.1.1⟩
  · intro before delay answer after hd
    cases lawful _ hd with
    | @slept k _ _ _ hp hs =>
      have hc : before.flags.isCancelled ctx.token = false :=
        Retrier.not_cancelled_of_pause fun h => by cases hp.symm.trans h
      refine ⟨Bool.eq_false_iff.mp hc, fun hb => ?_⟩
      have hr : before.raisedBefore ctx.token = true := by rw [Simulation.raisedBefore, hb, Bool.true_or]
      obtain ⟨ha, hclock, hafter⟩ := Simulation.sleep_raised hs hr
      exact ⟨ha, hafter, hclock⟩
  · intro k start answer hd
    exact c.raised_answer env transport ctx request timeout s hd
  · intro before delay completed after hd
    exact c.raised_wait env transport ctx request timeout s hd

/-- A call under a flag that is raised already does not touch the breaker. -/
theorem cancellation_law_before :
    let env : Surroundings (Simulation TransportError Unit) := Simulation.surroundings
    let transport : Transport (Simulation TransportError Unit) Unit Unit := Simulation.transport (.connection "down")
    let c : Client Unit :=
      { target := "target", retrier := .standard, breaker := {}
        maxRetryAttempts := 5, perCallTimeout := .ofSeconds 1, telemetry := .silent
        callId := toString }
    let s : State (Simulation TransportError Unit) Unit := .start c { flags := ⟨1, [⟨0⟩]⟩ } () .origin
    let done := c.execute env transport ⟨none, ⟨0⟩⟩ () s
    done.state.stage.breaker = s.stage.breaker ∧ done.result = .ok (.error .cancelled) := by
  intro env transport c s done
  obtain ⟨-, -, -, -, -, -, -, hbefore⟩ := cancellation_law c transport ⟨none, ⟨0⟩⟩ () c.perCallTimeout s
  obtain ⟨hstage, -, hresult⟩ := hbefore rfl
  exact ⟨congrArg Stage.breaker hstage, hresult⟩

end Client
end Resilience
