import Resilience.Proofs.Client.Session

/-! Calls do not depend on who is told of them. Two clients that differ in their telemetry, their callback for
    refused requests and their state observer answer alike, leave the same surroundings and breaker, and make
    the same attempts, requests and waits. -/

namespace Resilience

variable {σ τ τ' ρ ε α : Type}

/-- The same outcome with no other entries than acts. -/
def Performed.acted (p : Performed σ ρ α) : Performed σ ρ α := ⟨p.result, p.state, acts p.journal⟩

theorem Performed.acted_inj {p q : Performed σ ρ α} :
    p.acted = q.acted ↔ p.result = q.result ∧ p.state = q.state ∧ acts p.journal = acts q.journal := by
  simp [Performed.acted]

theorem Performed.acted_after {p q : Performed σ ρ α} {before before' : List (Entry ρ)}
    (hb : acts before = acts before') (h : p.acted = q.acted) :
    ({ p with journal := before ++ p.journal } : Performed σ ρ α).acted =
      ({ q with journal := before' ++ q.journal } : Performed σ ρ α).acted := by
  obtain ⟨hresult, hstate, hj⟩ := Performed.acted_inj.mp h
  exact Performed.acted_inj.mpr ⟨hresult, hstate, by rw [acts_append, acts_append, hb, hj]⟩

namespace Retrier

variable {r : Retrier} {env : Surroundings σ} {ctx : CallContext} {kind : ErrorKind ε}
  {work work' : Nat → σ → Performed σ ρ (Except ε α)} {budget : Nat} {started : Instant}

/-- Attempts that act alike make loops that act alike. -/
theorem loop_acted (hw : ∀ attempt s, (work' attempt s).acted = (work attempt s).acted) (left attempt : Nat)
    (s : σ) :
    (r.loop env ctx kind work' budget started left attempt s).acted =
      (r.loop env ctx kind work budget started left attempt s).acted := by
  induction left generalizing attempt s with
  | zero =>
    have h := hw attempt s
    rw [loop, loop]
    generalize work' attempt s = tried', work attempt s = tried at h
    rcases tried', tried with ⟨⟨result, t, seen'⟩, ⟨_, _, seen⟩⟩
    obtain ⟨rfl, rfl, hseen⟩ := Performed.acted_inj.mp h
    rcases result with cause | e | value <;> dsimp only
    · simp only [Performed.acted, acts_append, hseen]
    · split <;> simp only [Performed.acted, acts_append, hseen]
    · simp only [Performed.acted, acts_append, hseen]
  | succ left ih =>
    have h := hw attempt s
    rw [loop, loop]
    generalize work' attempt s = tried', work attempt s = tried at h
    rcases tried', tried with ⟨⟨result, t, seen'⟩, ⟨_, _, seen⟩⟩
    obtain ⟨rfl, rfl, hseen⟩ := Performed.acted_inj.mp h
    rcases result with cause | e | value <;> dsimp only
    · simp only [Performed.acted, acts_append, hseen]
    · split
      · simp only [Performed.acted, acts_append, hseen]
      · rcases (rest env ctx (r.nextInterval attempt) t : Performed σ ρ (Option Interrupt))
          with ⟨cause | _ | cause, u, rested⟩
        · simp only [Performed.acted, acts_append, hseen]
        · exact Performed.acted_after (by simp only [acts_append, hseen]) (ih (attempt + 1) u)
        · simp only [Performed.acted, acts_append, hseen]
    · simp only [Performed.acted, acts_append, hseen]

end Retrier

namespace Client

/-- The same client, but others are told of its calls. -/
def rewired (c : Client τ) (telemetry : Telemetry τ') (hook observed : Bool) : Client τ' :=
  { c with telemetry, hook, observed }

section
variable (c : Client τ) (telemetry : Telemetry τ') (hook observed : Bool) (env : Surroundings σ)
  (transport : Transport σ ρ α) (ctx : CallContext) (request : ρ)

theorem dispatch_rewired (timeout : Duration) (call call' : Call) (k : Nat) (s : Stage σ) :
    ((c.rewired telemetry hook observed).dispatch env transport ctx request timeout call' k s).acted =
      (c.dispatch env transport ctx request timeout call k s).acted := by
  unfold dispatch
  dsimp only
  rcases transport.send s.world request (ctx.shrink (env.now s.world) timeout) with ⟨cause | answer, world⟩
  · rfl
  · dsimp only
    rw [settle_state, settle_state]
    refine Performed.acted_inj.mpr ⟨rfl, rfl, ?_⟩
    rw [acts_append, acts_append, acts_append, acts_append, acts_settle, acts_settle]
    rcases answer with e | value
    · exact congrArg _ ((acts_record ..).trans (acts_record ..).symm)
    · rfl

theorem attempt_rewired (timeout : Duration) (call call' : Call) (k : Nat) (s : Stage σ) :
    ((c.rewired telemetry hook observed).attempt env transport ctx request timeout call' k s).acted =
      (c.attempt env transport ctx request timeout call k s).acted := by
  have hbreaker : (c.rewired telemetry hook observed).breaker = c.breaker := rfl
  unfold attempt
  split
  · rfl
  · split
    · rfl
    · dsimp only
      rw [hbreaker, settle_state, settle_state]
      split
      · exact Performed.acted_after ((acts_settle ..).trans (acts_settle ..).symm) (c.dispatch_rewired ..)
      · refine Performed.acted_inj.mpr ⟨rfl, rfl, ?_⟩
        rw [acts_append, acts_append, acts_append, acts_append, acts_settle, acts_settle, acts_record, acts_record]
        cases hook <;> cases c.hook <;> rfl

theorem executeWithin_rewired (timeout : Duration) (s : State σ τ) (spans : τ') (calls : Nat) :
    let done := c.executeWithin env transport ctx request timeout s
    let done' := (c.rewired telemetry hook observed).executeWithin env transport ctx request timeout
      ⟨s.stage, spans, calls⟩
    done'.result = done.result ∧ done'.state.stage = done.state.stage ∧
      acts done'.journal = acts done.journal := by
  intro done done'
  obtain ⟨hresult, hstage, hj⟩ := c.executeWithin_loop env transport ctx request timeout s
  obtain ⟨hresult', hstage', hj'⟩ := (c.rewired telemetry hook observed).executeWithin_loop env transport ctx
    request timeout ⟨s.stage, spans, calls⟩
  -- Both loops have the same bounds, and their attempts know them under different names.
  have hloop : ((c.rewired telemetry hook observed).looped env transport ctx request timeout
      ⟨s.stage, spans, calls⟩).acted = (c.looped env transport ctx request timeout s).acted :=
    Retrier.loop_acted (fun _ _ => c.attempt_rewired ..) ..
  obtain ⟨hr, ht, hacts⟩ := Performed.acted_inj.mp hloop
  exact ⟨by rw [hresult, hresult', hr], by rw [hstage, hstage', ht], by rw [hj, hj', hacts]⟩

theorem call_rewired (timeout : Option Duration) (s : State σ τ) (spans : τ') (calls : Nat) :
    let done := c.call env transport ctx request timeout s
    let done' := (c.rewired telemetry hook observed).call env transport ctx request timeout
      ⟨s.stage, spans, calls⟩
    done'.result = done.result ∧ done'.state.stage = done.state.stage ∧
      acts done'.journal = acts done.journal := by
  cases timeout with
  | none => exact c.executeWithin_rewired ..
  | some timeout => exact c.executeWithin_rewired ..

/-- What a client does in a sequence of calls does not depend on its telemetry, on its callback for refused
    requests or on its state observer: the calls have the same results, they leave the same surroundings and
    the same breaker, and they make the same attempts, requests and waits. -/
theorem diagnostics_law (actions : List (Action σ ρ)) (s : State σ τ) (spans : τ') (calls : Nat) :
    let run := c.session env transport actions s
    let run' := (c.rewired telemetry hook observed).session env transport actions ⟨s.stage, spans, calls⟩
    run'.results = run.results ∧ run'.state.stage = run.state.stage ∧ acts run'.journal = acts run.journal := by
  induction actions generalizing s spans calls with
  | nil => exact ⟨rfl, rfl, rfl⟩
  | cons action rest ih =>
    cases action with
    | call ctx request timeout =>
      obtain ⟨hresult, hstage, hj⟩ :=
        c.call_rewired telemetry hook observed env transport ctx request timeout s spans calls
      unfold session
      dsimp only
      -- The spans and the count that the other client goes on with are its own.
      generalize (c.rewired telemetry hook observed).call _ _ _ _ _ _ = done' at hresult hstage hj
      obtain ⟨_, ⟨_, spans', calls'⟩, _⟩ := done'
      dsimp only at hresult hstage hj
      obtain ⟨hresults, hstages, hacts⟩ := ih (c.call env transport ctx request timeout s).state spans' calls'
      rw [hresult, hstage, hresults, hstages, acts_append, acts_append, hj, hacts]
      exact ⟨rfl, rfl, rfl⟩
    | pass change => exact ih { s with stage := ⟨change _, _⟩ } spans calls

end

end Client
end Resilience
