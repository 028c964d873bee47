import Resilience.Client.Build
import Resilience.Proofs.Client.Attempt
import Resilience.Proofs.Retry.Loop

/-! Sequences of calls by one caller, with a record of what the transport answered. The record is kept
    in the surroundings of the transport; a client cannot tell whether it is kept (`session_recorded`). -/

namespace Resilience

/-- Surroundings together with the answers of the transport so far. -/
structure Recorded (σ α : Type) where
  world : σ
  answers : List (Except TransportError α) := []

def Surroundings.recorded {σ : Type} (α : Type) (env : Surroundings σ) : Surroundings (Recorded σ α) where
  now s := env.now s.world
  cancelled s token := env.cancelled s.world token
  sleep s d token :=
    let slept := env.sleep s.world d token
    (slept.1, { s with world := slept.2 })

def Transport.recorded {σ ρ α : Type} (transport : Transport σ ρ α) : Transport (Recorded σ α) ρ α where
  send s request ctx :=
    match transport.send s.world request ctx with
    | (.error overflow, world) => (.error overflow, { s with world })
    | (.ok answer, world) => (.ok answer, ⟨world, s.answers ++ [answer]⟩)

def Transport.Mapped {σ σ' ρ α : Type} (f : σ → σ') (transport : Transport σ ρ α)
    (transport' : Transport σ' ρ α) : Prop :=
  ∀ s request ctx, transport'.send (f s) request ctx =
    ((transport.send s request ctx).1, f (transport.send s request ctx).2)

namespace Client

variable {σ σ' τ ρ α : Type}

def Stage.map (f : σ → σ') (s : Stage σ) : Stage σ' := ⟨f s.world, s.breaker⟩

def State.map (f : σ → σ') (s : State σ τ) : State σ' τ := ⟨s.stage.map f, s.spans, s.calls⟩

inductive Action (σ ρ : Type)
  /-- A call, with a time for each attempt if it is not to be the client's own. -/
  | call (ctx : CallContext) (request : ρ) (timeout : Option Duration)
  /-- Between calls time passes and contexts are cancelled. -/
  | pass (change : σ → σ)

def Action.recorded (α : Type) : Action σ ρ → Action (Recorded σ α) ρ
  | .call ctx request timeout => .call ctx request timeout
  | .pass change => .pass fun s => { s with world := change s.world }

structure Session (σ τ ρ α : Type) where
  results : List (Except Overflow (Except CallError α)) := []
  state : State σ τ
  journal : List (Entry ρ) := []

def Session.mapState (f : σ → σ') (run : Session σ τ ρ α) : Session σ' τ ρ α :=
  ⟨run.results, run.state.map f, run.journal⟩

def call (c : Client τ) (env : Surroundings σ) (transport : Transport σ ρ α) (ctx : CallContext)
    (request : ρ) (timeout : Option Duration) (s : State σ τ) : Performed (State σ τ) ρ (Except CallError α) :=
  match timeout with
  | none => c.execute env transport ctx request s
  | some timeout => c.executeWithin env transport ctx request timeout s

def session (c : Client τ) (env : Surroundings σ) (transport : Transport σ ρ α) :
    List (Action σ ρ) → State σ τ → Session σ τ ρ α
  | [], s => { state := s }
  | .call ctx request timeout :: rest, s =>
    let done := c.call env transport ctx request timeout s
    let more := session c env transport rest done.state
    ⟨done.result :: more.results, more.state, done.journal ++ more.journal⟩
  | .pass change :: rest, s =>
    session c env transport rest { s with stage := ⟨change s.stage.world, s.stage.breaker⟩ }

variable {env : Surroundings σ} {env' : Surroundings σ'} {transport : Transport σ ρ α}
  {transport' : Transport σ' ρ α} {f : σ → σ'}

/-! ### Seeing less of the surroundings -/

theorem surroundings_mapped (hm : Surroundings.Mapped f env env') :
    Surroundings.Mapped (Stage.map f) (surroundings env) (surroundings env') where
  now s := hm.now s.world
  cancelled s token := hm.cancelled s.world token
  sleep s d token := by simp [surroundings, Stage.map, hm.sleep]

theorem dispatch_mapState (hm : Surroundings.Mapped f env env') (ht : transport.Mapped f transport')
    (c : Client τ) (ctx : CallContext) (request : ρ) (timeout : Duration) (call : Call) (index : Nat)
    (s : Stage σ) :
    c.dispatch env' transport' ctx request timeout call index (s.map f) =
      (c.dispatch env transport ctx request timeout call index s).mapState (Stage.map f) := by
  simp only [dispatch, Stage.map, hm.now, hm.cancelled, ht _ request]
  rcases transport.send s.world request (ctx.shrink (env.now s.world) timeout) with ⟨cause | answer, world⟩
  · rfl
  · simp only [hm.now]
    rfl

theorem attempt_mapState (hm : Surroundings.Mapped f env env') (ht : transport.Mapped f transport')
    (c : Client τ) (ctx : CallContext) (request : ρ) (timeout : Duration) (call : Call) (index : Nat)
    (s : Stage σ) :
    c.attempt env' transport' ctx request timeout call index (s.map f) =
      (c.attempt env transport ctx request timeout call index s).mapState (Stage.map f) := by
  have hw : (s.map f).world = f s.world := rfl
  have hb : (s.map f).breaker = s.breaker := rfl
  unfold attempt
  rw [hw, hb, hm.now, hm.cancelled]
  split
  · rfl
  · split
    · rfl
    · dsimp only
      split
      · have hd := dispatch_mapState hm ht c ctx request timeout call index
          ⟨s.world, (c.settle (s.breaker.allow c.breaker (env.now s.world)) : _ × List (Entry ρ)).1⟩
        dsimp only [Stage.map] at hd
        rw [hd]
        rfl
      · rfl

theorem executeWithin_mapState (hm : Surroundings.Mapped f env env') (ht : transport.Mapped f transport')
    (c : Client τ) (ctx : CallContext) (request : ρ) (timeout : Duration) (s : State σ τ) :
    c.executeWithin env' transport' ctx request timeout (s.map f) =
      (c.executeWithin env transport ctx request timeout s).mapState (State.map f) := by
  have hr (call : Call) := c.retrier.run_mapState ctx errors (surroundings_mapped hm)
    (attempt_mapState hm ht c ctx request timeout call) c.maxRetryAttempts s.stage
  unfold executeWithin
  dsimp only [State.map]
  rw [hr]
  generalize Retrier.run _ (surroundings env) _ _ _ _ s.stage = done
  rcases done with ⟨cause | answer, t, journal⟩ <;> rfl

theorem call_mapState (hm : Surroundings.Mapped f env env') (ht : transport.Mapped f transport')
    (c : Client τ) (ctx : CallContext) (request : ρ) (timeout : Option Duration) (s : State σ τ) :
    c.call env' transport' ctx request timeout (s.map f) =
      (c.call env transport ctx request timeout s).mapState (State.map f) := by
  cases timeout with
  | none => exact executeWithin_mapState hm ht c ctx request c.perCallTimeout s
  | some timeout => exact executeWithin_mapState hm ht c ctx request timeout s

/-! ### Recording -/

theorem surroundings_recorded (α : Type) (env : Surroundings σ) :
    Surroundings.Mapped Recorded.world (env.recorded α) env where
  now _ := rfl
  cancelled _ _ := rfl
  sleep _ _ _ := rfl

theorem transport_recorded (transport : Transport σ ρ α) :
    transport.recorded.Mapped Recorded.world transport := by
  intro s request ctx
  simp only [Transport.recorded]
  split <;> simp_all

/-- Keeping a record changes neither results nor states nor entries. -/
theorem session_recorded (c : Client τ) (env : Surroundings σ) (transport : Transport σ ρ α)
    (actions : List (Action σ ρ)) (s : State (Recorded σ α) τ) :
    c.session env transport actions (s.map Recorded.world) =
      (c.session (env.recorded α) transport.recorded (actions.map (Action.recorded α)) s).mapState
        Recorded.world := by
  induction actions generalizing s with
  | nil => rfl
  | cons action rest ih =>
    cases action with
    | call ctx request timeout =>
      have hd := call_mapState (surroundings_recorded α env) (transport_recorded transport) c ctx request
        timeout s
      simp only [List.map_cons, Action.recorded, session, hd, Performed.mapState, ih]
      rfl
    | pass change => exact ih { s with stage := ⟨{ s.stage.world with world := change _ }, _⟩ }

end Client
end Resilience
