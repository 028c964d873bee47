import Resilience.Proofs.Client.Session
import Resilience.Proofs.Retry.Pause

/-! What a call does: its attempts, the requests it gives to the transport and its waits, in order. The
    surroundings write this down; a client cannot tell whether they do (`looped_chronicled`). A turn of the
    loop is a round, and `Round` says everything that one round can do. -/

namespace Resilience
namespace Client

inductive Deed (σ α : Type)
  | attempt (index : Nat) (start : Stage σ)
  /-- The transport is given a request under the context `given`. -/
  | sent (before : σ) (given : CallContext) (answer : Except Overflow (Except TransportError α)) (after : σ)
  /-- The clock is asked to wait. -/
  | slept (before : σ) (delay : Duration) (answer : Except Overflow Bool) (after : σ)

namespace Deed

variable {σ α : Type}

/-- The surroundings once the deed is done. -/
def after : Deed σ α → σ
  | .attempt _ start => start.world
  | .sent _ _ _ after => after
  | .slept _ _ _ after => after

def start? : Deed σ α → Option (Nat × Stage σ)
  | .attempt index start => some (index, start)
  | _ => none

/-- The answer of a transport that came back. -/
def answer? : Deed σ α → Option (Except TransportError α)
  | .sent _ _ (.ok answer) _ => some answer
  | _ => none

def isSent : Deed σ α → Bool
  | .sent .. => true
  | _ => false

/-- The entry that the deed leaves in the journal of a call with this request. -/
def entry {ρ : Type} (env : Surroundings σ) (request : ρ) : Deed σ α → Entry ρ
  | .attempt index _ => .attempt index
  | .sent before given _ _ => .dispatch request given.deadline (env.cancelled before given.token)
  | .slept _ delay _ _ => .sleep delay

/-- Whether time arithmetic failed in the deed. -/
def overflows : Deed σ α → Bool
  | .sent _ _ (.error _) _ => true
  | .slept _ _ (.error _) _ => true
  | _ => false

end Deed

/-- Surroundings together with the deeds done in them so far. -/
structure Chronicled (σ α : Type) where
  world : σ
  deeds : List (Deed σ α) := []

/-- Writes down that an attempt starts. -/
def Stage.begin {σ α : Type} (k : Nat) (s : Stage (Chronicled σ α)) : Stage (Chronicled σ α) :=
  ⟨{ s.world with deeds := s.world.deeds ++ [.attempt k (s.map Chronicled.world)] }, s.breaker⟩

end Client

def Surroundings.chronicled {σ : Type} (α : Type) (env : Surroundings σ) :
    Surroundings (Client.Chronicled σ α) where
  now s := env.now s.world
  cancelled s token := env.cancelled s.world token
  sleep s d token :=
    let slept := env.sleep s.world d token
    (slept.1, ⟨slept.2, s.deeds ++ [.slept s.world d slept.1 slept.2]⟩)

def Transport.chronicled {σ ρ α : Type} (transport : Transport σ ρ α) :
    Transport (Client.Chronicled σ α) ρ α where
  send s request ctx :=
    let sent := transport.send s.world request ctx
    (sent.1, ⟨sent.2, s.deeds ++ [.sent s.world ctx sent.1 sent.2]⟩)

namespace Client

variable {σ τ ρ α : Type}

/-- An attempt whose start and whose request are written down. -/
def chronicledAttempt (c : Client τ) (env : Surroundings σ) (transport : Transport σ ρ α) (ctx : CallContext)
    (request : ρ) (timeout : Duration) (call : Call) (k : Nat) (s : Stage (Chronicled σ α)) :
    Performed (Stage (Chronicled σ α)) ρ (Except CallError α) :=
  c.attempt (env.chronicled α) transport.chronicled ctx request timeout call k (s.begin k)

/-- The retry loop of a call in surroundings that write down what it does. -/
def chronicled (c : Client τ) (env : Surroundings σ) (transport : Transport σ ρ α) (ctx : CallContext)
    (request : ρ) (timeout : Duration) (s : State σ τ) :
    Performed (Stage (Chronicled σ α)) ρ (Except (RetryError CallError) α) :=
  c.retrier.run (surroundings (env.chronicled α)) ctx errors
    (c.chronicledAttempt env transport ctx request timeout (c.nextCall timeout s)) c.maxRetryAttempts
    ⟨⟨s.stage.world, []⟩, s.stage.breaker⟩

/-- What a call does, in order. -/
def deeds (c : Client τ) (env : Surroundings σ) (transport : Transport σ ρ α) (ctx : CallContext)
    (request : ρ) (timeout : Duration) (s : State σ τ) : List (Deed σ α) :=
  (c.chronicled env transport ctx request timeout s).state.world.deeds

theorem surroundings_chronicled (α : Type) (env : Surroundings σ) :
    Surroundings.Mapped Chronicled.world (env.chronicled α) env where
  now _ := rfl
  cancelled _ _ := rfl
  sleep _ _ _ := rfl

theorem transport_chronicled (transport : Transport σ ρ α) :
    transport.chronicled.Mapped Chronicled.world transport := fun _ _ _ => rfl

/-- Writing down what a call does changes neither its result nor its stage nor its entries. -/
theorem looped_chronicled (c : Client τ) (env : Surroundings σ) (transport : Transport σ ρ α)
    (ctx : CallContext) (request : ρ) (timeout : Duration) (s : State σ τ) :
    c.looped env transport ctx request timeout s =
      (c.chronicled env transport ctx request timeout s).mapState (Stage.map Chronicled.world) := by
  have hw (k : Nat) (t : Stage (Chronicled σ α)) :
      c.attempt env transport ctx request timeout (c.nextCall timeout s) k (t.map Chronicled.world) =
        (c.chronicledAttempt env transport ctx request timeout (c.nextCall timeout s) k t).mapState
          (Stage.map Chronicled.world) :=
    attempt_mapState (surroundings_chronicled α env) (transport_chronicled transport) c ctx request timeout
      (c.nextCall timeout s) k (t.begin k)
  exact c.retrier.run_mapState ctx errors (surroundings_mapped (surroundings_chronicled α env)) hw
    c.maxRetryAttempts ⟨⟨s.stage.world, []⟩, s.stage.breaker⟩

/-! ### One round -/

/-- What follows an answered request with `left` retries to spare: how the round ends the call, if it
    does, the surroundings it leaves and what it does on the way. -/
inductive Aftermath (r : Retrier) (env : Surroundings σ) (ctx : CallContext) (started : Instant)
    (left k : Nat) (w : σ) : Except CallError α →
      Except Overflow (Option (Except (RetryError CallError) α)) → σ → List (Deed σ α) → Prop
  | succeeded {value : α} :
    Aftermath r env ctx started left k w (.ok value) (.ok (some (.ok value))) w []
  | aborted {e : CallError} (hr : e.isRetryable = false) :
    Aftermath r env ctx started left k w (.error e) (.ok (some (.error (.aborted (k + 1) e)))) w []
  | exhausted {e : CallError} (hr : e.isRetryable = true) (hl : left = 0) :
    Aftermath r env ctx started left k w (.error e)
      (.ok (some (.error (.exhausted (k + 1) ((env.now w).since started) e)))) w []
  | interrupted {e : CallError} {cause : Interrupt} (hr : e.isRetryable = true) (hl : left ≠ 0)
    (hp : Retrier.pause env ctx (r.nextInterval k) w = .refused cause) :
    Aftermath r env ctx started left k w (.error e) (.ok (some (.error (.interrupted (k + 1) cause e)))) w []
  | again {e : CallError} (hr : e.isRetryable = true) (hl : left ≠ 0)
    (hp : Retrier.pause env ctx (r.nextInterval k) w = .none) :
    Aftermath r env ctx started left k w (.error e) (.ok none) w []
  | waited {e : CallError} {u : σ} (hr : e.isRetryable = true) (hl : left ≠ 0)
    (hp : Retrier.pause env ctx (r.nextInterval k) w = .wait)
    (hs : env.sleep w (r.nextInterval k) ctx.token = (.ok true, u)) :
    Aftermath r env ctx started left k w (.error e) (.ok none) u [.slept w (r.nextInterval k) (.ok true) u]
  | cut {e : CallError} {u : σ} (hr : e.isRetryable = true) (hl : left ≠ 0)
    (hp : Retrier.pause env ctx (r.nextInterval k) w = .wait)
    (hs : env.sleep w (r.nextInterval k) ctx.token = (.ok false, u)) :
    Aftermath r env ctx started left k w (.error e)
      (.ok (some (.error (.interrupted (k + 1) .cancelled e)))) u [.slept w (r.nextInterval k) (.ok false) u]
  | stuck {e : CallError} {cause : Overflow} {u : σ} (hr : e.isRetryable = true) (hl : left ≠ 0)
    (hp : Retrier.pause env ctx (r.nextInterval k) w = .wait)
    (hs : env.sleep w (r.nextInterval k) ctx.token = (.error cause, u)) :
    Aftermath r env ctx started left k w (.error e) (.error cause) u
      [.slept w (r.nextInterval k) (.error cause) u]

/-- An attempt from this stage gets as far as asking the breaker. -/
def Asks (env : Surroundings σ) (ctx : CallContext) (s : Stage σ) : Prop :=
  env.cancelled s.world ctx.token = false ∧ ctx.isExpired (env.now s.world) = false

/-- The breaker refuses an attempt from this stage. -/
def Refuses (c : Client τ) (env : Surroundings σ) (ctx : CallContext) (s : Stage σ) : Prop :=
  Asks env ctx s ∧ (c.asked env s).result = false

def Permits (c : Client τ) (env : Surroundings σ) (ctx : CallContext) (s : Stage σ) : Prop :=
  Asks env ctx s ∧ (c.asked env s).result = true

/-- One round from stage `s`: attempt `k`, and what follows it with `left` retries to spare. -/
inductive Round (c : Client τ) (env : Surroundings σ) (transport : Transport σ ρ α) (ctx : CallContext)
    (request : ρ) (timeout : Duration) (started : Instant) (left k : Nat) (s : Stage σ) :
    Except Overflow (Option (Except (RetryError CallError) α)) → Stage σ → List (Deed σ α) → Prop
  | cancelled (hc : env.cancelled s.world ctx.token = true) :
    Round c env transport ctx request timeout started left k s
      (.ok (some (.error (.aborted (k + 1) .cancelled)))) s [.attempt k s]
  /-- The deadline has passed with retries to spare; no wait ends before it. -/
  | expired (hc : env.cancelled s.world ctx.token = false) (he : ctx.isExpired (env.now s.world) = true)
    (hl : left ≠ 0) :
    Round c env transport ctx request timeout started left k s
      (.ok (some (.error (.interrupted (k + 1) .deadlineExceeded .timeout)))) s [.attempt k s]
  | expiredLast (hc : env.cancelled s.world ctx.token = false) (he : ctx.isExpired (env.now s.world) = true)
    (hl : left = 0) :
    Round c env transport ctx request timeout started left k s
      (.ok (some (.error (.exhausted (k + 1) ((env.now s.world).since started) .timeout)))) s [.attempt k s]
  | refused (hp : c.Refuses env ctx s) :
    Round c env transport ctx request timeout started left k s
      (.ok (some (.error (.aborted (k + 1) .breakerOpen)))) ⟨s.world, (c.asked env s).state⟩ [.attempt k s]
  /-- The transport never came back. -/
  | lost (hp : c.Permits env ctx s) {cause : Overflow} {w : σ}
    (hs : transport.send s.world request (bounded env ctx timeout s) = (.error cause, w)) :
    Round c env transport ctx request timeout started left k s (.error cause) ⟨w, (c.asked env s).state⟩
      [.attempt k s, .sent s.world (bounded env ctx timeout s) (.error cause) w]
  | answered (hp : c.Permits env ctx s) {answer : Except TransportError α} {w u : σ}
    {ended : Except Overflow (Option (Except (RetryError CallError) α))} {more : List (Deed σ α)}
    (hs : transport.send s.world request (bounded env ctx timeout s) = (.ok answer, w))
    (next : Aftermath c.retrier env ctx started left k w (answer.mapError CallError.ofTransport) ended u more) :
    Round c env transport ctx request timeout started left k s ended ⟨u, (c.reported env s answer w).state⟩
      (.attempt k s :: .sent s.world (bounded env ctx timeout s) (.ok answer) w :: more)

/-! ### The rounds of a call -/

section
variable {c : Client τ} {env : Surroundings σ} {transport : Transport σ ρ α} {ctx : CallContext} {request : ρ}
  {timeout : Duration} {call : Call} {started : Instant} {budget left k : Nat}
  {ended : Except Overflow (Option (Except (RetryError CallError) α))}

/-- A passed deadline leaves no room for any wait. -/
theorem pause_of_expired {w : σ} (delay : Duration) (hc : env.cancelled w ctx.token = false)
    (he : ctx.isExpired (env.now w) = true) : Retrier.pause env ctx delay w = .refused .deadlineExceeded := by
  unfold CallContext.isExpired at he
  split at he
  · rename_i deadline hd
    have hle : deadline.nanos ≤ (env.now w).nanos := of_decide_eq_true he
    exact Retrier.pause_of_late hc hd (by omega)
  · cases he

/-- What a turn does once its attempt has an answer. -/
theorem turn_aftermath {r : Retrier} (request : ρ)
    {work : Nat → Stage (Chronicled σ α) → Performed (Stage (Chronicled σ α)) ρ (Except CallError α)}
    {answer : Except CallError α} {s t u : Stage (Chronicled σ α)} {seen journal : List (Entry ρ)}
    (hw : work k s = ⟨.ok answer, t, seen⟩)
    (h : Retrier.Turn r (surroundings (env.chronicled α)) ctx errors work budget started left k s ended u journal) :
    ∃ w more, Aftermath r env ctx started left k t.world.world answer ended w more ∧
      u.map Chronicled.world = ⟨w, t.breaker⟩ ∧ u.world.deeds = t.world.deeds ++ more ∧
      acts journal = .attempt k :: (acts seen ++ more.map (Deed.entry env request)) := by
  rcases answer with e | value
  · cases hr : e.isRetryable with
    | false =>
      obtain ⟨rfl, rfl, hj⟩ := h.of_final hw hr
      exact ⟨_, [], .aborted hr, rfl, (List.append_nil _).symm, by simpa using hj⟩
    | true =>
      rcases h.of_retryable hw hr with ⟨hl, rfl, rfl, hj⟩ | ⟨hl, result, rested, hrest, hj, rfl⟩
      · exact ⟨_, [], .exhausted hr hl, rfl, (List.append_nil _).symm, by simpa using hj⟩
      · rcases Retrier.rest_cases hrest with
          ⟨cause, hp, rfl, rfl, rfl⟩ | ⟨hp, rfl, rfl, rfl⟩ | ⟨hp, rfl, slept, hs, rfl⟩
        · exact ⟨_, [], .interrupted hr hl hp, rfl, (List.append_nil _).symm, hj⟩
        · exact ⟨_, [], .again hr hl hp, rfl, (List.append_nil _).symm, hj⟩
        · -- The wait is the one of the surroundings below, and it is written down.
          rcases hv : env.sleep t.world.world (r.nextInterval k) ctx.token with ⟨cause | _ | _, v⟩ <;>
            simp only [surroundings, Surroundings.chronicled, hv] at hs <;> cases hs
          · exact ⟨_, _, .stuck hr hl hp hv, rfl, rfl, hj⟩
          · exact ⟨_, _, .cut hr hl hp hv, rfl, rfl, hj⟩
          · exact ⟨_, _, .waited hr hl hp hv, rfl, rfl, hj⟩
  · obtain ⟨rfl, rfl, hj⟩ := h.of_value hw
    exact ⟨_, [], .succeeded, rfl, (List.append_nil _).symm, by simpa using hj⟩

theorem chronicled_send {s t : Chronicled σ α} {given : CallContext}
    {answer : Except Overflow (Except TransportError α)}
    (h : transport.chronicled.send s request given = (answer, t)) :
    transport.send s.world request given = (answer, t.world) ∧
      t.deeds = s.deeds ++ [.sent s.world given answer t.world] := by
  cases h
  exact ⟨rfl, rfl⟩

/-- A turn of the chronicled loop is a round. The round's deeds are what the turn writes down, and what
    its journal shows. -/
theorem turn_round {s t : Stage (Chronicled σ α)} {journal : List (Entry ρ)}
    (h : Retrier.Turn c.retrier (surroundings (env.chronicled α)) ctx errors
      (c.chronicledAttempt env transport ctx request timeout call) budget started left k s ended t journal) :
    ∃ more, Round c env transport ctx request timeout started left k (s.map Chronicled.world) ended
        (t.map Chronicled.world) more ∧
      t.world.deeds = s.world.deeds ++ more ∧ acts journal = more.map (Deed.entry env request) := by
  have ha : Attempted c (env.chronicled α) transport.chronicled ctx request timeout call k (s.begin k)
      (c.chronicledAttempt env transport ctx request timeout call k s) := attempted ..
  have hseen := ha.acts
  generalize hw : c.chronicledAttempt env transport ctx request timeout call k s = p at ha hseen
  cases ha with
  | cancelled hc =>
    obtain ⟨w, more, hm, ht, hd, hj⟩ := turn_aftermath request hw h
    cases hm with
    | aborted => exact ⟨_, ht ▸ .cancelled hc, hd.trans (List.append_nil _), hj⟩
    | exhausted hr | interrupted hr | again hr | waited hr | cut hr | stuck hr => cases hr
  | expired hc he =>
    obtain ⟨w, more, hm, ht, hd, hj⟩ := turn_aftermath request hw h
    have hlate : Retrier.pause env ctx (c.retrier.nextInterval k) (s.begin k).world.world =
        .refused .deadlineExceeded :=
      pause_of_expired _ hc he
    cases hm with
    | aborted hr => cases hr
    | exhausted _ hl => exact ⟨_, ht ▸ .expiredLast hc he hl, hd.trans (List.append_nil _), hj⟩
    | interrupted _ hl hp =>
      rw [hlate] at hp
      cases hp
      exact ⟨_, ht ▸ .expired hc he hl, hd.trans (List.append_nil _), hj⟩
    | again _ _ hp | waited _ _ hp | cut _ _ hp | stuck _ _ hp =>
      rw [hlate] at hp
      cases hp
  | refused hc he ha =>
    obtain ⟨w, more, hm, ht, hd, hj⟩ := turn_aftermath request hw h
    rw [hc, he, ha] at hseen
    cases hm with
    | aborted =>
      refine ⟨_, ht ▸ .refused ⟨⟨hc, he⟩, ha⟩, hd.trans (List.append_nil _), hj.trans ?_⟩
      exact congrArg (.attempt k :: · ++ []) hseen
    | exhausted hr | interrupted hr | again hr | waited hr | cut hr | stuck hr => cases hr
  | @lost hc he ha cause world hs =>
    obtain ⟨rfl, rfl, hj⟩ := h.of_overflow hw
    obtain ⟨hs, hdeeds⟩ := chronicled_send hs
    have hp : c.Permits env ctx (s.map Chronicled.world) := ⟨⟨hc, he⟩, ha⟩
    have hs : transport.send (s.map Chronicled.world).world request
        (bounded env ctx timeout (s.map Chronicled.world)) = (.error cause, world.world) := hs
    rw [hc, he, ha] at hseen
    exact ⟨_, .lost hp hs, hdeeds.trans (List.append_assoc ..), hj.trans (congrArg (.attempt k :: ·) hseen)⟩
  | @sent hc he ha answer world hs =>
    obtain ⟨w, more, hm, ht, hd, hj⟩ := turn_aftermath request hw h
    obtain ⟨hs, hdeeds⟩ := chronicled_send hs
    have hp : c.Permits env ctx (s.map Chronicled.world) := ⟨⟨hc, he⟩, ha⟩
    have hs : transport.send (s.map Chronicled.world).world request
        (bounded env ctx timeout (s.map Chronicled.world)) = (.ok answer, world.world) := hs
    rw [hc, he, ha] at hseen
    refine ⟨_, ht ▸ Round.answered hp hs hm, ?_, hj.trans ?_⟩
    · calc t.world.deeds = world.deeds ++ more := hd
        _ = s.world.deeds ++ [.attempt k (s.map Chronicled.world)] ++
              [.sent s.world.world (bounded env ctx timeout (s.map Chronicled.world)) (.ok answer) world.world] ++
              more := by rw [hdeeds]; rfl
        _ = _ := by simp only [List.append_assoc]; rfl
    · exact congrArg (fun sent => .attempt k :: (sent ++ more.map (Deed.entry env request))) hseen

end

end Client
end Resilience
