import Resilience.Proofs.Client.Chronicle

/-! The course of a call. A call is a row of rounds that each lead to another one (`Underway`) and a
    round that ends it (`course`). A round that leads to another one was permitted, sent, and answered
    by a failure that may be repeated, under a flag that is not raised and before the deadline; so
    whatever else a deed shows, it shows of the last round. -/

namespace Resilience
namespace Client

variable {σ τ ρ α : Type}

/-- The rounds of a call so far, each of which led to another one: `k` rounds from stage `first` to this
    stage, and their deeds. -/
inductive Underway (c : Client τ) (env : Surroundings σ) (transport : Transport σ ρ α) (ctx : CallContext)
    (request : ρ) (timeout : Duration) (started : Instant) (budget : Nat) (first : Stage σ) :
    Nat → Stage σ → List (Deed σ α) → Prop
  | start : Underway c env transport ctx request timeout started budget first 0 first []
  | next {k : Nat} {s t : Stage σ} {earlier more : List (Deed σ α)}
    (h : Underway c env transport ctx request timeout started budget first k s earlier)
    (round : Round c env transport ctx request timeout started (budget - k) k s (.ok none) t more) :
    Underway c env transport ctx request timeout started budget first (k + 1) t (earlier ++ more)

section
variable {c : Client τ} {env : Surroundings σ} {transport : Transport σ ρ α} {ctx : CallContext} {request : ρ}
  {timeout : Duration} {started : Instant} {budget left k : Nat} {first s t : Stage σ}
  {earlier more : List (Deed σ α)}

/-- A round that leads to another one has given the transport a request and got a failure that may be
    repeated; then it has waited, unless there was nothing to wait for. -/
theorem Round.goesOn (h : Round c env transport ctx request timeout started left k s (.ok none) t more) :
    left ≠ 0 ∧ c.Permits env ctx s ∧ ∃ failure w,
      transport.send s.world request (bounded env ctx timeout s) = (.ok (.error failure), w) ∧
      (CallError.ofTransport failure).isRetryable = true ∧
      ((Retrier.pause env ctx (c.retrier.nextInterval k) w = .none ∧ t.world = w ∧
          more = [.attempt k s, .sent s.world (bounded env ctx timeout s) (.ok (.error failure)) w]) ∨
        (Retrier.pause env ctx (c.retrier.nextInterval k) w = .wait ∧
          env.sleep w (c.retrier.nextInterval k) ctx.token = (.ok true, t.world) ∧
          more = [.attempt k s, .sent s.world (bounded env ctx timeout s) (.ok (.error failure)) w,
            .slept w (c.retrier.nextInterval k) (.ok true) t.world])) := by
  cases h with
  | @answered hp answer w u ended more hs next =>
    rcases answer with failure | value
    · cases next with
      | again hr hl hpause => exact ⟨hl, hp, _, _, hs, hr, .inl ⟨hpause, rfl, rfl⟩⟩
      | waited hr hl hpause hsleep => exact ⟨hl, hp, _, _, hs, hr, .inr ⟨hpause, hsleep, rfl⟩⟩
    · cases next

theorem Underway.le (h : Underway c env transport ctx request timeout started budget first k s earlier) :
    k ≤ budget := by
  cases h with
  | start => exact Nat.zero_le _
  | next _ round => exact Nat.succ_le_of_lt (Nat.lt_of_sub_ne_zero round.goesOn.1)

/-- A call is a row of rounds that each lead to another one, and a round that ends it. What they do is what
    the journal of the call shows. -/
theorem course (c : Client τ) (env : Surroundings σ) (transport : Transport σ ρ α) (ctx : CallContext)
    (request : ρ) (timeout : Duration) (s : State σ τ) :
    let done := c.executeWithin env transport ctx request timeout s
    let started := env.now s.stage.world
    let budget := c.retrier.budget c.maxRetryAttempts
    ∃ k t earlier last, ∃ result : Except Overflow (Except (RetryError CallError) α),
      Underway c env transport ctx request timeout started budget s.stage k t earlier ∧
      Round c env transport ctx request timeout started (budget - k) k t (result.map some) done.state.stage last ∧
      done.result = result.map (Except.mapError callError) ∧
      c.deeds env transport ctx request timeout s = earlier ++ last ∧
      acts done.journal = (earlier ++ last).map (Deed.entry env request) := by
  intro done started budget
  let Keeps (left k : Nat) (u : Stage (Chronicled σ α)) (seen : List (Entry ρ)) : Prop :=
    Underway c env transport ctx request timeout started budget s.stage k (u.map Chronicled.world)
        u.world.deeds ∧
      left = budget - k ∧ acts seen = u.world.deeds.map (Deed.entry env request)
  let Ends (result : Except Overflow (Except (RetryError CallError) α)) (u : Stage (Chronicled σ α))
      (seen : List (Entry ρ)) : Prop :=
    ∃ k t earlier last, Underway c env transport ctx request timeout started budget s.stage k t earlier ∧
      Round c env transport ctx request timeout started (budget - k) k t (result.map some)
        (u.map Chronicled.world) last ∧
      u.world.deeds = earlier ++ last ∧ acts seen = (earlier ++ last).map (Deed.entry env request)
  have extend {left k : Nat} {t u : Stage (Chronicled σ α)} {seen more : List (Entry ρ)}
      {ended : Except Overflow (Option (Except (RetryError CallError) α))} (h : Keeps left k t seen)
      (hturn : Retrier.Turn c.retrier (surroundings (env.chronicled α)) ctx errors
        (c.chronicledAttempt env transport ctx request timeout (c.nextCall timeout s)) budget started left k t
        ended u more) :
      ∃ last, Round c env transport ctx request timeout started (budget - k) k (t.map Chronicled.world) ended
          (u.map Chronicled.world) last ∧
        u.world.deeds = t.world.deeds ++ last ∧
        acts (seen ++ more) = (t.world.deeds ++ last).map (Deed.entry env request) := by
    obtain ⟨-, hl, hj⟩ := h
    obtain ⟨last, hround, hdeeds, hmore⟩ := turn_round hturn
    exact ⟨last, hl ▸ hround, hdeeds, by rw [acts_append, List.map_append, hj, hmore]⟩
  have hloop : Ends (c.chronicled env transport ctx request timeout s).result
      (c.chronicled env transport ctx request timeout s).state
      (c.chronicled env transport ctx request timeout s).journal := by
    have start : Keeps budget 0 ⟨⟨s.stage.world, []⟩, s.stage.breaker⟩ [] := ⟨.start, rfl, rfl⟩
    refine Retrier.loop_rule Keeps Ends (fun h hturn => ?_) (fun h hturn => ?_) (fun h hturn => ?_) start
    · obtain ⟨last, hround, hdeeds, hj⟩ := extend h hturn
      exact ⟨hdeeds ▸ h.1.next hround, by have := h.2.1; omega, by rw [hdeeds]; exact hj⟩
    · obtain ⟨last, hround, hdeeds, hj⟩ := extend h hturn
      exact ⟨_, _, _, last, h.1, hround, hdeeds, hj⟩
    · obtain ⟨last, hround, hdeeds, hj⟩ := extend h hturn
      exact ⟨_, _, _, last, h.1, hround, hdeeds, hj⟩
  obtain ⟨k, t, earlier, last, hrow, hround, hdeeds, hj⟩ := hloop
  obtain ⟨hresult, hstage, hacts⟩ := c.executeWithin_loop env transport ctx request timeout s
  rw [looped_chronicled] at hresult hstage hacts
  exact ⟨k, t, earlier, last, _, hrow, hstage ▸ hround, hresult, hdeeds, hacts.trans hj⟩

/-- The deeds of a call are what its journal shows. -/
theorem acts_deeds (c : Client τ) (env : Surroundings σ) (transport : Transport σ ρ α) (ctx : CallContext)
    (request : ρ) (timeout : Duration) (s : State σ τ) :
    acts (c.executeWithin env transport ctx request timeout s).journal =
      (c.deeds env transport ctx request timeout s).map (Deed.entry env request) := by
  obtain ⟨_, _, _, _, _, -, -, -, hdeeds, hj⟩ := c.course env transport ctx request timeout s
  rw [hdeeds]
  exact hj

theorem dispatches_deeds (c : Client τ) (env : Surroundings σ) (transport : Transport σ ρ α) (ctx : CallContext)
    (request : ρ) (timeout : Duration) (s : State σ τ) :
    dispatches (c.executeWithin env transport ctx request timeout s).journal =
      (c.deeds env transport ctx request timeout s).countP Deed.isSent := by
  rw [dispatches_acts, acts_deeds, dispatches, List.countP_map]
  refine List.countP_congr fun d _ => ?_
  cases d <;> exact Iff.rfl

/-! ### What a deed shows by itself -/

/-- Requests are given to the transport under the bounded context, once the breaker permits them, and
    waits are those of the backoff for which the context leaves room. -/
inductive Lawful (c : Client τ) (env : Surroundings σ) (transport : Transport σ ρ α) (ctx : CallContext)
    (request : ρ) (timeout : Duration) : Deed σ α → Prop
  | attempt (k : Nat) (s : Stage σ) : Lawful c env transport ctx request timeout (.attempt k s)
  | sent {s : Stage σ} {answer : Except Overflow (Except TransportError α)} {w : σ} (hp : c.Permits env ctx s)
    (hs : transport.send s.world request (bounded env ctx timeout s) = (answer, w)) :
    Lawful c env transport ctx request timeout (.sent s.world (bounded env ctx timeout s) answer w)
  | slept {k : Nat} {w u : σ} {answer : Except Overflow Bool}
    (hp : Retrier.pause env ctx (c.retrier.nextInterval k) w = .wait)
    (hs : env.sleep w (c.retrier.nextInterval k) ctx.token = (answer, u)) :
    Lawful c env transport ctx request timeout (.slept w (c.retrier.nextInterval k) answer u)

theorem Aftermath.lawful {w u : σ} {answer : Except CallError α}
    {ended : Except Overflow (Option (Except (RetryError CallError) α))}
    (h : Aftermath c.retrier env ctx started left k w answer ended u more) :
    ∀ d ∈ more, Lawful c env transport ctx request timeout d := by
  intro d hd
  cases h with
  | succeeded | aborted | exhausted | interrupted | again => cases hd
  | waited _ _ hp hs | cut _ _ hp hs | stuck _ _ hp hs =>
    cases List.mem_singleton.mp hd
    exact .slept hp hs

theorem Round.lawful {ended : Except Overflow (Option (Except (RetryError CallError) α))}
    (h : Round c env transport ctx request timeout started left k s ended t more) :
    ∀ d ∈ more, Lawful c env transport ctx request timeout d := by
  intro d hd
  cases h with
  | cancelled | expired | expiredLast | refused =>
    cases List.mem_singleton.mp hd
    exact .attempt k s
  | lost hp hs =>
    rcases List.mem_cons.mp hd with rfl | hd
    · exact .attempt k s
    · cases List.mem_singleton.mp hd
      exact .sent hp hs
  | answered hp hs next =>
    rcases List.mem_cons.mp hd with rfl | hd
    · exact .attempt k s
    rcases List.mem_cons.mp hd with rfl | hd
    · exact .sent hp hs
    · exact next.lawful d hd

theorem Underway.round_of_mem (h : Underway c env transport ctx request timeout started budget first k s earlier)
    {d : Deed σ α} (hd : d ∈ earlier) :
    ∃ j u v more, Round c env transport ctx request timeout started (budget - j) j u (.ok none) v more ∧
      d ∈ more ∧ more ⊆ earlier := by
  induction h with
  | start => cases hd
  | next _ round ih =>
    rcases List.mem_append.mp hd with hd | hd
    · obtain ⟨j, u, v, more, round, hd, hsub⟩ := ih hd
      exact ⟨j, u, v, more, round, hd, fun _ h => List.mem_append_left _ (hsub h)⟩
    · exact ⟨_, _, _, _, round, hd, List.subset_append_right ..⟩

theorem deeds_lawful (c : Client τ) (env : Surroundings σ) (transport : Transport σ ρ α) (ctx : CallContext)
    (request : ρ) (timeout : Duration) (s : State σ τ) :
    ∀ d ∈ c.deeds env transport ctx request timeout s, Lawful c env transport ctx request timeout d := by
  obtain ⟨k, t, earlier, last, result, hrow, hround, -, hdeeds, -⟩ :=
    c.course env transport ctx request timeout s
  intro d hd
  rw [hdeeds] at hd
  rcases List.mem_append.mp hd with hd | hd
  · obtain ⟨j, u, v, more, hround, hd, -⟩ := hrow.round_of_mem hd
    exact hround.lawful d hd
  · exact hround.lawful d hd

/-! ### The attempts of a call -/

theorem Aftermath.starts {r : Retrier} {w u : σ} {answer : Except CallError α}
    {ended : Except Overflow (Option (Except (RetryError CallError) α))}
    (h : Aftermath r env ctx started left k w answer ended u more) : more.filterMap Deed.start? = [] := by
  cases h <;> rfl

theorem Round.starts {ended : Except Overflow (Option (Except (RetryError CallError) α))}
    (h : Round c env transport ctx request timeout started left k s ended t more) :
    more.filterMap Deed.start? = [(k, s)] := by
  cases h with
  | cancelled | expired | expiredLast | refused | lost => rfl
  | answered _ _ next => exact congrArg ((k, s) :: ·) next.starts

theorem mem_starts {deeds : List (Deed σ α)} :
    .attempt k s ∈ deeds ↔ (k, s) ∈ deeds.filterMap Deed.start? := by
  rw [List.mem_filterMap]
  constructor
  · intro h
    exact ⟨_, h, rfl⟩
  · rintro ⟨d, hd, hstart⟩
    cases d with
    | attempt => cases hstart; exact hd
    | sent | slept => cases hstart

theorem Round.attempt_mem {ended : Except Overflow (Option (Except (RetryError CallError) α))} {j : Nat}
    {u : Stage σ} (h : Round c env transport ctx request timeout started left k s ended t more)
    (hd : .attempt j u ∈ more) : j = k ∧ u = s := by
  rw [mem_starts, h.starts, List.mem_singleton] at hd
  exact Prod.mk.inj hd

theorem Round.head {ended : Except Overflow (Option (Except (RetryError CallError) α))}
    (h : Round c env transport ctx request timeout started left k s ended t more) :
    .attempt k s ∈ more := mem_starts.mpr (h.starts ▸ List.mem_singleton_self _)

theorem Underway.head (h : Underway c env transport ctx request timeout started budget first k s earlier) :
    (k = 0 ∧ s = first) ∨ .attempt 0 first ∈ earlier := by
  induction h with
  | start => exact .inl ⟨rfl, rfl⟩
  | next _ round ih =>
    rcases ih with ⟨rfl, rfl⟩ | ih
    · exact .inr (List.mem_append_right _ round.head)
    · exact .inr (List.mem_append_left _ ih)

theorem first_attempt (c : Client τ) (env : Surroundings σ) (transport : Transport σ ρ α) (ctx : CallContext)
    (request : ρ) (timeout : Duration) (s : State σ τ) :
    .attempt 0 s.stage ∈ c.deeds env transport ctx request timeout s := by
  obtain ⟨k, t, earlier, last, result, hrow, hround, -, hdeeds, -⟩ :=
    c.course env transport ctx request timeout s
  rw [hdeeds]
  rcases hrow.head with ⟨rfl, rfl⟩ | h
  · exact List.mem_append_right _ hround.head
  · exact List.mem_append_left _ h

theorem Underway.starts (h : Underway c env transport ctx request timeout started budget first k s earlier) :
    (earlier.filterMap Deed.start?).length = k := by
  induction h with
  | start => rfl
  | next _ round ih => rw [List.filterMap_append, round.starts, List.length_append, ih]; rfl

/-! ### The answers of a call -/

theorem Aftermath.answers {r : Retrier} {w u : σ} {answer : Except CallError α}
    {ended : Except Overflow (Option (Except (RetryError CallError) α))}
    (h : Aftermath r env ctx started left k w answer ended u more) : more.filterMap Deed.answer? = [] := by
  cases h <;> rfl

theorem Underway.answers (h : Underway c env transport ctx request timeout started budget first k s earlier) :
    ∀ answer ∈ earlier.filterMap Deed.answer?,
      ∃ failure, answer = .error failure ∧ (CallError.ofTransport failure).isRetryable = true := by
  intro answer ha
  obtain ⟨d, hd, ha⟩ := List.mem_filterMap.mp ha
  obtain ⟨j, u, v, more, round, hd, -⟩ := h.round_of_mem hd
  obtain ⟨-, -, failure, w, -, hr, ⟨-, -, rfl⟩ | ⟨-, -, rfl⟩⟩ := round.goesOn <;>
    simp only [List.mem_cons, List.not_mem_nil, or_false] at hd
  · rcases hd with rfl | rfl <;> cases ha
    exact ⟨failure, rfl, hr⟩
  · rcases hd with rfl | rfl | rfl <;> cases ha
    exact ⟨failure, rfl, hr⟩

theorem Aftermath.not_sent {r : Retrier} {w u : σ} {answer : Except CallError α}
    {ended : Except Overflow (Option (Except (RetryError CallError) α))}
    (h : Aftermath r env ctx started left k w answer ended u more) : more.countP Deed.isSent = 0 := by
  cases h <;> rfl

theorem Round.countP_sent {ended : Except Overflow (Option (Except (RetryError CallError) α))}
    (h : Round c env transport ctx request timeout started left k s ended t more) :
    more.countP Deed.isSent ≤ 1 := by
  cases h with
  | cancelled | expired | expiredLast | refused => exact Nat.zero_le _
  | lost => exact Nat.le_refl _
  | answered _ _ next =>
    rw [List.countP_cons, List.countP_cons, next.not_sent]
    exact Nat.le_refl _

theorem Underway.countP_sent
    (h : Underway c env transport ctx request timeout started budget first k s earlier) :
    earlier.countP Deed.isSent ≤ k := by
  induction h with
  | start => exact Nat.le_refl _
  | next _ round ih =>
    rw [List.countP_append]
    exact Nat.add_le_add ih round.countP_sent

/-! ### An attempt and what follows it -/

variable {call : Call}

theorem attempt_of_cancelled (hc : env.cancelled s.world ctx.token = true) :
    c.attempt env transport ctx request timeout call k s = ⟨.ok (.error .cancelled), s, []⟩ := by
  unfold attempt
  exact if_pos hc

theorem attempt_of_expired (hc : env.cancelled s.world ctx.token = false)
    (he : ctx.isExpired (env.now s.world) = true) :
    c.attempt env transport ctx request timeout call k s = ⟨.ok (.error .timeout), s, []⟩ := by
  unfold attempt
  rw [if_neg (by simp [hc])]
  exact if_pos he

theorem attempt_eq_of_refuses (h : c.Refuses env ctx s) :
    c.attempt env transport ctx request timeout call k s =
      ⟨.ok (.error .breakerOpen), ⟨s.world, (c.asked env s).state⟩,
        (c.settle (c.asked env s)).2 ++ (if c.hook then [.refused request] else []) ++
          c.record call .info s!"circuit breaker for '{c.target}' is open, rejecting call"
            [("attempt", Json.ofNat k)]⟩ := by
  obtain ⟨⟨hc, he⟩, ha⟩ := h
  have h := attempted c env transport ctx request timeout call k s
  generalize c.attempt env transport ctx request timeout call k s = tried at h
  cases h with
  | refused => rfl
  | cancelled hc' => simp [hc] at hc'
  | expired _ he' => simp [he] at he'
  | lost _ _ ha' | sent _ _ ha' => simp [ha] at ha'

theorem attempt_of_refuses (h : c.Refuses env ctx s) :
    let tried := c.attempt env transport ctx request timeout call k s
    tried.result = .ok (.error .breakerOpen) ∧ tried.state = ⟨s.world, (c.asked env s).state⟩ := by
  rw [attempt_eq_of_refuses h]
  exact ⟨rfl, rfl⟩

/-- A permitted attempt comes to what the transport answers, and the breaker is told if it does. -/
theorem attempt_eq_of_permits (h : c.Permits env ctx s) :
    let tried := c.attempt env transport ctx request timeout call k s
    let sent := transport.send s.world request (bounded env ctx timeout s)
    (∃ cause w, sent = (.error cause, w) ∧
        tried = ⟨.error cause, ⟨w, (c.asked env s).state⟩,
          (c.settle (c.asked env s)).2 ++ [dispatchEntry env ctx request timeout s]⟩) ∨
      ∃ answer w, sent = (.ok answer, w) ∧
        tried = ⟨.ok (answer.mapError CallError.ofTransport), ⟨w, (c.reported env s answer w).state⟩,
          (c.settle (c.asked env s)).2 ++ ([dispatchEntry env ctx request timeout s] ++
            (c.settle (c.reported env s answer w)).2 ++
              match answer.mapError CallError.ofTransport with
              | .ok _ => []
              | .error e => c.failureRecord call k ((env.now w).since (env.now s.world)) e)⟩ := by
  obtain ⟨⟨hc, he⟩, ha⟩ := h
  have h := attempted c env transport ctx request timeout call k s
  generalize c.attempt env transport ctx request timeout call k s = tried at h
  cases h with
  | lost _ _ _ hs => exact .inl ⟨_, _, hs, rfl⟩
  | sent _ _ _ hs => exact .inr ⟨_, _, hs, rfl⟩
  | cancelled hc' => simp [hc] at hc'
  | expired _ he' => simp [he] at he'
  | refused _ _ ha' => simp [ha] at ha'

theorem attempt_of_lost {cause : Overflow} {w : σ} (h : c.Permits env ctx s)
    (hs : transport.send s.world request (bounded env ctx timeout s) = (.error cause, w)) :
    let tried := c.attempt env transport ctx request timeout call k s
    tried.result = .error cause ∧ tried.state = ⟨w, (c.asked env s).state⟩ := by
  obtain ⟨_, _, hs', htried⟩ | ⟨_, _, hs', -⟩ := attempt_eq_of_permits h <;> cases hs.symm.trans hs'
  rw [htried]
  exact ⟨rfl, rfl⟩

theorem attempt_of_answered {answer : Except TransportError α} {w : σ} (h : c.Permits env ctx s)
    (hs : transport.send s.world request (bounded env ctx timeout s) = (.ok answer, w)) :
    let tried := c.attempt env transport ctx request timeout call k s
    tried.result = .ok (answer.mapError CallError.ofTransport) ∧
      tried.state = ⟨w, (c.reported env s answer w).state⟩ := by
  obtain ⟨_, _, hs', -⟩ | ⟨_, _, hs', htried⟩ := attempt_eq_of_permits h <;> cases hs.symm.trans hs'
  rw [htried]
  exact ⟨rfl, rfl⟩

/-- A round is an attempt, and what follows its answer if it has one. -/
theorem Round.aftermath {ended : Except Overflow (Option (Except (RetryError CallError) α))} (call : Call)
    (h : Round c env transport ctx request timeout started left k s ended t more) :
    let tried := c.attempt env transport ctx request timeout call k s
    ∃ sends rest, more = .attempt k s :: (sends ++ rest) ∧ (∀ d ∈ sends, d.isSent = true) ∧
      t.breaker = tried.state.breaker ∧
      ((∃ cause, tried.result = .error cause ∧ ended = .error cause) ∨
        ∃ answer, tried.result = .ok answer ∧
          Aftermath c.retrier env ctx started left k tried.state.world answer ended t.world rest) := by
  intro tried
  cases h with
  | cancelled hc =>
    have ht : tried = c.attempt env transport ctx request timeout call k s := rfl
    rw [attempt_of_cancelled hc] at ht
    rw [ht]
    exact ⟨[], [], rfl, List.forall_mem_nil _, rfl, .inr ⟨_, rfl, .aborted rfl⟩⟩
  | expired hc he hl =>
    have ht : tried = c.attempt env transport ctx request timeout call k s := rfl
    rw [attempt_of_expired hc he] at ht
    rw [ht]
    exact ⟨[], [], rfl, List.forall_mem_nil _, rfl,
      .inr ⟨_, rfl, .interrupted rfl hl (pause_of_expired _ hc he)⟩⟩
  | expiredLast hc he hl =>
    have ht : tried = c.attempt env transport ctx request timeout call k s := rfl
    rw [attempt_of_expired hc he] at ht
    rw [ht]
    exact ⟨[], [], rfl, List.forall_mem_nil _, rfl, .inr ⟨_, rfl, .exhausted rfl hl⟩⟩
  | refused hp =>
    obtain ⟨hresult, hstate⟩ : tried.result = .ok (.error .breakerOpen) ∧
      tried.state = ⟨s.world, (c.asked env s).state⟩ := attempt_of_refuses hp
    rw [hresult, hstate]
    exact ⟨[], [], rfl, List.forall_mem_nil _, rfl, .inr ⟨_, rfl, .aborted rfl⟩⟩
  | lost hp hs =>
    obtain ⟨hresult, hstate⟩ : tried.result = _ ∧ tried.state = _ := attempt_of_lost hp hs
    rw [hresult, hstate]
    exact ⟨[_], [], rfl, List.forall_mem_singleton.mpr rfl, rfl, .inl ⟨_, rfl, rfl⟩⟩
  | answered hp hs next =>
    obtain ⟨hresult, hstate⟩ : tried.result = _ ∧ tried.state = _ := attempt_of_answered hp hs
    rw [hresult, hstate]
    exact ⟨[_], _, rfl, List.forall_mem_singleton.mpr rfl, rfl, .inr ⟨_, rfl, next⟩⟩

/-- Where the context leaves no room for the wait, a failure that may be repeated is the end. -/
theorem Aftermath.of_refused {r : Retrier} {w u : σ} {e : CallError} {cause : Interrupt}
    {ended : Except Overflow (Option (Except (RetryError CallError) α))} (hr : e.isRetryable = true)
    (hl : left ≠ 0) (hp : Retrier.pause env ctx (r.nextInterval k) w = .refused cause)
    (h : Aftermath r env ctx started left k w (.error e) ended u more) :
    ended = .ok (some (.error (.interrupted (k + 1) cause e))) ∧ u = w ∧ more = [] := by
  cases h with
  | interrupted _ _ hp' =>
    cases hp.symm.trans hp'
    exact ⟨rfl, rfl, rfl⟩
  | aborted hr' => simp [hr] at hr'
  | exhausted _ hl' => exact absurd hl' hl
  | again _ _ hp' | waited _ _ hp' | cut _ _ hp' | stuck _ _ hp' => cases hp.symm.trans hp'

/-- After such a failure the round is over with its attempt. -/
theorem Round.of_refused {e : CallError} {cause : Interrupt}
    {ended : Except Overflow (Option (Except (RetryError CallError) α))} (call : Call)
    (h : Round c env transport ctx request timeout started left k s ended t more) :
    let tried := c.attempt env transport ctx request timeout call k s
    tried.result = .ok (.error e) → e.isRetryable = true → left ≠ 0 →
      Retrier.pause env ctx (c.retrier.nextInterval k) tried.state.world = .refused cause →
      ended = .ok (some (.error (.interrupted (k + 1) cause e))) ∧ t = tried.state ∧
        ∃ sends, more = .attempt k s :: sends ∧ ∀ d ∈ sends, d.isSent = true := by
  intro tried hresult hr hl hp
  obtain ⟨sends, rest, hmore, hsends, hb, ⟨_, hlost, -⟩ | ⟨answer, ha, next⟩⟩ := h.aftermath call
  · cases hresult.symm.trans hlost
  · cases hresult.symm.trans ha
    obtain ⟨hended, hw, rfl⟩ := next.of_refused hr hl hp
    rw [List.append_nil] at hmore
    exact ⟨hended, congr (congrArg Stage.mk hw) hb, sends, hmore, hsends⟩

/-- An attempt belongs to a round that leads to another one or to the last round. -/
theorem round_of_attempt (c : Client τ) (env : Surroundings σ) (transport : Transport σ ρ α) (ctx : CallContext)
    (request : ρ) (timeout : Duration) (s : State σ τ) {k : Nat} {start : Stage σ}
    (h : .attempt k start ∈ c.deeds env transport ctx request timeout s) :
    let done := c.executeWithin env transport ctx request timeout s
    let started := env.now s.stage.world
    let budget := c.retrier.budget c.maxRetryAttempts
    k ≤ budget ∧
      ((∃ t more, Round c env transport ctx request timeout started (budget - k) k start (.ok none) t
          (more : List (Deed σ α))) ∨
        ∃ earlier last, ∃ result : Except Overflow (Except (RetryError CallError) α),
          Round c env transport ctx request timeout started (budget - k) k start (result.map some)
            done.state.stage last ∧
          done.result = result.map (Except.mapError callError) ∧
          c.deeds env transport ctx request timeout s = earlier ++ last) := by
  intro done started budget
  obtain ⟨j, t, earlier, last, result, hrow, hround, hresult, hdeeds, -⟩ :=
    c.course env transport ctx request timeout s
  have hj := hrow.le
  rw [hdeeds] at h
  rcases List.mem_append.mp h with h | h
  · obtain ⟨i, u, v, more, round, hd, -⟩ := hrow.round_of_mem h
    obtain ⟨rfl, rfl⟩ := round.attempt_mem hd
    have hi : budget - k ≠ 0 := round.goesOn.1
    exact ⟨by omega, .inl ⟨v, more, round⟩⟩
  · obtain ⟨rfl, rfl⟩ := hround.attempt_mem h
    exact ⟨hj, .inr ⟨earlier, last, result, hround, hresult, hdeeds⟩⟩

end

end Client
end Resilience
