import Resilience.Proofs.Client.Result
import Resilience.Proofs.LogEvent
import Resilience.Proofs.Tracing.Spans

/-! What the telemetry of a call says. The records of a call, its span and the callback for refused requests
    are its notes; they follow from the deeds of the call and from its result. Records of the breaker's changes
    of phase belong to no call. -/

namespace Resilience

/-- What an entry says about the call that it belongs to. -/
inductive Note (ρ : Type)
  | opened (span : SpanId)
  /-- A record: what ties it to its call, its severity and the fields that name an attempt and an error. -/
  | record (correlationId : String) (span : Option UInt64) (level : Level) (attempt error : Option Json)
  /-- The callback for refused requests was run. -/
  | refused (request : ρ)
  | closed (span : SpanId) (status : SpanStatus)

variable {σ τ ρ α : Type}

def Entry.note? : Entry ρ → Option (Note ρ)
  | .spanStarted span .. => some (.opened span)
  | .spanEnded span status => some (.closed span status)
  | .refused request => some (.refused request)
  | .event e => e.correlationId.map fun id =>
      .record id e.spanId e.level (e.field? "attempt") (e.field? "error")
  | _ => none

def notes (journal : List (Entry ρ)) : List (Note ρ) := journal.filterMap Entry.note?

theorem notes_append (first rest : List (Entry ρ)) : notes (first ++ rest) = notes first ++ notes rest :=
  List.filterMap_append

/-- The record, if the entry is one that belongs to no call. -/
def Entry.loose? : Entry ρ → Option LogEvent
  | .event e => if e.correlationId = none then some e else none
  | _ => none

def loose (journal : List (Entry ρ)) : List LogEvent := journal.filterMap Entry.loose?

theorem loose_append (first rest : List (Entry ρ)) : loose (first ++ rest) = loose first ++ loose rest :=
  List.filterMap_append

theorem mem_loose {journal : List (Entry ρ)} {e : LogEvent} (he : .event e ∈ journal)
    (h : e.correlationId = none) : e ∈ loose journal :=
  List.mem_filterMap.mpr ⟨_, he, if_pos h⟩

namespace Client

/-- A record of a call. -/
def Call.note (call : Call) (level : Level) (attempt : Option Nat) (error : Option CallError) : Note ρ :=
  .record call.id (some call.span.value) level (attempt.map Json.ofNat) (error.map fun e => .text e.text)

/-- The record of a failed request, from the index of its attempt and the failure. -/
def Call.failureNote (call : Call) (failed : Nat × CallError) : Note ρ :=
  call.note .warn (some failed.1) (some failed.2)

/-- What is noted of a call that ends because the breaker refuses the attempt with this index. -/
def refusalNotes (c : Client τ) (call : Call) (request : ρ) (attempt : Nat) :
    Except CallError α → List (Note ρ)
  | .error .breakerOpen => (if c.hook then [.refused request] else []) ++ [call.note .info (some attempt) none]
  | _ => []

def Call.errorNotes (call : Call) : Except CallError α → List (Note ρ)
  | .ok _ => []
  | .error e => [call.note .error none (some e)]

/-- How the span of a call ends. -/
def endStatus : Except CallError α → SpanStatus
  | .ok _ => .ok
  | .error e => .error e.text

/-- The failures with which the transport answered, each with the index of its attempt. Until the first start of
    an attempt, attempt `k` is under way. -/
def failures (k : Nat) : List (Deed σ α) → List (Nat × CallError)
  | [] => []
  | .attempt index _ :: deeds => failures index deeds
  | .sent _ _ (.ok (.error failure)) _ :: deeds => (k, .ofTransport failure) :: failures k deeds
  | _ :: deeds => failures k deeds

theorem failures_append (j k : Nat) (start : Stage σ) (earlier rest : List (Deed σ α)) :
    failures j (earlier ++ .attempt k start :: rest) = failures j earlier ++ failures k rest := by
  fun_induction failures j earlier with
  | case1 => rfl
  | case2 _ _ _ _ ih => exact ih
  | case3 _ _ _ _ _ _ ih => exact congrArg (_ :: ·) ih
  | case4 j d deeds hattempt hsent ih =>
    -- Any other deed is passed over, whatever follows it.
    have hd (more : List (Deed σ α)) : failures j (d :: more) = failures j more := by
      match d with
      | .attempt index start => exact absurd rfl (hattempt index start)
      | .sent before given (.ok (.error failure)) after => exact absurd rfl (hsent before given failure after)
      | .sent _ _ (.ok (.ok _)) _ | .sent _ _ (.error _) _ | .slept .. => rfl
    exact (hd _).trans ih

/-! ### Records -/

theorem notes_entry {t : Telemetry τ} {e : LogEvent} (accepted : t.accepts e.level = true) :
    notes (t.entry e : List (Entry ρ)) = (Entry.event e : Entry ρ).note?.toList := by
  unfold Telemetry.entry
  rw [if_pos accepted, notes, List.filterMap_cons]
  cases (Entry.event e : Entry ρ).note? <;> rfl

/-- A record of a call, as it is handed to the logger. -/
def recordOf (c : Client τ) (call : Call) (level : Level) (message : String)
    (fields : List (String × Json)) : LogEvent :=
  let start : LogEvent :=
    { level, message, source := some sourceName, correlationId := some call.id
      spanId := some call.span.value }
  (start.withField "target" (.text c.target)).withFields fields

theorem record_eq (c : Client τ) (call : Call) (level : Level) (message : String)
    (fields : List (String × Json)) :
    (c.record call level message fields : List (Entry ρ)) =
      c.telemetry.entry (c.recordOf call level message fields) := rfl

section
variable {c : Client τ}

theorem recordOf_heading (call : Call) (level : Level) (message : String) (fields : List (String × Json)) :
    let e := c.recordOf call level message fields
    e.level = level ∧ e.correlationId = some call.id ∧ e.spanId = some call.span.value := by
  have h : (c.recordOf call level message fields).heading =
      (level, message, some sourceName, some call.id, some call.span.value) :=
    (LogEvent.heading_withFields ..).trans (LogEvent.heading_withField ..)
  simp only [LogEvent.heading, Prod.mk.injEq] at h
  exact ⟨h.1, h.2.2.2.1, h.2.2.2.2⟩

theorem recordOf_field? (call : Call) (level : Level) (message : String) (fields : List (String × Json))
    {name : String} (hname : "target" ≠ name) :
    (c.recordOf call level message fields).field? name = Json.find? name fields.reverse := by
  have hstart : LogEvent.HasFields (LogEvent.mk level message (some sourceName) .null (some call.id)
    (some call.span.value)) := .inl rfl
  refine ((hstart.withField _ _).field?_withFields fields name).trans ?_
  rw [hstart.field?_withField, if_neg hname]
  exact Option.or_none

theorem notes_record (accepted : ∀ level, c.telemetry.accepts level = true) (call : Call) (level : Level)
    (message : String) (fields : List (String × Json)) :
    notes (c.record call level message fields : List (Entry ρ)) =
      [.record call.id (some call.span.value) level (Json.find? "attempt" fields.reverse)
        (Json.find? "error" fields.reverse)] := by
  obtain ⟨hlevel, hid, hspan⟩ := recordOf_heading (c := c) call level message fields
  rw [record_eq, notes_entry (accepted _), Entry.note?, hlevel, hid, hspan, recordOf_field? _ _ _ _ (by decide),
    recordOf_field? _ _ _ _ (by decide)]
  rfl

theorem loose_record (call : Call) (level : Level) (message : String) (fields : List (String × Json)) :
    loose (c.record call level message fields : List (Entry ρ)) = [] := by
  obtain ⟨-, hid, -⟩ := recordOf_heading (c := c) call level message fields
  rw [record_eq, Telemetry.entry]
  split
  · rw [loose, List.filterMap_cons, Entry.loose?, hid]
    rfl
  · rfl

theorem notes_failureRecord (accepted : ∀ level, c.telemetry.accepts level = true) (call : Call) (attempt : Nat)
    (latency : Duration) (e : CallError) :
    notes (c.failureRecord call attempt latency e : List (Entry ρ)) = [call.failureNote (attempt, e)] := by
  unfold failureRecord
  rw [notes_record accepted]
  split <;> rfl

theorem notes_conclusion (accepted : ∀ level, c.telemetry.accepts level = true) (call : Call)
    (result : Except CallError α) :
    notes (c.conclusion call result : List (Entry ρ) × SpanStatus).1 = call.errorNotes result := by
  cases result with
  | ok value => rfl
  | error e => exact notes_record accepted ..

theorem loose_conclusion (call : Call) (result : Except CallError α) :
    loose (c.conclusion call result : List (Entry ρ) × SpanStatus).1 = [] := by
  cases result with
  | ok value => rfl
  | error e => exact loose_record ..

theorem conclusion_status (call : Call) (result : Except CallError α) :
    (c.conclusion call result : List (Entry ρ) × SpanStatus).2 = endStatus result := by
  cases result <;> rfl

theorem refusalNotes_of_ne {call : Call} {request : ρ} {attempt : Nat} {result : Except CallError α}
    (h : result ≠ .error .breakerOpen) : c.refusalNotes call request attempt result = [] := by
  unfold refusalNotes
  split
  · exact absurd rfl h
  · rfl

/-! ### Changes of phase -/

/-- The record of a change of phase. -/
def announcement (c : Client τ) (t : Breaker.Transition) : LogEvent where
  level := if t.target = .opened then .warn else .info
  message := s!"circuit breaker for '{c.target}' changed from {t.source.name} to {t.target.name}"
  source := some sourceName
  context := Json.record
    [("target", .text c.target), ("from", .text t.source.name), ("to", .text t.target.name)]

theorem announce_eq (c : Client τ) (t : Breaker.Transition) :
    (c.announce t : List (Entry ρ)) =
      c.telemetry.entry (c.announcement t) ++ if c.observed then [.transition t] else [] := rfl

/-- A record of a change of phase is no record of a failure. -/
theorem announcement_fields (c : Client τ) (t : Breaker.Transition) :
    (c.announcement t).level ≠ .error ∧ (c.announcement t).correlationId = none ∧
      (c.announcement t).field? "attempt" = none ∧ (c.announcement t).field? "error" = none := by
  have hfield {name : String} (htarget : "target" ≠ name) (hfrom : "from" ≠ name) (hto : "to" ≠ name) :
      (c.announcement t).field? name = none := by
    simp only [LogEvent.field?, announcement, Json.record, Json.member?, Json.sortedMembers, List.foldl,
      Json.find?_insert, Json.find?, if_neg htarget, if_neg hfrom, if_neg hto]
  refine ⟨fun hlevel => ?_, rfl, hfield (by decide) (by decide) (by decide),
    hfield (by decide) (by decide) (by decide)⟩
  unfold announcement at hlevel
  split at hlevel <;> cases hlevel

theorem notes_entry_loose {t : Telemetry τ} {e : LogEvent} (h : e.correlationId = none) :
    notes (t.entry e : List (Entry ρ)) = [] := by
  unfold Telemetry.entry
  split
  · rw [notes, List.filterMap_cons, Entry.note?, h]
    rfl
  · rfl

theorem notes_settle {β : Type} (c : Client τ) (step : Breaker.Step β) :
    notes (c.settle step : Breaker.State × List (Entry ρ)).2 = [] := by
  rcases c.settle_inv (ρ := ρ) step with h | ⟨level, text, t, h⟩
  · rw [h]
    rfl
  · rw [h, announce_eq]
    show notes (_ ++ _) = []
    rw [notes_append, notes_entry_loose (c.announcement_fields t).2.1]
    split <;> rfl

theorem loose_settle {β : Type} (c : Client τ) (step : Breaker.Step β) :
    ∀ e ∈ loose (c.settle step : Breaker.State × List (Entry ρ)).2, ∃ t, e = c.announcement t := by
  intro e he
  rcases c.settle_inv (ρ := ρ) step with h | ⟨level, text, t, h⟩
  · rw [h] at he
    cases he
  · rw [h, announce_eq] at he
    obtain ⟨entry, hentry, he⟩ := List.mem_filterMap.mp he
    simp only [Telemetry.entry, List.mem_cons, List.mem_append] at hentry
    rcases hentry with rfl | hentry | hentry
    · cases he
    · split at hentry
      · cases List.mem_singleton.mp hentry
        rw [Entry.loose?, if_pos (c.announcement_fields t).2.1] at he
        exact ⟨t, (Option.some.inj he).symm⟩
      · cases hentry
    · split at hentry
      · cases List.mem_singleton.mp hentry
        cases he
      · cases hentry

/-! ### Attempts -/

variable {env : Surroundings σ} {transport : Transport σ ρ α} {ctx : CallContext} {request : ρ}
  {timeout : Duration} {call : Call} {started : Instant} {budget left k : Nat} {first s t : Stage σ}
  {earlier more : List (Deed σ α)}

theorem notes_of_not_asks (h : ¬Asks env ctx s) :
    notes (c.attempt env transport ctx request timeout call k s).journal = [] := by
  have ha := attempted c env transport ctx request timeout call k s
  generalize c.attempt env transport ctx request timeout call k s = tried at ha
  cases ha with
  | cancelled | expired => rfl
  | refused hc he | lost hc he | sent hc he => exact absurd ⟨hc, he⟩ h

theorem notes_of_refuses (accepted : ∀ level, c.telemetry.accepts level = true) (h : c.Refuses env ctx s) :
    notes (c.attempt env transport ctx request timeout call k s).journal =
      c.refusalNotes call request k (.error .breakerOpen : Except CallError α) := by
  rw [attempt_eq_of_refuses h, notes_append, notes_append, notes_settle, notes_record accepted, refusalNotes]
  split <;> rfl

/-- Of a permitted attempt only a failure is noted. -/
theorem notes_of_permits (accepted : ∀ level, c.telemetry.accepts level = true) (h : c.Permits env ctx s)
    {answer : Except Overflow (Except TransportError α)} {w : σ}
    (hs : transport.send s.world request (bounded env ctx timeout s) = (answer, w)) :
    notes (c.attempt env transport ctx request timeout call k s).journal =
      (failures k [Deed.sent s.world (bounded env ctx timeout s) answer w]).map call.failureNote := by
  rcases attempt_eq_of_permits h with ⟨_, _, hs', htried⟩ | ⟨answer', _, hs', htried⟩
  · cases hs.symm.trans hs'
    rw [htried, notes_append, notes_settle]
    rfl
  · cases hs.symm.trans hs'
    rw [htried, notes_append, notes_append, notes_append, notes_settle, notes_settle]
    rcases answer' with failure | value
    · exact notes_failureRecord accepted ..
    · rfl

theorem loose_attempt (c : Client τ) (env : Surroundings σ) (transport : Transport σ ρ α) (ctx : CallContext)
    (request : ρ) (timeout : Duration) (call : Call) (k : Nat) (s : Stage σ) :
    ∀ e ∈ loose (c.attempt env transport ctx request timeout call k s).journal, ∃ t, e = c.announcement t := by
  have h := attempted c env transport ctx request timeout call k s
  generalize c.attempt env transport ctx request timeout call k s = tried at h
  cases h with
  | cancelled | expired => exact List.forall_mem_nil _
  | refused =>
    have hhook : loose (if c.hook then [.refused request] else [] : List (Entry ρ)) = [] := by split <;> rfl
    rw [loose_append, loose_append, loose_record, hhook, List.append_nil, List.append_nil]
    exact c.loose_settle _
  | lost =>
    rw [loose_append]
    exact fun e he => c.loose_settle _ e (by simpa [loose, dispatchEntry, Entry.loose?] using he)
  | sent =>
    have hfailure (journal : List (Entry ρ)) : loose ([dispatchEntry env ctx request timeout s] ++ journal) =
        loose journal := rfl
    intro e he
    rw [loose_append, loose_append, hfailure, List.mem_append, List.mem_append] at he
    rcases he with he | he | he
    · exact c.loose_settle _ e he
    · exact c.loose_settle _ e he
    · split at he
      · cases he
      · rw [failureRecord, loose_record] at he
        cases he

theorem Aftermath.failures {r : Retrier} {w u : σ} {answer : Except CallError α}
    {ended : Except Overflow (Option (Except (RetryError CallError) α))}
    (h : Aftermath r env ctx started left k w answer ended u more) (j : Nat) :
    Client.failures j more = [] := by
  cases h <;> rfl

/-- What is noted of the attempt of a round: that the breaker refuses it, or the failure with which it was
    answered. -/
theorem Round.notes (accepted : ∀ level, c.telemetry.accepts level = true) (call : Call)
    {ended : Except Overflow (Option (Except (RetryError CallError) α))}
    (h : Round c env transport ctx request timeout started left k s ended t more) :
    let said := notes (c.attempt env transport ctx request timeout call k s).journal
    (c.Refuses env ctx s ∧ failures k more = [] ∧
        said = c.refusalNotes call request k (.error .breakerOpen : Except CallError α)) ∨
      (¬c.Refuses env ctx s ∧ said = (failures k more).map call.failureNote) := by
  intro said
  cases h with
  | cancelled hc =>
    have hn : ¬Asks env ctx s := fun h => Bool.false_ne_true (h.1.symm.trans hc)
    exact .inr ⟨fun h => hn h.1, notes_of_not_asks hn⟩
  | expired _ he | expiredLast _ he =>
    have hn : ¬Asks env ctx s := fun h => Bool.false_ne_true (h.2.symm.trans he)
    exact .inr ⟨fun h => hn h.1, notes_of_not_asks hn⟩
  | refused hp => exact .inl ⟨hp, rfl, notes_of_refuses accepted hp⟩
  | lost hp hs => exact .inr ⟨hp.not_refuses, notes_of_permits accepted hp hs⟩
  | @answered hp answer w u ended more hs next =>
    refine .inr ⟨hp.not_refuses, (notes_of_permits accepted hp hs).trans ?_⟩
    rcases answer with failure | value
    · exact congrArg (fun rest => [call.failureNote (k, .ofTransport failure)] ++ rest.map call.failureNote)
        (next.failures k).symm
    · exact congrArg (List.map call.failureNote) (next.failures k).symm

/-- Until its last round a call notes the failures it was answered with, one for each round. -/
theorem Underway.notes (accepted : ∀ level, c.telemetry.accepts level = true) (call : Call)
    (h : Underway c env transport ctx request timeout started budget first k s earlier) :
    ((earlier.filterMap Deed.start?).flatMap fun start =>
        notes (c.attempt env transport ctx request timeout call start.1 start.2).journal) =
      (failures 0 earlier).map call.failureNote ∧ (failures 0 earlier).length = k := by
  induction h with
  | start => exact ⟨rfl, rfl⟩
  | @next k s t earlier more hrow round ih =>
    obtain ⟨hsaid, hlength⟩ := ih
    obtain ⟨-, hp, failure, w, hs, -, hmore⟩ := round.goesOn
    have hnotes : _ = List.map call.failureNote [(k, .ofTransport failure)] := notes_of_permits accepted hp hs
    have hfailures : failures 0 (earlier ++ more) = failures 0 earlier ++ [(k, .ofTransport failure)] := by
      rcases hmore with ⟨-, -, rfl⟩ | ⟨-, -, rfl⟩ <;> exact failures_append ..
    rw [List.filterMap_append, List.flatMap_append, round.starts, hsaid, hfailures, List.map_append,
      List.flatMap_singleton, hnotes, List.length_append, hlength]
    exact ⟨rfl, rfl⟩

/-! ### Calls -/

/-- A view that shows neither log lines nor starts of attempts nor waits shows of a call's loop what its
    attempts leave. -/
theorem looped_filterMap {β : Type} {view : Entry ρ → Option β}
    (hlog : ∀ level text, view (.log level text) = none) (hattempt : ∀ k, view (.attempt k) = none)
    (hsleep : ∀ d, view (.sleep d) = none) (c : Client τ) (env : Surroundings σ) (transport : Transport σ ρ α)
    (ctx : CallContext) (request : ρ) (timeout : Duration) (s : State σ τ) :
    (c.looped env transport ctx request timeout s).journal.filterMap view =
      ((c.deeds env transport ctx request timeout s).filterMap Deed.start?).flatMap fun start =>
        (c.attempt env transport ctx request timeout (c.nextCall timeout s) start.1 start.2).journal.filterMap
          view := by
  -- The chronicle writes every attempt down where it starts, so it says which attempts have been shown.
  let shown (start : Nat × Stage σ) : List β :=
    (c.attempt env transport ctx request timeout (c.nextCall timeout s) start.1 start.2).journal.filterMap view
  let Shows (u : Stage (Chronicled σ α)) (seen : List (Entry ρ)) : Prop :=
    seen.filterMap view = (u.world.deeds.filterMap Deed.start?).flatMap shown
  have extend {left k : Nat} {t u : Stage (Chronicled σ α)} {seen more : List (Entry ρ)}
      {ended : Except Overflow (Option (Except (RetryError CallError) α))} (h : Shows t seen)
      (hturn : Retrier.Turn c.retrier (surroundings (env.chronicled α)) ctx errors
        (c.chronicledAttempt env transport ctx request timeout (c.nextCall timeout s))
        (c.retrier.budget c.maxRetryAttempts) (env.now s.stage.world) left k t ended u more) :
      Shows u (seen ++ more) := by
    obtain ⟨last, hround, hdeeds, -⟩ := turn_round hturn
    have hattempted : c.attempt env transport ctx request timeout (c.nextCall timeout s) k
        (t.map Chronicled.world) = (c.chronicledAttempt env transport ctx request timeout (c.nextCall timeout s)
          k t).mapState (Stage.map Chronicled.world) :=
      attempt_mapState (surroundings_chronicled α env) (transport_chronicled transport) c ctx request timeout
        (c.nextCall timeout s) k (t.begin k)
    have hmore : more.filterMap view = shown (k, t.map Chronicled.world) := by
      rw [hturn.filterMap_journal hlog hattempt hsleep]
      exact congrArg (fun p : Performed (Stage σ) ρ (Except CallError α) => p.journal.filterMap view)
        hattempted.symm
    show (seen ++ more).filterMap view = _
    rw [hdeeds, List.filterMap_append, List.filterMap_append, hround.starts, List.flatMap_append,
      List.flatMap_singleton, hmore, h]
  have start : Shows ⟨⟨s.stage.world, []⟩, s.stage.breaker⟩ [] := rfl
  rw [looped_chronicled]
  exact Retrier.loop_rule (fun _ _ => Shows) (fun _ => Shows) extend extend extend start

/-- Around its loop a call opens a span, records its error if it has one, and closes the span. -/
theorem executeWithin_telemetry (c : Client τ) (env : Surroundings σ) (transport : Transport σ ρ α)
    (ctx : CallContext) (request : ρ) (timeout : Duration) (s : State σ τ) {result : Except CallError α}
    (returns : (c.executeWithin env transport ctx request timeout s).result = .ok result) :
    let done := c.executeWithin env transport ctx request timeout s
    let call := c.nextCall timeout s
    let fields := c.spanFields call.id timeout
    let last : List (Entry ρ) × SpanStatus := c.conclusion call result
    done.journal = [.spanStarted call.span "resilient_call" fields] ++
        (c.looped env transport ctx request timeout s).journal ++ last.1 ++ [.spanEnded call.span last.2] ∧
      done.state.spans =
        c.telemetry.endSpan (c.telemetry.startSpan s.spans "resilient_call" fields).2 call.span last.2 := by
  have h := c.called env transport ctx request timeout s
  generalize c.executeWithin env transport ctx request timeout s = done at h returns ⊢
  cases h with
  | lost => cases returns
  | returned hl hlast =>
    cases returns
    subst hlast
    rw [hl]
    exact ⟨rfl, rfl⟩

/-- The loop of a call notes the failures that it was answered with, and a refusal if that is the result. -/
theorem notes_looped (accepted : ∀ level, c.telemetry.accepts level = true) (s : State σ τ)
    {result : Except CallError α}
    (returns : (c.executeWithin env transport ctx request timeout s).result = .ok result) :
    let call := c.nextCall timeout s
    let failed := failures 0 (c.deeds env transport ctx request timeout s)
    notes (c.looped env transport ctx request timeout s).journal =
      failed.map call.failureNote ++ c.refusalNotes call request failed.length result := by
  intro call failed
  obtain ⟨k, t, earlier, last, ended, hrow, hround, hresult, hdeeds, -⟩ :=
    c.course env transport ctx request timeout s
  rcases ended with cause | answer <;> cases returns.symm.trans hresult
  obtain ⟨hsaid, hlength⟩ := hrow.notes accepted call
  obtain ⟨sends, rest, hmore, -⟩ := hround.aftermath call
  have hlast : failures k last = failures k (sends ++ rest) := by
    rw [hmore]
    rfl
  have hfailed : failed = failures 0 earlier ++ failures k last := by
    rw [hlast, ← failures_append 0 k t, ← hmore, ← hdeeds]
  have hrefused := (hround.verdict call hrow).breakerOpen_iff
  have hloop : notes (c.looped env transport ctx request timeout s).journal = _ :=
    looped_filterMap (fun _ _ => rfl) (fun _ => rfl) (fun _ => rfl) c env transport ctx request timeout s
  rw [hloop, hdeeds, List.filterMap_append, hround.starts, List.flatMap_append, List.flatMap_singleton]
  refine (congrArg (· ++ _) hsaid).trans ?_
  rw [hfailed, List.map_append, List.append_assoc]
  refine congrArg (_ ++ ·) ?_
  rcases hround.notes accepted call with ⟨hp, hnone, hlast⟩ | ⟨hp, hlast⟩
  · rw [hrefused.mpr hp, hnone, List.append_nil, hlength]
    exact hlast
  · rw [refusalNotes_of_ne (fun h => hp (hrefused.mp h)), List.append_nil]
    exact hlast

theorem loose_looped (s : State σ τ) :
    ∀ e ∈ loose (c.looped env transport ctx request timeout s).journal, ∃ t, e = c.announcement t := by
  intro e he
  have hloop : loose (c.looped env transport ctx request timeout s).journal = _ :=
    looped_filterMap (fun _ _ => rfl) (fun _ => rfl) (fun _ => rfl) c env transport ctx request timeout s
  rw [hloop] at he
  obtain ⟨start, -, he⟩ := List.mem_flatMap.mp he
  exact c.loose_attempt env transport ctx request timeout _ start.1 start.2 e he

end

/-- A call that returns starts its span before anything else and ends it after everything else, with how the
    call ended. Where the logger wants all records, the call notes in between, in this order and as its own: each
    failure that the transport answered with, under the index of its attempt; if the result is a refusal by the
    breaker, the callback with the request and a record; and the error, if the result is one. Other records are
    those of the breaker's changes of phase. The spans that are open in a sink are as many as before. -/
theorem telemetry_law (c : Client τ) (env : Surroundings σ) (transport : Transport σ ρ α) (ctx : CallContext)
    (request : ρ) (timeout : Duration) (s : State σ τ) {result : Except CallError α}
    (returns : (c.executeWithin env transport ctx request timeout s).result = .ok result) :
    let done := c.executeWithin env transport ctx request timeout s
    let deeds := c.deeds env transport ctx request timeout s
    let call := c.nextCall timeout s
    let failed := failures 0 deeds
    (∃ between, done.journal =
        [.spanStarted call.span "resilient_call" (c.spanFields call.id timeout)] ++ between ++
          [.spanEnded call.span (endStatus result)]) ∧
      acts done.journal = deeds.map (Deed.entry env request) ∧
      ((∀ level, c.telemetry.accepts level = true) →
        notes done.journal =
            [.opened call.span] ++ failed.map call.failureNote ++
              c.refusalNotes call request failed.length result ++ call.errorNotes result ++
              [.closed call.span (endStatus result)] ∧
          ∀ e, .event e ∈ done.journal → e.correlationId = none →
            (∃ t, e = c.announcement t) ∧ e.level ≠ .error ∧
              e.field? "attempt" = none ∧ e.field? "error" = none) ∧
      ∀ sink n, Tracing.SpansIn c.telemetry sink → Tracing.Sink.Reached n (sink s.spans) → n < UInt64.size →
        (sink done.state.spans).openCount = (sink s.spans).openCount := by
  intro done deeds call failed
  obtain ⟨hjournal, hspans⟩ := c.executeWithin_telemetry env transport ctx request timeout s returns
  rw [conclusion_status] at hjournal hspans
  refine ⟨⟨_, hjournal.trans (by rw [List.append_assoc [Entry.spanStarted ..]])⟩,
    c.acts_deeds env transport ctx request timeout s, fun accepted => ⟨?_, ?_⟩, ?_⟩
  · calc notes done.journal
        = notes _ := congrArg notes hjournal
      _ = [.opened call.span] ++ (failed.map call.failureNote ++
            c.refusalNotes call request failed.length result) ++ call.errorNotes result ++
            [.closed call.span (endStatus result)] := by
          rw [notes_append, notes_append, notes_append, notes_looped accepted s returns, notes_conclusion accepted]
          rfl
      _ = _ := by simp only [List.append_assoc]
  · intro e he hid
    have hmem : e ∈ loose done.journal := mem_loose he hid
    have hloose : loose done.journal = loose (c.looped env transport ctx request timeout s).journal := by
      rw [hjournal, loose_append, loose_append, loose_append, loose_conclusion, List.append_nil]
      exact List.append_nil _
    obtain ⟨t, rfl⟩ := loose_looped s e (hloose ▸ hmem)
    obtain ⟨hlevel, -, hattempt, herror⟩ := c.announcement_fields t
    exact ⟨⟨t, rfl⟩, hlevel, hattempt, herror⟩
  · intro sink n hsink hreached hn
    have hspan : call.span = (sink s.spans).start.1 := hsink.id ..
    rw [hspans, hsink.finish, hsink.start, hspan]
    exact hreached.openCount_start_finish hn

/-- A target that is down, until the breaker refuses the third attempt. -/
theorem telemetry_law_refusal :
    let env : Surroundings (Simulation TransportError Unit) := Simulation.surroundings
    let transport : Transport (Simulation TransportError Unit) Unit Unit := Simulation.transport (.connection "down")
    let plan : Plan :=
      { backoff := .constant (.ofSeconds 1), maxRetryAttempts := 3, breaker := { failureThreshold := 2 } }
    let c := plan.build (Tracing.telemetry .trace) toString true false
    let s : State (Simulation TransportError Unit) Tracing.Sink := .start c {} {} .origin
    let done := c.executeWithin env transport ⟨none, ⟨0⟩⟩ () plan.perCallTimeout s
    let call := c.nextCall plan.perCallTimeout s
    done.result = .ok (.error .breakerOpen) ∧ (∀ level, c.telemetry.accepts level = true) ∧
      Tracing.SpansIn c.telemetry (fun spans => spans) ∧ Tracing.Sink.Reached 0 s.spans ∧
      notes done.journal =
        [.opened call.span, call.failureNote (0, .transport "down"), call.failureNote (1, .transport "down"),
          .refused (), call.note .info (some 2) none, call.note .error none (some .breakerOpen),
          .closed call.span (.error "Circuit breaker is open")] ∧
      done.state.spans.openCount = s.spans.openCount := by
  intro env transport plan c s done call
  have returns : done.result = .ok (.error .breakerOpen) := eq_of_failure? (by decide +kernel)
  have accepted (level : Level) : c.telemetry.accepts level = true := by cases level <;> rfl
  have sink : Tracing.SpansIn c.telemetry fun spans => spans := Tracing.telemetry_spansIn .trace
  have failed : failures 0 (c.deeds env transport ⟨none, ⟨0⟩⟩ () plan.perCallTimeout s) =
      [(0, .transport "down"), (1, .transport "down")] := by decide +kernel
  obtain ⟨-, -, hnotes, hspans⟩ :=
    telemetry_law c env transport ⟨none, ⟨0⟩⟩ () plan.perCallTimeout s returns
  obtain ⟨hnotes, -⟩ := hnotes accepted
  rw [failed] at hnotes
  have hopen := hspans (fun spans => spans) 0 sink .fresh (by decide)
  have hdone : c.executeWithin env transport ⟨none, ⟨0⟩⟩ () plan.perCallTimeout s = done := rfl
  rw [hdone] at hopen
  exact ⟨returns, accepted, sink, .fresh, hnotes, hopen⟩

end Client
end Resilience
