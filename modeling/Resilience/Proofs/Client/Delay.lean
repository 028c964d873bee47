import Resilience.Proofs.Client.Telemetry
import Resilience.Proofs.Retry.Sequel
import Resilience.Simulation

/-! The announced wait. A client works out by itself, when it records a failed attempt, whether the loop around
    the attempt will wait and for how long; the loop decides later. Both come to the same: the record names a
    wait exactly if the loop goes on to its pause, and it names the wait that the pause is for. -/

namespace Resilience
namespace Client

variable {σ τ ρ α : Type}

/-- The stage in which attempt `k` of a call starts, if every attempt before it is made and waited for. -/
def startOf (c : Client τ) (env : Surroundings σ) (transport : Transport σ ρ α) (ctx : CallContext) (request : ρ)
    (timeout : Duration) (s : State σ τ) (k : Nat) : Stage σ :=
  c.retrier.startOf (surroundings env) ctx (c.attempt env transport ctx request timeout (c.nextCall timeout s))
    s.stage k

/-- What a call comes to, and what it does, after a failed attempt `k` that it ends with: nothing more is done,
    and the result is the failure itself, if it must not be repeated, or the used-up budget. -/
inductive EndsWith (k : Nat) (elapsed : Duration) (e : CallError) :
    Except Overflow (Except CallError α) → List (Entry ρ) → Prop
  | final (hr : e.isRetryable = false) : EndsWith k elapsed e (.ok (.error e)) []
  | exhausted : EndsWith k elapsed e (.ok (.error (.exhausted (k + 1) elapsed e))) []

/-- What a call comes to, and what it does, once it goes on to the pause after a failed attempt `k`. -/
inductive Pauses (k : Nat) (delay : Duration) : Except Overflow (Except CallError α) → List (Entry ρ) → Prop
  | waited {result : Except Overflow (Except CallError α)} (later : List (Entry ρ)) :
    Pauses k delay result (Retrier.waitEntries delay ++ .attempt (k + 1) :: later)
  /-- The context leaves no room for the wait. -/
  | refused {e : CallError} (he : e = .cancelled ∨ e = .timeout) : Pauses k delay (.ok (.error e)) []
  | cut (hd : delay.isZero = false) : Pauses k delay (.ok (.error .cancelled)) [.sleep delay]
  /-- Time arithmetic fails in the wait. -/
  | stuck (hd : delay.isZero = false) (cause : Overflow) : Pauses k delay (.error cause) [.sleep delay]

/-- The record of failed attempt `k` of a call. -/
structure ReportsFailure (call : Call) (k : Nat) (e : CallError) (record : LogEvent) : Prop where
  level : record.level = .warn
  call : record.correlationId = some call.id ∧ record.spanId = some call.span.value
  attempt : record.field? "attempt" = some (Json.ofNat k)
  error : record.field? "error" = some (.text e.text)

section
variable {c : Client τ} {env : Surroundings σ} {transport : Transport σ ρ α} {ctx : CallContext} {request : ρ}
  {timeout : Duration} {call : Call} {k : Nat} {delay elapsed : Duration} {e : CallError} {s : Stage σ}

/-- A call does not both end with a failure and go on to the pause after it. -/
theorem Pauses.not_endsWith (hr : e.isRetryable = true) {result : Except Overflow (Except CallError α)}
    {done : List (Entry ρ)} (h : Pauses k delay result done) : ¬EndsWith k elapsed e result done := by
  intro hends
  cases h with
  | waited later =>
    generalize hdone : Retrier.waitEntries delay ++ Entry.attempt (k + 1) :: later = done at hends
    cases hends <;> simp at hdone
  | refused he =>
    cases hends with
    | final hr' => exact Bool.false_ne_true (hr'.symm.trans hr)
    | exhausted => rcases he with he | he <;> cases he
  | cut | stuck => cases hends

theorem millisField_of_lt {d : Duration} (h : d.millis < UInt64.size) : millisField d = Json.ofNat d.millis := by
  rw [millisField, Nat.mod_eq_of_lt h]

/-- What the client works out about a failed attempt is what the loop decides by. -/
theorem mayRetry_iff (hk : k ≤ c.retrier.budget c.maxRetryAttempts) :
    c.mayRetry k = true ↔ k ≠ c.retrier.budget c.maxRetryAttempts := by
  unfold Retrier.budget at hk ⊢
  unfold mayRetry
  cases hn : c.retrier.isNever with
  | true =>
    rw [hn] at hk
    simpa using hk
  | false =>
    rw [hn] at hk
    simp only [Bool.false_eq_true, if_false, Bool.not_false, Bool.true_and, decide_eq_true_eq] at hk ⊢
    omega

/-- The record of a failed attempt names the coming wait if the client works out that there will be one. -/
theorem failureRecord_eq (c : Client τ) (call : Call) (k : Nat) (latency : Duration) (e : CallError) :
    ∃ record, (c.failureRecord call k latency e : List (Entry ρ)) = c.telemetry.entry record ∧
      ReportsFailure call k e record ∧
      record.field? "next_delay_ms" =
        if e.isRetryable && c.mayRetry k then some (millisField (c.retrier.nextInterval k)) else none := by
  unfold failureRecord
  refine ⟨_, record_eq .., ?_, ?_⟩
  · obtain ⟨hlevel, hid, hspan⟩ := c.recordOf_heading call .warn _ _
    refine ⟨hlevel, ⟨hid, hspan⟩, ?_, ?_⟩
    · rw [recordOf_field? _ _ _ _ (by decide)]
      split <;> rfl
    · rw [recordOf_field? _ _ _ _ (by decide)]
      split <;> rfl
  · rw [recordOf_field? _ _ _ _ (by decide)]
    split <;> rfl

theorem mem_entry {t : Telemetry τ} {record other : LogEvent}
    (h : (.event other : Entry ρ) ∈ t.entry record) : other = record := by
  unfold Telemetry.entry at h
  split at h
  · cases List.mem_singleton.mp h
    rfl
  · cases h

theorem level_of_mem_record {level : Level} {message : String} {fields : List (String × Json)} {other : LogEvent}
    (h : (.event other : Entry ρ) ∈ c.record call level message fields) : other.level = level :=
  (congrArg LogEvent.level (mem_entry h)).trans (recordOf_heading call level message fields).1

/-- Records of the breaker's changes of phase belong to no call. -/
theorem correlationId_settle {β : Type} {step : Breaker.Step β} {other : LogEvent}
    (h : .event other ∈ (c.settle step : Breaker.State × List (Entry ρ)).2) : other.correlationId = none := by
  rcases c.settle_inv (ρ := ρ) step with hs | ⟨level, text, t, hs⟩
  · rw [hs] at h
    cases h
  · rw [hs, announce_eq, List.mem_cons, List.mem_append] at h
    rcases h with h | h | h
    · cases h
    · rw [mem_entry h]
      exact (c.announcement_fields t).2.1
    · split at h
      · cases List.mem_singleton.mp h
      · cases h

/-- The warnings that an attempt leaves for its call are about itself. -/
theorem attempt_warning {other : LogEvent}
    (h : .event other ∈ (c.attempt env transport ctx request timeout call k s).journal)
    (hlevel : other.level = .warn) (hcall : other.correlationId = some call.id) :
    other.field? "attempt" = some (Json.ofNat k) := by
  have hsettle {β : Type} {step : Breaker.Step β} :
      .event other ∉ (c.settle step : Breaker.State × List (Entry ρ)).2 := fun hmem => by
    cases hcall.symm.trans (correlationId_settle hmem)
  have ha := attempted c env transport ctx request timeout call k s
  generalize c.attempt env transport ctx request timeout call k s = tried at ha h
  cases ha with
  | cancelled | expired => cases h
  | refused =>
    rcases List.mem_append.mp h with h | h
    · rcases List.mem_append.mp h with h | h
      · exact absurd h hsettle
      · split at h
        · cases List.mem_singleton.mp h
        · cases h
    · cases hlevel.symm.trans (level_of_mem_record h)
  | lost =>
    rcases List.mem_append.mp h with h | h
    · exact absurd h hsettle
    · cases List.mem_singleton.mp h
  | @sent _ _ _ answer world _ =>
    rcases List.mem_append.mp h with h | h
    · exact absurd h hsettle
    rcases List.mem_append.mp h with h | h
    · rcases List.mem_cons.mp h with h | h
      · cases h
      · exact absurd h hsettle
    · rcases answer with failure | value
      · obtain ⟨record, hrecord, hreports, -⟩ := c.failureRecord_eq (ρ := ρ) call k
          ((env.now world).since (env.now s.world)) (CallError.ofTransport failure)
        have h : .event other ∈ c.failureRecord call k _ (CallError.ofTransport failure) := h
        obtain rfl : other = record := mem_entry (hrecord ▸ h)
        exact hreports.attempt
      · cases h

/-- The attempt that a loop ends with: the loop goes on to the pause after it, or the call ends with it. -/
theorem ending_cases {work : Nat → Stage σ → Performed (Stage σ) ρ (Except CallError α)} {budget : Nat}
    {first t u : Stage σ} {result : Except Overflow (Except (RetryError CallError) α)} {rest seen : List (Entry ρ)}
    (h : c.retrier.Ending (surroundings env) ctx errors work budget first k result u rest)
    (htried : c.retrier.tried (surroundings env) ctx work first k = ⟨.ok (.error e), t, seen⟩) :
    (e.isRetryable = true ∧ k ≠ budget ∧
        Pauses k (c.retrier.nextInterval k) (result.map (Except.mapError callError)) rest) ∨
      ((e.isRetryable = true → k = budget) ∧
        EndsWith k ((env.now t.world).since (env.now first.world)) e
          (result.map (Except.mapError callError)) rest) := by
  cases h with
  | broken hw | succeeded hw => cases htried.symm.trans hw
  | aborted hw hr =>
    cases htried.symm.trans hw
    have hr : e.isRetryable = false := hr
    exact .inr ⟨fun hr' => absurd (hr.symm.trans hr') Bool.false_ne_true, .final hr⟩
  | exhausted hw hr hk =>
    cases htried.symm.trans hw
    exact .inr ⟨fun _ => hk, .exhausted⟩
  | interrupted hw hr hk hp =>
    cases htried.symm.trans hw
    refine .inl ⟨hr, hk, ?_⟩
    cases hp with
    | cancelled => exact .refused (.inl rfl)
    | late => exact .refused (.inr rfl)
    | cut _ hd => exact .cut hd
  | stuck hw hr hk _ hd =>
    cases htried.symm.trans hw
    exact .inl ⟨hr, hk, .stuck hd _⟩

/-- A permitted attempt that fails leaves the record of its failure behind everything else that it leaves.
    Before it there is no other record of the call, and nothing is done after the request. -/
theorem attempt_failed (call : Call) (k : Nat) (accepted : c.telemetry.accepts .warn = true)
    (h : c.Permits env ctx s) {failure : TransportError} {w : σ}
    (hs : transport.send s.world request (bounded env ctx timeout s) = (.ok (.error failure), w)) :
    let tried := c.attempt env transport ctx request timeout call k s
    let e := CallError.ofTransport failure
    ∃ breaker told record, tried = ⟨.ok (.error e), ⟨w, breaker⟩, told ++ [.event record]⟩ ∧
      acts told = [dispatchEntry env ctx request timeout s] ∧
      (∀ other, .event other ∈ told → other.correlationId = none) ∧ ReportsFailure call k e record ∧
      record.field? "next_delay_ms" =
        if e.isRetryable && c.mayRetry k then some (millisField (c.retrier.nextInterval k)) else none := by
  intro tried e
  let answer : Except TransportError α := .error failure
  let told : List (Entry ρ) := (c.settle (c.asked env s)).2 ++
    ([dispatchEntry env ctx request timeout s] ++ (c.settle (c.reported env s answer w)).2)
  have hacts : acts told = [dispatchEntry env ctx request timeout s] := by
    rw [acts_append, acts_append, acts_settle, acts_settle]
    rfl
  have hrecords (other : LogEvent) (hother : .event other ∈ told) : other.correlationId = none := by
    rcases List.mem_append.mp hother with hother | hother
    · exact correlationId_settle hother
    rcases List.mem_cons.mp hother with hother | hother
    · cases hother
    · exact correlationId_settle hother
  obtain ⟨record, hrecord, hreports, hfield⟩ :=
    c.failureRecord_eq (ρ := ρ) call k ((env.now w).since (env.now s.world)) e
  rw [Telemetry.entry, hreports.level, if_pos accepted] at hrecord
  obtain ⟨_, _, hs', -⟩ | ⟨_, _, hs', htried⟩ := attempt_eq_of_permits h <;> cases hs.symm.trans hs'
  refine ⟨(c.reported env s answer w).state, told, record, ?_, hacts, hrecords, hreports, hfield⟩
  rw [← hrecord, List.append_assoc]
  exact htried

end

/-- An attempt does not start attempts. -/
theorem attempt_silent (c : Client τ) (env : Surroundings σ) (transport : Transport σ ρ α) (ctx : CallContext)
    (request : ρ) (timeout : Duration) (call : Call) (j k : Nat) (s : Stage σ) :
    .attempt j ∉ (c.attempt env transport ctx request timeout call k s).journal := by
  intro hmem
  have hacts := attempt_mem_acts.mpr hmem
  rw [(attempted c env transport ctx request timeout call k s).acts] at hacts
  split at hacts
  · cases hacts
  · cases List.mem_singleton.mp hacts

/-- Around its loop a call leaves only what telemetry is told, and none of it is a warning. -/
theorem executeWithin_around (c : Client τ) (env : Surroundings σ) (transport : Transport σ ρ α)
    (ctx : CallContext) (request : ρ) (timeout : Duration) (s : State σ τ) :
    ∃ first last, (c.executeWithin env transport ctx request timeout s).journal =
        first ++ ((c.looped env transport ctx request timeout s).journal ++ last) ∧
      (acts first = [] ∧ ∀ other, .event other ∉ first) ∧
      acts last = [] ∧ ∀ other, .event other ∈ last → other.level = .error := by
  have h := c.called env transport ctx request timeout s
  have hopened (other : LogEvent) : (.event other : Entry ρ) ∉ [c.openingEntry timeout s] :=
    fun h => by cases List.mem_singleton.mp h
  generalize c.executeWithin env transport ctx request timeout s = done at h ⊢
  cases h with
  | lost hl =>
    rw [hl]
    exact ⟨[c.openingEntry timeout s], [], congrArg _ (List.append_nil _).symm, ⟨rfl, hopened⟩, rfl, nofun⟩
  | @returned answer _ _ _ hl hlast =>
    rw [hl]
    refine ⟨[c.openingEntry timeout s], _, (List.append_assoc ..).trans (List.append_assoc ..), ⟨rfl, hopened⟩,
      ?_, fun other h => ?_⟩
    · rw [acts_append, ← hlast, acts_conclusion]
      rfl
    · rcases List.mem_append.mp h with h | h
      · subst hlast
        rcases answer with e | value
        · exact level_of_mem_record h
        · cases h
      · cases List.mem_singleton.mp h

/-- The warnings of a call are left by its attempts. -/
theorem warning_of_call (c : Client τ) (env : Surroundings σ) (transport : Transport σ ρ α) (ctx : CallContext)
    (request : ρ) (timeout : Duration) (s : State σ τ) {other : LogEvent}
    (h : .event other ∈ (c.executeWithin env transport ctx request timeout s).journal)
    (hlevel : other.level = .warn) :
    ∃ j, .event other ∈ (c.attempt env transport ctx request timeout (c.nextCall timeout s) j
      (c.startOf env transport ctx request timeout s j)).journal := by
  obtain ⟨first, last, hjournal, ⟨-, hfirst⟩, -, hlast⟩ :=
    c.executeWithin_around env transport ctx request timeout s
  rw [hjournal, List.mem_append, List.mem_append] at h
  rcases h with h | h | h
  · exact absurd h (hfirst other)
  · obtain ⟨m, rest, -, -, hrecords⟩ := c.retrier.run_sequel (surroundings env) ctx errors
      (c.attempt env transport ctx request timeout (c.nextCall timeout s)) c.maxRetryAttempts s.stage
    obtain ⟨j, -, hj⟩ := hrecords other h
    exact ⟨j, hj⟩
  · cases hlevel.symm.trans (hlast other h)

/-- What is done after attempt `k` of a call that has failed, and what the client has worked out about it. -/
theorem failed_sequel (c : Client τ) (env : Surroundings σ) (transport : Transport σ ρ α) (ctx : CallContext)
    (request : ρ) (timeout : Duration) (s : State σ τ) {k : Nat} {e : CallError} {t : Stage σ}
    {seen : List (Entry ρ)} (made : .attempt k ∈ (c.executeWithin env transport ctx request timeout s).journal)
    (htried : c.attempt env transport ctx request timeout (c.nextCall timeout s) k
      (c.startOf env transport ctx request timeout s k) = ⟨.ok (.error e), t, seen⟩) :
    let done := c.executeWithin env transport ctx request timeout s
    ∃ before after, done.journal = before ++ seen ++ after ∧
      (((e.isRetryable && c.mayRetry k) = true ∧
          Pauses k (c.retrier.nextInterval k) done.result (acts after)) ∨
        ((e.isRetryable && c.mayRetry k) = false ∧
          EndsWith k ((env.now t.world).since (env.now s.stage.world)) e done.result (acts after))) := by
  intro done
  obtain ⟨first, last, hjournal, -, hlast, -⟩ := c.executeWithin_around env transport ctx request timeout s
  obtain ⟨hresult, -, hacts⟩ := c.executeWithin_loop env transport ctx request timeout s
  obtain ⟨m, rest, hcourse, hsequel, -⟩ := c.retrier.run_sequel (surroundings env) ctx errors
    (c.attempt env transport ctx request timeout (c.nextCall timeout s)) c.maxRetryAttempts s.stage
  have hk : k ≤ m := by
    refine hcourse.le_of_attempt (c.attempt_silent env transport ctx request timeout _ k) ?_
    exact attempt_mem_acts.mp (hacts ▸ attempt_mem_acts.mpr made)
  obtain ⟨before, after, hloop, hafter⟩ := hsequel k hk
  have htried' : c.retrier.tried (surroundings env) ctx
      (c.attempt env transport ctx request timeout (c.nextCall timeout s)) s.stage k =
        ⟨.ok (.error e), t, seen⟩ := htried
  have hloop : (c.looped env transport ctx request timeout s).journal = _ := hloop
  rw [htried'] at hloop
  refine ⟨first ++ (before ++ [.attempt k]), after ++ last, ?_, ?_⟩
  · rw [hjournal, hloop]
    simp only [List.append_assoc, List.cons_append, List.nil_append]
  rw [acts_append, hlast, List.append_nil]
  have hbudget : k ≤ c.retrier.budget c.maxRetryAttempts := Nat.le_trans hk hcourse.within
  rcases hafter with ⟨rfl, hafter⟩ | ⟨hlt, later, hafter⟩
  · rw [hafter, show done.result = _ from hresult]
    rcases ending_cases hcourse.ending htried' with ⟨hr, hspare, hpauses⟩ | ⟨hspent, hends⟩
    · refine .inl ⟨?_, hpauses⟩
      rw [hr, (c.mayRetry_iff hbudget).mpr hspare]
      rfl
    · refine .inr ⟨?_, hends⟩
      refine Bool.eq_false_iff.mpr fun h => ?_
      rw [Bool.and_eq_true] at h
      exact (c.mayRetry_iff hbudget).mp h.2 (hspent h.1)
  · obtain ⟨⟨e', he', hr⟩, hspare, -, -⟩ := hcourse.earlier k hlt
    rw [htried'] at he'
    cases he'
    refine .inl ⟨?_, hafter ▸ .waited later⟩
    have hr : e.isRetryable = true := hr
    rw [hr, (c.mayRetry_iff hbudget).mpr hspare]
    rfl

/-- The record of a failed request announces the wait that the loop around it goes on to, and nothing where the call
    ends with the failure. A call whose logger wants warnings leaves one warning about an attempt whose request the
    transport fails, behind that request and before it does anything else. The warning names the wait in whole
    milliseconds (below 2^64), or none. If it names one, this wait and the next attempt follow, or else the call
    ends in the pause: cancelled or with a timeout, unless time arithmetic fails. If it names none, the call does
    nothing more, and its result is the failure, which must not be repeated, or the used-up budget. -/
theorem announced_delay_law (c : Client τ) (env : Surroundings σ) (transport : Transport σ ρ α) (ctx : CallContext)
    (request : ρ) (timeout : Duration) (s : State σ τ) (accepted : c.telemetry.accepts .warn = true) {k : Nat}
    (small : (c.retrier.nextInterval k).millis < UInt64.size) {failure : TransportError} {w : σ} :
    let done := c.executeWithin env transport ctx request timeout s
    let call := c.nextCall timeout s
    let start := c.startOf env transport ctx request timeout s k
    let delay := c.retrier.nextInterval k
    let e := CallError.ofTransport failure
    .attempt k ∈ done.journal → c.Permits env ctx start →
    transport.send start.world request (bounded env ctx timeout start) = (.ok (.error failure), w) →
    ∃ before record after, done.journal = before ++ .event record :: after ∧
      (acts before).getLast? = some (dispatchEntry env ctx request timeout start) ∧
      ReportsFailure call k e record ∧
      (∀ other, .event other ∈ done.journal → other.level = .warn → other.correlationId = some call.id →
        other.field? "attempt" = some (Json.ofNat k) → other = record) ∧
      (record.field? "next_delay_ms" ≠ none ↔
        ¬EndsWith k ((env.now w).since (env.now s.stage.world)) e done.result (acts after)) ∧
      ∀ value, record.field? "next_delay_ms" = some value →
        value = Json.ofNat delay.millis ∧ Pauses k delay done.result (acts after) := by
  intro done call start delay e made hp hs
  obtain ⟨breaker, told, record, htried, htold, hrecords, hreports, hfield⟩ :=
    attempt_failed call k accepted hp hs
  obtain ⟨before, after, hjournal, hdecided⟩ :=
    c.failed_sequel env transport ctx request timeout s made htried
  refine ⟨before ++ told, record, after, ?_, ?_, hreports, fun other hother hlevel hcall hattempt => ?_, ?_⟩
  · rw [show done.journal = _ from hjournal]
    simp only [List.append_assoc, List.cons_append, List.nil_append]
  · rw [acts_append, htold, List.getLast?_concat]
  · obtain ⟨j, hj⟩ := c.warning_of_call env transport ctx request timeout s hother hlevel
    have hindex := (attempt_warning hj hlevel hcall).symm.trans hattempt
    simp only [Option.some.injEq, Json.ofNat, Json.number.injEq, Json.Number.whole.injEq] at hindex
    obtain rfl : j = k := by omega
    have hj : .event other ∈ (c.attempt env transport ctx request timeout call j start).journal := hj
    rw [htried, List.mem_append] at hj
    rcases hj with hj | hj
    · cases hcall.symm.trans (hrecords other hj)
    · cases List.mem_singleton.mp hj
      rfl
  · rcases hdecided with ⟨hmay, hpauses⟩ | ⟨hmay, hends⟩
    · rw [hmay, if_pos rfl, millisField_of_lt small] at hfield
      have hr : e.isRetryable = true := (Bool.and_eq_true_iff.mp hmay).1
      rw [hfield]
      refine ⟨⟨fun _ => hpauses.not_endsWith hr, fun _ => nofun⟩, fun value hvalue => ?_⟩
      exact ⟨(Option.some.inj hvalue).symm, hpauses⟩
    · rw [hmay, if_neg Bool.false_ne_true] at hfield
      rw [hfield]
      exact ⟨⟨fun h => absurd rfl h, fun h => absurd hends h⟩, nofun⟩

/-- A target that is down. The warning about the second attempt announces 200 ms, and a wait of that time and a third
    attempt follow. -/
theorem announced_delay_law_second :
    let env : Surroundings (Simulation TransportError Unit) := Simulation.surroundings
    let transport : Transport (Simulation TransportError Unit) Unit Unit := Simulation.transport (.connection "down")
    let c : Client UInt64 :=
      { target := "target", retrier := ⟨some (.constant (.ofMillis 100))⟩, breaker := {}
        maxRetryAttempts := 2, perCallTimeout := .ofSeconds 1, telemetry := .numbering .warn
        callId := toString }
    let ctx : CallContext := ⟨none, ⟨0⟩⟩
    let s : State (Simulation TransportError Unit) UInt64 := .start c {} 0 .origin
    let done := c.executeWithin env transport ctx () c.perCallTimeout s
    let start := c.startOf env transport ctx () c.perCallTimeout s 1
    let delay := c.retrier.nextInterval 1
    (c.telemetry.accepts .warn = true ∧ delay.millis < UInt64.size ∧ .attempt 1 ∈ done.journal ∧
        c.Permits env ctx start ∧
        transport.send start.world () (bounded env ctx c.perCallTimeout start) =
          (.ok (.error (.connection "down")), start.world)) ∧
      ∃ before record after later, done.journal = before ++ .event record :: after ∧
        record.field? "next_delay_ms" = some (Json.ofNat 200) ∧
        acts after = .sleep delay :: .attempt 2 :: later := by
  intro env transport c ctx s done start delay
  have small : delay.millis < UInt64.size := by decide +kernel
  have made : .attempt 1 ∈ done.journal := mem_attemptIndices.mp (by decide +kernel)
  have permits : c.Permits env ctx start := ⟨⟨by decide +kernel, by decide +kernel⟩, by decide +kernel⟩
  have fails : transport.send start.world () (bounded env ctx c.perCallTimeout start) =
      (.ok (.error (.connection "down")), start.world) := rfl
  have returns : done.result = .ok (.error (.exhausted 3 (.ofMillis 200) (.transport "down"))) :=
    eq_of_failure? (by decide +kernel)
  have hmillis : delay.millis = 200 := by decide +kernel
  have hwait : (Retrier.waitEntries delay : List (Entry Unit)) = [.sleep delay] := if_neg (by decide +kernel)
  obtain ⟨before, record, after, hjournal, -, -, -, hnamed, hvalue⟩ :=
    announced_delay_law c env transport ctx () c.perCallTimeout s rfl small made permits fails
  -- The call ends with its third attempt and not with the second.
  have hgoes : record.field? "next_delay_ms" ≠ none := by
    refine hnamed.mpr fun hends => ?_
    rw [returns] at hends
    generalize acts after = rest at hends
    cases hends
  obtain ⟨value, hfield⟩ := Option.ne_none_iff_exists'.mp hgoes
  obtain ⟨rfl, hpauses⟩ := hvalue value hfield
  rw [returns] at hpauses
  generalize hrest : acts after = rest at hpauses
  cases hpauses with
  | waited later =>
    rw [hwait] at hrest
    exact ⟨⟨rfl, small, made, permits, fails⟩, before, record, after, later, hjournal, hmillis ▸ hfield,
      hrest⟩
  | refused he => rcases he with he | he <;> cases he

end Client
end Resilience
