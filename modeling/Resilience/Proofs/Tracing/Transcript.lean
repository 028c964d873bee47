import Resilience.Proofs.Client.Session
import Resilience.Proofs.Client.Telemetry
import Resilience.Proofs.Tracing.Bookkeeping

/-! What a subscriber sees of the spans of a client. The spans in a client's journal are requests to the sink behind
    its telemetry, and the transcript of the journal shows of them what a run shows that serves these requests
    (`session_served`). Every span that a journal starts is shown as new once, with what was said of it
    (`news_transcript`). -/

namespace Resilience

variable {σ τ ρ α : Type}

namespace Tracing

/-- What an entry asked of the sink, if it is about a span. -/
def request? : Entry ρ → Option Request
  | .spanStarted _ name fields => some (.start name fields)
  | .spanEnded id status => some (.finish id status)
  | _ => none

def requests (journal : List (Entry ρ)) : List Request := journal.filterMap request?

theorem requests_append (first rest : List (Entry ρ)) :
    requests (first ++ rest) = requests first ++ requests rest := List.filterMap_append

/-- What a transcript shows to the subscriber. -/
def shown (transcript : List (Entry ρ ⊕ Signal)) : List Signal := transcript.filterMap Sum.getRight?

theorem shown_transcript_cons (least : Level) (s : Sink) (e : Entry ρ) (journal : List (Entry ρ)) :
    shown (transcript least s (e :: journal)) =
      (signals least s e).1 ++ shown (transcript least (signals least s e).2 journal) := by
  have hsent (sent : List Signal) : (sent.map .inr : List (Entry ρ ⊕ Signal)).filterMap Sum.getRight? = sent := by
    induction sent with
    | nil => rfl
    | cons seen sent ih => exact congrArg (seen :: ·) ih
  have hentry : (if e.isTelemetry then [] else [.inl e] : List (Entry ρ ⊕ Signal)).filterMap Sum.getRight? = [] := by
    split <;> rfl
  show List.filterMap _ (_ ++ _ ++ _) = _
  rw [List.filterMap_append, List.filterMap_append, hentry, hsent]
  rfl

/-! ### New spans -/

/-- What is said of a span that starts: its number, its operation and its fields. -/
structure News where
  span : Json
  operation : Json
  fields : Json

/-- What a signal says of a new span, under the keys of its fields. -/
def Signal.news? : Signal → Option News
  | .spanNew _ _ _ fields => do
    return ⟨← Json.find? "span_id" fields, ← Json.find? "operation" fields, ← Json.find? "fields" fields⟩
  | _ => none

def started? : Entry ρ → Option News
  | .spanStarted id name fields => some ⟨Json.ofNat id.value.toNat, .text name, .text fields.compact⟩
  | _ => none

/-- A subscriber is shown the spans that a journal starts, in order and each once. -/
theorem news_transcript (least : Level) (s : Sink) (journal : List (Entry ρ)) :
    (shown (transcript least s journal)).filterMap Signal.news? = journal.filterMap started? := by
  induction journal generalizing s with
  | nil => rfl
  | cons e journal ih =>
    have hnews : (signals least s e).1.filterMap Signal.news? = (started? e).toList := by
      cases e with
      | spanStarted => rfl
      | spanEnded id status =>
        show (s.finishSignals id status).filterMap Signal.news? = []
        rw [Sink.finishSignals_eq]
        split
        · cases status <;> rfl
        · rfl
      | event e =>
        show (logged least e).filterMap Signal.news? = []
        unfold logged
        split <;> rfl
      | log | attempt | sleep | dispatch | transition | observed | refused => rfl
    rw [shown_transcript_cons, List.filterMap_append, hnews, ih]
    cases h : started? e <;> simp [h]

/-! ### Serving a journal -/

/-- Whether a signal is about a span. What else a subscriber sees are records, which stand in no span. -/
def Signal.isOfSpan : Signal → Bool
  | .event _ _ _ spans => !spans.isEmpty
  | _ => true

def spanSignals (transcript : List (Entry ρ ⊕ Signal)) : List Signal := (shown transcript).filter Signal.isOfSpan

/-- The spans of a journal lead from one sink to another, and each has the number that the sink gave it. -/
inductive Kept : Sink → List (Entry ρ) → Sink → Prop
  | nil (s : Sink) : Kept s [] s
  | start {s t : Sink} {journal : List (Entry ρ)} (name : String) (fields : Json) (h : Kept s.start.2 journal t) :
    Kept s (.spanStarted s.start.1 name fields :: journal) t
  | finish {s t : Sink} {journal : List (Entry ρ)} (id : SpanId) (status : SpanStatus)
    (h : Kept (s.finish id) journal t) : Kept s (.spanEnded id status :: journal) t
  | other {s t : Sink} {journal : List (Entry ρ)} {e : Entry ρ} (he : request? e = none) (h : Kept s journal t) :
    Kept s (e :: journal) t

section
variable {s t u : Sink} {first rest journal : List (Entry ρ)}

theorem Kept.append (h : Kept s first t) (hrest : Kept t rest u) : Kept s (first ++ rest) u := by
  induction h with
  | nil => exact hrest
  | start name fields _ ih => exact .start name fields (ih hrest)
  | finish id status _ ih => exact .finish id status (ih hrest)
  | other he _ ih => exact .other he (ih hrest)

theorem Kept.of_requests (h : requests journal = []) : Kept s journal s := by
  induction journal with
  | nil => exact .nil s
  | cons e journal ih =>
    have hall := List.filterMap_eq_nil_iff.mp h
    exact .other (hall e (List.mem_cons_self ..))
      (ih (List.filterMap_eq_nil_iff.mpr fun e he => hall e (List.mem_cons_of_mem _ he)))

theorem spanSignals_transcript_cons (least : Level) (s : Sink) (e : Entry ρ) (journal : List (Entry ρ)) :
    spanSignals (transcript least s (e :: journal)) =
      (signals least s e).1.filter Signal.isOfSpan ++ spanSignals (transcript least (signals least s e).2 journal) := by
  unfold spanSignals
  rw [shown_transcript_cons, List.filter_append]

theorem finishSignals_isOfSpan (s : Sink) (id : SpanId) (status : SpanStatus) :
    (s.finishSignals id status).filter Signal.isOfSpan = s.finishSignals id status := by
  rw [Sink.finishSignals_eq]
  split
  · cases status <;> rfl
  · rfl

/-- An entry that asks nothing of the sink shows nothing of spans. -/
theorem signals_of_request? {e : Entry ρ} (least : Level) (s : Sink) (he : request? e = none) :
    (signals least s e).1.filter Signal.isOfSpan = [] ∧ (signals least s e).2 = s := by
  cases e with
  | spanStarted | spanEnded => cases he
  | event e =>
    refine ⟨?_, rfl⟩
    show (logged least e).filter Signal.isOfSpan = []
    unfold logged
    split <;> rfl
  | log | attempt | sleep | dispatch | transition | observed | refused => exact ⟨rfl, rfl⟩

/-- A run that serves what a journal asks comes to the same sink, and what it shows is what the transcript shows
    of spans. -/
theorem Kept.served (h : Kept s journal t) (least : Level) (r : Run) (hr : r.sink = s) :
    let served := (requests journal).foldl Run.serve r
    served.sink = t ∧ served.seen = r.seen ++ spanSignals (transcript least s journal) := by
  induction h generalizing r with
  | nil => exact ⟨hr, (List.append_nil _).symm⟩
  | start name fields _ ih =>
    subst hr
    obtain ⟨hsink, hseen⟩ := ih (r.serve (.start name fields)) rfl
    refine ⟨hsink, hseen.trans ?_⟩
    rw [spanSignals_transcript_cons]
    exact List.append_assoc ..
  | finish id status _ ih =>
    subst hr
    obtain ⟨hsink, hseen⟩ := ih (r.serve (.finish id status)) rfl
    refine ⟨hsink, hseen.trans ?_⟩
    have hends : (signals least r.sink (.spanEnded id status : Entry ρ)).1.filter Signal.isOfSpan =
        r.sink.finishSignals id status := finishSignals_isOfSpan ..
    rw [spanSignals_transcript_cons, hends]
    exact List.append_assoc ..
  | @other s _ journal e he _ ih =>
    obtain ⟨hnothing, hsink⟩ := signals_of_request? least s he
    have hrequests : requests (e :: journal) = requests journal := List.filterMap_cons_none he
    rw [hrequests, spanSignals_transcript_cons, hnothing, hsink]
    exact ih r hr

end
end Tracing

/-! ### Clients -/

namespace Client
open Tracing

theorem requests_entry (t : Telemetry τ) (e : LogEvent) : requests (t.entry e : List (Entry ρ)) = [] := by
  unfold Telemetry.entry
  split <;> rfl

theorem requests_record (c : Client τ) (call : Call) (level : Level) (message : String)
    (fields : List (String × Json)) : requests (c.record call level message fields : List (Entry ρ)) = [] :=
  requests_entry ..

theorem requests_settle {β : Type} (c : Client τ) (step : Breaker.Step β) :
    requests (c.settle step : Breaker.State × List (Entry ρ)).2 = [] := by
  rcases c.settle_inv (ρ := ρ) step with h | ⟨level, text, t, h⟩
  · rw [h]
    rfl
  · rw [h, announce_eq]
    show requests (_ ++ _) = []
    rw [requests_append, requests_entry]
    split <;> rfl

theorem requests_conclusion (c : Client τ) (call : Call) (result : Except CallError α) :
    requests (c.conclusion call result : List (Entry ρ) × SpanStatus).1 = [] := by
  cases result with
  | ok value => rfl
  | error e => exact requests_record ..

section
variable (c : Client τ) (env : Surroundings σ) (transport : Transport σ ρ α) (ctx : CallContext) (request : ρ)

/-- Attempts leave the spans alone. -/
theorem requests_attempt (timeout : Duration) (call : Call) (k : Nat) (s : Stage σ) :
    requests (c.attempt env transport ctx request timeout call k s).journal = [] := by
  have h := attempted c env transport ctx request timeout call k s
  have hdispatch : requests [dispatchEntry env ctx request timeout s] = [] := rfl
  generalize c.attempt env transport ctx request timeout call k s = tried at h
  cases h with
  | cancelled | expired => rfl
  | refused =>
    rw [requests_append, requests_append, requests_settle, requests_record]
    split <;> rfl
  | lost =>
    rw [requests_append, requests_settle, hdispatch]
    rfl
  | sent =>
    rw [requests_append, requests_append, requests_append, requests_settle, requests_settle, hdispatch]
    split
    · rfl
    · exact requests_record ..

theorem requests_looped (timeout : Duration) (s : State σ τ) :
    requests (c.looped env transport ctx request timeout s).journal = [] := by
  have hloop : requests (c.looped env transport ctx request timeout s).journal = _ :=
    looped_filterMap (fun _ _ => rfl) (fun _ => rfl) (fun _ => rfl) c env transport ctx request timeout s
  rw [hloop]
  exact List.flatMap_eq_nil_iff.mpr fun start _ => c.requests_attempt ..

/-- The entries of a call lead from the sink before it to the sink after it, also if the call never returns. -/
theorem executeWithin_kept {sink : τ → Sink} (h : SpansIn c.telemetry sink) (timeout : Duration)
    (s : State σ τ) :
    let done := c.executeWithin env transport ctx request timeout s
    Kept (sink s.spans) done.journal (sink done.state.spans) := by
  have hcalled := c.called env transport ctx request timeout s
  have hloop := c.requests_looped env transport ctx request timeout s
  have hspan : (c.opened timeout s).1 = (sink s.spans).start.1 := h.id ..
  have hstarted : sink (c.opened timeout s).2 = (sink s.spans).start.2 := h.start ..
  have hopening : Kept (sink s.spans) ([c.openingEntry timeout s] : List (Entry ρ)) (sink s.spans).start.2 := by
    rw [openingEntry, hspan]
    exact .start _ _ (.nil _)
  generalize c.executeWithin env transport ctx request timeout s = done at hcalled ⊢
  cases hcalled with
  | lost hl =>
    rw [hl] at hloop
    dsimp only
    rw [hstarted]
    exact hopening.append (.of_requests hloop)
  | returned hl hlast =>
    rw [hl] at hloop
    subst hlast
    dsimp only
    rw [h.finish, hstarted, hspan]
    exact ((hopening.append (.of_requests hloop)).append (.of_requests (c.requests_conclusion ..))).append
      (.finish _ _ (.nil _))

theorem call_kept {sink : τ → Sink} (h : SpansIn c.telemetry sink) (timeout : Option Duration)
    (s : State σ τ) :
    let done := c.call env transport ctx request timeout s
    Kept (sink s.spans) done.journal (sink done.state.spans) := by
  cases timeout with
  | none => exact c.executeWithin_kept env transport ctx request h c.perCallTimeout s
  | some timeout => exact c.executeWithin_kept env transport ctx request h timeout s

theorem session_kept {sink : τ → Sink} (h : SpansIn c.telemetry sink) (actions : List (Action σ ρ))
    (s : State σ τ) :
    let run := c.session env transport actions s
    Kept (sink s.spans) run.journal (sink run.state.spans) := by
  induction actions generalizing s with
  | nil => exact .nil _
  | cons action rest ih =>
    cases action with
    | call ctx request timeout => exact (c.call_kept env transport ctx request h timeout s).append (ih _)
    | pass change => exact ih { s with stage := ⟨change s.stage.world, s.stage.breaker⟩ }

/-- What a client asks of the sink behind its telemetry is served as in a run of requests: the run comes to the
    sink that the client leaves, and it shows what the transcript of the client's journal shows of spans. -/
theorem session_served {sink : τ → Sink} (h : SpansIn c.telemetry sink) (least : Level)
    (actions : List (Action σ ρ)) (s : State σ τ) :
    let run := c.session env transport actions s
    let served := (requests run.journal).foldl Run.serve { sink := sink s.spans }
    served.sink = sink run.state.spans ∧
      served.seen = spanSignals (transcript least (sink s.spans) run.journal) :=
  (c.session_kept env transport h actions s).served least { sink := sink s.spans } rfl

end
end Client
end Resilience
