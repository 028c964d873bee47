import Resilience.Proofs.Tracing.Spans

/-! What a sink makes of any row of requests. A run keeps beside the sink what happened to it and what a
    subscriber saw. The open spans of the sink are those that were started and have not ended since, and of the
    ends that come for a span only the first after its start is seen. -/

namespace Resilience

theorem SpanId.value_inj {id other : SpanId} : id.value = other.value ↔ id = other := by
  cases id
  cases other
  simp

namespace Tracing

/-- What can be asked of a sink. -/
inductive Request
  | start (operation : String) (fields : Json)
  /-- The number need not be that of a span. -/
  | finish (id : SpanId) (status : SpanStatus)

/-- What happened to a sink, as those who use it know it. -/
inductive SpanEvent
  | started (id : SpanId)
  | ended (id : SpanId) (status : SpanStatus)

structure Run where
  sink : Sink := {}
  events : List SpanEvent := []
  seen : List Signal := []

def Run.serve (r : Run) : Request → Run
  | .start operation fields =>
    let (id, sink) := r.sink.start
    { sink, events := r.events ++ [.started id], seen := r.seen ++ Sink.startSignals id operation fields }
  | .finish id status =>
    { sink := r.sink.finish id
      events := r.events ++ [.ended id status]
      seen := r.seen ++ r.sink.finishSignals id status }

/-- The run in which a new sink serves these requests. -/
def Run.of (requests : List Request) : Run := requests.foldl Run.serve {}

/-! ### Events -/

def SpanEvent.start? : SpanEvent → Option SpanId
  | .started id => some id
  | .ended .. => none

def SpanEvent.endOf? (id : SpanId) : SpanEvent → Option SpanStatus
  | .started _ => none
  | .ended other status => if other = id then some status else none

/-- The numbers that were given out, in order. -/
def issued (events : List SpanEvent) : List SpanId := events.filterMap SpanEvent.start?

/-- How a span ended: the status of the first end with its number after its start. -/
def ending? (id : SpanId) : List SpanEvent → Option SpanStatus
  | [] => none
  | .started other :: later => if other = id then later.findSome? (SpanEvent.endOf? id) else ending? id later
  | .ended .. :: later => ending? id later

/-- The spans without an end after their start. -/
def unended (events : List SpanEvent) : List SpanId :=
  (issued events).filter fun id => (ending? id events).isNone

section
variable {events : List SpanEvent} {id other : SpanId} {status : SpanStatus}

theorem mem_unended : id ∈ unended events ↔ id ∈ issued events ∧ ending? id events = none := by
  rw [unended, List.mem_filter, Option.isNone_iff_eq_none]

theorem issued_concat (e : SpanEvent) : issued (events ++ [e]) = issued events ++ e.start?.toList := by
  rw [issued, List.filterMap_append]
  cases e <;> rfl

theorem ending?_eq_none (h : id ∉ issued events) : ending? id events = none := by
  fun_induction ending? id events with
  | case1 => rfl
  | case2 => exact absurd (List.mem_cons_self ..) h
  | case3 other later hother ih => exact ih fun hid => h (List.mem_cons_of_mem _ hid)
  | case4 other status later ih => exact ih h

/-- What comes last can only end a span that was started and has not ended before. -/
theorem ending?_concat (e : SpanEvent) :
    ending? id (events ++ [e]) = (ending? id events).or (if id ∈ issued events then e.endOf? id else none) := by
  fun_induction ending? id events with
  | case1 =>
    cases e with
    | started other =>
      rw [List.nil_append, ending?]
      split <;> rfl
    | ended => rfl
  | case2 later =>
    have hid : id ∈ issued (.started id :: later) := List.mem_cons_self ..
    rw [List.cons_append, ending?, if_pos rfl, if_pos hid, List.findSome?_append]
    cases h : e.endOf? id <;> simp [h]
  | case3 other later hother ih =>
    have hid : id ∈ issued (.started other :: later) ↔ id ∈ issued later := by
      simp [issued, SpanEvent.start?, Ne.symm hother]
    rw [List.cons_append, ending?, if_neg hother, ih]
    simp only [hid]
  | case4 other status later ih => exact ih

theorem ending?_started : ending? id (events ++ [.started other]) = ending? id events := by
  rw [ending?_concat, SpanEvent.endOf?, ite_self, Option.or_none]

theorem unended_started (h : other ∉ issued events) :
    unended (events ++ [.started other]) = unended events ++ [other] := by
  simp only [unended, issued_concat, ending?_started, SpanEvent.start?, Option.toList, List.filter_append]
  simp [ending?_eq_none h]

theorem unended_ended :
    unended (events ++ [.ended other status]) = (unended events).filter (· ≠ other) := by
  have hissued : issued (events ++ [.ended other status]) = issued events := by
    rw [issued_concat]
    exact List.append_nil _
  rw [unended, hissued, unended, List.filter_filter]
  refine List.filter_congr fun id hid => ?_
  rw [ending?_concat, if_pos hid, SpanEvent.endOf?]
  by_cases h : id = other
  · simp [h]
  · simp [h, Ne.symm h]

end

/-! ### Signals -/

/-- What a subscriber sees of the end of a span: its status, what went wrong if something did, and last that it
    is closed. -/
def closing (id : SpanId) : SpanStatus → List Signal
  | .ok => [.spanRecord id.value [("status", .text "ok")], .spanClose id.value]
  | .error message =>
    [.spanRecord id.value [("status", .text "error")],
     .event .debug callTarget [("error", .text message), ("message", .text "span failed")] [id.value],
     .spanClose id.value]

/-- Whether a signal belongs to the end of a span. -/
def Signal.isOfEnd (id : SpanId) : Signal → Bool
  | .spanNew .. => false
  | .spanRecord value _ => value = id.value
  | .spanClose value => value = id.value
  | .event _ _ _ spans => spans.contains id.value

theorem closing_filter (id other : SpanId) (status : SpanStatus) :
    (closing other status).filter (·.isOfEnd id) = if other = id then closing other status else [] := by
  by_cases h : other = id
  · subst h
    cases status <;> simp [closing, Signal.isOfEnd]
  · have hvalue : other.value ≠ id.value := fun hvalue => h (SpanId.value_inj.mp hvalue)
    cases status <;> simp [closing, Signal.isOfEnd, h, hvalue, Ne.symm hvalue]

theorem Sink.finishSignals_eq (s : Sink) (id : SpanId) (status : SpanStatus) :
    s.finishSignals id status = if id.value ∈ s.opened then closing id status else [] := by
  have hmem : s.opened.contains id.value = true ↔ id.value ∈ s.opened := List.contains_iff_mem
  simp only [finishSignals, hmem]
  cases status <;> rfl

/-! ### Numbers -/

/-- The number of a span before whose start `n` others were started. -/
def number (n : Nat) : SpanId := ⟨UInt64.ofNat (n + 1)⟩

theorem number_inj {m n : Nat} (hm : m < UInt64.size) (hn : n < UInt64.size) (h : number m = number n) : m = n := by
  have hnat : (UInt64.ofNat (m + 1)).toNat = (UInt64.ofNat (n + 1)).toNat := congrArg (·.value.toNat) h
  rw [UInt64.toNat_ofNat', UInt64.toNat_ofNat'] at hnat
  have hsize : UInt64.size = 18446744073709551616 := rfl
  omega

theorem nodup_numbers {n : Nat} (hn : n ≤ UInt64.size) : ((List.range n).map number).Nodup := by
  rw [List.Nodup, List.pairwise_map]
  refine List.nodup_range.imp_of_mem fun {j k} hj hk hne hnumber => hne ?_
  exact number_inj (Nat.lt_of_lt_of_le (List.mem_range.mp hj) hn)
    (Nat.lt_of_lt_of_le (List.mem_range.mp hk) hn) hnumber

/-! ### Runs -/

/-- A run in which `n` spans have been started, while the numbers last. -/
structure Run.Sound (n : Nat) (r : Run) : Prop where
  reached : r.sink.Reached n
  issued : issued r.events = (List.range n).map number
  opened : r.sink.opened = ((unended r.events).map SpanId.value).reverse
  seen : ∀ id, r.seen.filter (·.isOfEnd id) = (ending? id r.events).elim [] (closing id)

namespace Run.Sound
variable {n : Nat} {r : Run}

theorem new : Sound 0 {} := ⟨.fresh, rfl, rfl, fun _ => rfl⟩

theorem start_eq (h : r.Sound n) : r.sink.start.1 = number n := SpanId.value_inj.mp h.reached.next

theorem nodup (h : r.Sound n) (hn : n < UInt64.size) : (Tracing.issued r.events).Nodup := by
  rw [h.issued]
  exact nodup_numbers (Nat.le_of_lt hn)

theorem number_not_issued (h : r.Sound n) (hn : n < UInt64.size) : number n ∉ Tracing.issued r.events := by
  rw [h.issued, List.mem_map]
  rintro ⟨k, hk, hnumber⟩
  have hlt : k < n := List.mem_range.mp hk
  exact Nat.ne_of_lt hlt (number_inj (Nat.lt_trans hlt hn) hn hnumber)

theorem value_mem_opened (h : r.Sound n) {id : SpanId} : id.value ∈ r.sink.opened ↔ id ∈ unended r.events := by
  rw [h.opened, List.mem_reverse, List.mem_map]
  constructor
  · rintro ⟨other, hmem, hvalue⟩
    exact SpanId.value_inj.mp hvalue ▸ hmem
  · exact fun hmem => ⟨id, hmem, rfl⟩

theorem nodup_opened (h : r.Sound n) (hn : n < UInt64.size) : r.sink.opened.Nodup := by
  rw [h.opened, List.Nodup, List.pairwise_reverse, List.pairwise_map]
  exact ((h.nodup hn).filter _).imp fun hne hvalue => hne (SpanId.value_inj.mp hvalue.symm)

theorem start (h : r.Sound n) (hn : n < UInt64.size) (operation : String) (fields : Json) :
    (r.serve (.start operation fields)).Sound (n + 1) where
  reached := h.reached.start
  issued := by
    show Tracing.issued (r.events ++ [.started r.sink.start.1]) = _
    rw [issued_concat, h.issued, h.start_eq, List.range_succ, List.map_append]
    rfl
  opened := by
    show r.sink.next :: r.sink.opened.erase r.sink.next = _
    rw [List.erase_of_not_mem (h.reached.next_not_opened hn), h.opened]
    show _ = ((unended (r.events ++ [.started r.sink.start.1])).map SpanId.value).reverse
    have hfresh : r.sink.start.1 ∉ Tracing.issued r.events := h.start_eq ▸ h.number_not_issued hn
    rw [unended_started hfresh, List.map_append, List.reverse_append]
    rfl
  seen id := by
    show (r.seen ++ _).filter _ = (ending? id (r.events ++ [.started r.sink.start.1])).elim [] (closing id)
    rw [ending?_started, ← h.seen, List.filter_append]
    exact List.append_nil _

/-- A span that is open gets its status and is closed; for any other number nothing happens. -/
theorem finish_seen (h : r.Sound n) (id : SpanId) (status : SpanStatus) :
    (r.serve (.finish id status)).seen = r.seen ++ if id ∈ unended r.events then closing id status else [] := by
  show r.seen ++ _ = _
  simp only [Sink.finishSignals_eq, h.value_mem_opened]

theorem finish (h : r.Sound n) (hn : n < UInt64.size) (id : SpanId) (status : SpanStatus) :
    (r.serve (.finish id status)).Sound n where
  reached := h.reached.finish id
  issued := by
    show Tracing.issued (r.events ++ [.ended id status]) = _
    rw [issued_concat, ← h.issued]
    exact List.append_nil _
  opened := by
    show r.sink.opened.erase id.value = ((unended (r.events ++ [.ended id status])).map SpanId.value).reverse
    rw [(h.nodup_opened hn).erase_eq_filter, h.opened, List.filter_reverse, List.filter_map, unended_ended]
    congr 3
    funext other
    rw [Bool.eq_iff_iff]
    simp [SpanId.value_inj]
  seen other := by
    show (r.serve (.finish id status)).seen.filter _ =
      (ending? other (r.events ++ [.ended id status])).elim [] (closing other)
    rw [h.finish_seen, List.filter_append, h.seen, ending?_concat, SpanEvent.endOf?]
    by_cases hother : id = other
    · subst hother
      by_cases hunended : id ∈ unended r.events
      · obtain ⟨hissued, hending⟩ := mem_unended.mp hunended
        simp [hunended, hissued, hending, closing_filter]
      · rw [if_neg hunended, List.filter_nil, List.append_nil]
        by_cases hissued : id ∈ Tracing.issued r.events
        · -- The span has ended before, and its first end stands.
          cases hending : ending? id r.events with
          | none => exact absurd (mem_unended.mpr ⟨hissued, hending⟩) hunended
          | some first => rfl
        · rw [if_neg hissued, Option.or_none]
    · have hfilter : (closing id status).filter (·.isOfEnd other) = [] := by rw [closing_filter, if_neg hother]
      split <;> simp [hfilter]

end Run.Sound

/-- Serving requests starts at most as many spans as there are requests. -/
theorem Run.Sound.after {n : Nat} {r : Run} (h : r.Sound n) (requests : List Request)
    (room : n + requests.length < UInt64.size) :
    ∃ m, m ≤ n + requests.length ∧ (requests.foldl Run.serve r).Sound m := by
  induction requests generalizing n r with
  | nil => exact ⟨n, Nat.le_refl _, h⟩
  | cons request requests ih =>
    rw [List.length_cons] at room ⊢
    cases request with
    | start operation fields =>
      obtain ⟨m, hm, hrest⟩ := ih (h.start (by omega) operation fields) (by omega)
      exact ⟨m, by omega, hrest⟩
    | finish id status =>
      obtain ⟨m, hm, hrest⟩ := ih (h.finish (by omega) id status) (by omega)
      exact ⟨m, by omega, hrest⟩

theorem Run.sound_of {requests : List Request} (h : requests.length < UInt64.size) :
    ∃ n < UInt64.size, (Run.of requests).Sound n := by
  obtain ⟨n, hn, hsound⟩ := Sound.new.after requests (by omega)
  exact ⟨n, by omega, hsound⟩

/-- The books of a sink. Spans that are started get numbers of their own. Of what a subscriber sees, that which
    belongs to the end of a span is its closing with the status of the first end after its start, once, and
    nothing if there is none. An end closes a span that was started and has not ended since; any other end changes
    nothing and is not seen. The open spans are as many as were started and have not ended since. -/
theorem bookkeeping_law (requests : List Request) (h : requests.length < UInt64.size) :
    let r := Run.of requests
    (issued r.events).Nodup ∧
      (∀ id, r.seen.filter (·.isOfEnd id) = (ending? id r.events).elim [] (closing id)) ∧
      (∀ id status, let next := r.serve (.finish id status)
        (id ∈ issued r.events ∧ ending? id r.events = none → next.seen = r.seen ++ closing id status) ∧
          (id ∉ issued r.events ∨ ending? id r.events ≠ none →
            next.sink = r.sink ∧ next.seen = r.seen)) ∧
      r.sink.openCount = (unended r.events).length := by
  intro r
  obtain ⟨n, hn, hr⟩ := Run.sound_of h
  refine ⟨hr.nodup hn, hr.seen, fun id status => ⟨fun hopen => ?_, fun hother => ?_⟩, ?_⟩
  · rw [hr.finish_seen, if_pos (mem_unended.mpr hopen)]
  · have hunended : id ∉ unended r.events := by
      rw [mem_unended]
      exact fun ⟨hissued, hending⟩ => hother.elim (· hissued) (· hending)
    have hopened : id.value ∉ r.sink.opened := fun hmem => hunended (hr.value_mem_opened.mp hmem)
    constructor
    · show { r.sink with opened := r.sink.opened.erase id.value } = r.sink
      rw [List.erase_of_not_mem hopened]
    · rw [hr.finish_seen, if_neg hunended, List.append_nil]
  · show r.sink.opened.length = _
    rw [hr.opened, List.length_reverse, List.length_map]

/-- Ends that come before their span is started, twice and with a number that no span has. -/
theorem bookkeeping_law_stray_ends :
    let requests : List Request :=
      [.finish ⟨2⟩ .ok, .start "call" .null, .start "call" .null, .finish ⟨2⟩ (.error "boom"),
       .finish ⟨2⟩ .ok, .finish ⟨999⟩ .ok]
    let r := Run.of requests
    requests.length < UInt64.size ∧ r.seen.filter (·.isOfEnd ⟨2⟩) = closing ⟨2⟩ (.error "boom") ∧
      r.seen.filter (·.isOfEnd ⟨1⟩) = [] ∧ (r.serve (.finish ⟨2⟩ .ok)).sink = r.sink ∧
      (r.serve (.finish ⟨1⟩ .ok)).seen = r.seen ++ closing ⟨1⟩ .ok ∧ r.sink.openCount = 1 := by
  intro requests r
  obtain ⟨-, hseen, hfinish, hcount⟩ := bookkeeping_law requests (by decide)
  exact ⟨by decide, hseen ⟨2⟩, hseen ⟨1⟩, ((hfinish ⟨2⟩ .ok).2 (.inr nofun)).1,
    (hfinish ⟨1⟩ .ok).1 ⟨List.mem_cons_self .., rfl⟩, hcount⟩

end Tracing
end Resilience
