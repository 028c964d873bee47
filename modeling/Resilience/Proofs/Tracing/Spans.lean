import Resilience.Tracing.Sink

/-! The spans of a sink. A sink numbers its spans in the order in which they are started, so the next number is
    new as long as the numbers last (`Reached.next_not_opened`), and a span that is started and then ended
    leaves the other spans as they were. -/

namespace Resilience.Tracing

/-- A sink in which `n` spans have been started so far. Ends may have come with any number, also with one that
    was never given out. -/
inductive Sink.Reached : Nat → Sink → Prop
  | fresh : Reached 0 {}
  | start {n : Nat} {s : Sink} (h : Reached n s) : Reached (n + 1) s.start.2
  | finish {n : Nat} {s : Sink} (h : Reached n s) (id : SpanId) : Reached n (s.finish id)

/-- The telemetry leaves its spans in a sink, which `sink` finds in what it remembers. -/
structure SpansIn {τ : Type} (t : Telemetry τ) (sink : τ → Sink) : Prop where
  id : ∀ s name fields, (t.startSpan s name fields).1 = (sink s).start.1
  start : ∀ s name fields, sink (t.startSpan s name fields).2 = (sink s).start.2
  finish : ∀ s id status, sink (t.endSpan s id status) = (sink s).finish id

theorem telemetry_spansIn (least : Level) : SpansIn (telemetry least) fun s => s where
  id _ _ _ := rfl
  start _ _ _ := rfl
  finish _ _ _ := rfl

namespace Sink

variable {n : Nat} {s : Sink}

theorem Reached.next (h : Reached n s) : s.next = UInt64.ofNat (n + 1) := by
  induction h with
  | fresh => rfl
  | start _ ih => exact (congrArg (· + 1) ih).trans (UInt64.ofNat_add _ 1).symm
  | finish _ _ ih => exact ih

/-- Open spans have the numbers of spans that were started. -/
theorem Reached.opened_bounds (h : Reached n s) (hn : n < UInt64.size) :
    ∀ id ∈ s.opened, 0 < id.toNat ∧ id.toNat ≤ n := by
  induction h with
  | fresh => exact nofun
  | @start n s h ih =>
    intro id hid
    have hlt : n < UInt64.size := by omega
    rcases List.mem_cons.mp hid with rfl | hid
    · rw [h.next, UInt64.toNat_ofNat_of_lt' hn]
      omega
    · have := ih hlt id (List.mem_of_mem_erase hid)
      omega
  | finish _ _ ih => exact fun id hid => ih hn id (List.mem_of_mem_erase hid)

theorem Reached.next_not_opened (h : Reached n s) (hn : n < UInt64.size) : s.next ∉ s.opened := by
  intro hmem
  obtain ⟨hpos, hle⟩ := h.opened_bounds hn _ hmem
  rw [h.next, UInt64.toNat_ofNat'] at hpos hle
  have hsize : UInt64.size = 18446744073709551616 := rfl
  omega

/-- After the end of a span that was started last, the open spans are those before it, but for one whose
    number it took over. -/
theorem opened_start_finish (s : Sink) : (s.start.2.finish s.start.1).opened = s.opened.erase s.next :=
  List.erase_cons_head ..

theorem Reached.openCount_start_finish (h : Reached n s) (hn : n < UInt64.size) :
    (s.start.2.finish s.start.1).openCount = s.openCount := by
  unfold openCount
  rw [opened_start_finish, List.erase_of_not_mem (h.next_not_opened hn)]

end Sink
end Resilience.Tracing
