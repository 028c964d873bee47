import Resilience.Journal

/-! Where a client's structured records and trace spans go. A client only learns which severities are
    wanted and which identifiers its spans have; it never sees what becomes of them. -/

namespace Resilience

/-- A logger and a span sink; `τ` is what the sink remembers. -/
structure Telemetry (τ : Type) where
  /-- Whether the logger wants records of a severity. -/
  accepts : Level → Bool
  startSpan : τ → String → Json → SpanId × τ
  endSpan : τ → SpanId → SpanStatus → τ

namespace Telemetry

/-- Wants no records and gives all spans the same identifier. -/
def silent : Telemetry Unit where
  accepts _ := false
  startSpan _ _ _ := (⟨0⟩, ())
  endSpan _ _ _ := ()

/-- Wants records from a severity on and numbers spans from one; remembers the last number. -/
def numbering (least : Level) : Telemetry UInt64 where
  accepts level := level.reaches least
  startSpan last _ _ := (⟨last + 1⟩, last + 1)
  endSpan last _ _ := last

/-- The journal entry for a record, if its severity is wanted. -/
def entry {τ ρ : Type} (t : Telemetry τ) (e : LogEvent) : List (Entry ρ) :=
  if t.accepts e.level then [.event e] else []

end Telemetry
end Resilience
