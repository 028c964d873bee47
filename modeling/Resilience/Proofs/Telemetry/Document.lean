import Resilience.Proofs.Json.Canonical
import Resilience.Telemetry.Document

/-! Log records, severities and what spans leave are read back from their documents. The context of a record is
    whatever was put there; it comes back in the form in which the document was kept. -/

namespace Resilience

open Json (Keeps Setting Describes)

variable {form : Json → Json}

theorem Level.ofDocument_toDocument (hform : Keeps form) (l : Level) : ofDocument (form l.toDocument) = .ok l := by
  rw [toDocument, hform.text]
  cases l <;> rfl

theorem SpanId.ofDocument_toDocument (hform : Keeps form) (id : SpanId) :
    ofDocument (form id.toDocument) = .ok id := by
  rw [ofDocument, toDocument, hform.count64]
  rfl

theorem SpanStatus.ofDocument_toDocument (hform : Keeps form) (status : SpanStatus) :
    ofDocument (form status.toDocument) = .ok status := by
  cases status with
  | ok =>
    rw [toDocument, hform.text]
    rfl
  | error message =>
    rw [toDocument, hform.single, hform.text]
    rfl

namespace LogEvent

/-- The fields of a record as settings. A time is read as nothing. -/
def settings : List (Setting LogEvent) :=
  [⟨["level"], Level.ofDocument, (·.level)⟩, ⟨["message"], Json.toText, (·.message)⟩,
   ⟨["timestamp"], fun _ => .ok (), fun _ => ()⟩, ⟨["source"], Json.toOptionalText, (·.source)⟩,
   ⟨["context"], .ok, (·.context)⟩, ⟨["correlation_id"], Json.toOptionalText, (·.correlationId)⟩,
   ⟨["span_id"], Json.toOptional Json.toCount64, (·.spanId)⟩]

theorem describes : Describes settings fields where
  field_of_setting := by simp [settings, fields, Json.field]
  setting_of_field := by simp [settings, fields, Json.field]
  readBy p hp f hf v s := by
    simp only [settings, fields, List.mem_cons, List.not_mem_nil, or_false] at hp hf
    rcases hp with rfl | rfl | rfl | rfl | rfl | rfl | rfl <;>
      rcases hf with rfl | rfl | rfl | rfl | rfl | rfl | rfl <;>
      simp [Json.field, Json.map_map, Json.map_self, Json.map_ok]

theorem toDocument_eq (e : LogEvent) : e.toDocument = .object (Json.RecordField.members fields e) := rfl

theorem ofDocument_toDocument (hform : Keeps form) (e : LogEvent) :
    ofDocument (form e.toDocument) = .ok { e with context := form e.context } := by
  obtain ⟨members, hobject, hkeys, hgiven⟩ :=
    hform.written (Json.row fields e) (by simp [Json.keys_row, fields, Json.field])
  have hgiven : Json.Gives form fields e members := hgiven
  simp only [fields, Json.gives_cons, Json.gives_nil, Json.field, Option.map_some, Option.map_none, and_true] at hgiven
  have hread (start : LogEvent) : Json.RecordField.readMembers fields [] members start =
      .ok { e with context := form e.context } := by
    refine Json.readMembers_eq describes hkeys ?_ fun t ht => ?_
    · simp [settings, Setting.TakenFrom, Json.at?_key, hgiven, Level.ofDocument_toDocument hform, hform.text,
        Json.toText, hform.optionalText, hform.optionalCount64]
    · simp only [settings, List.forall_mem_cons] at ht
      cases t; cases e
      simp_all
  have hrequired : required.find? (fun name => (Json.find? name members).isNone) = none := by
    simp [required, hgiven]
  rw [toDocument_eq, Json.members_eq_written, hobject, ofDocument]
  simp only [hread, hrequired, bind, Except.bind]

end LogEvent
end Resilience
