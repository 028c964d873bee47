import Resilience.LogEvent

/-! The fields of a record that is put together one field after the other: the last value under a key counts. -/

namespace Resilience

namespace Json

theorem find?_append (key : String) (first rest : List (String × Json)) :
    find? key (first ++ rest) = (find? key first).or (find? key rest) := by
  induction first with
  | nil => rfl
  | cons member first ih =>
    simp only [List.cons_append, find?]
    split
    · rfl
    · exact ih

theorem find?_insert (key name : String) (v : Json) (members : List (String × Json)) :
    find? name (insert key v members) = if key = name then some v else find? name members := by
  induction members with
  | nil => rfl
  | cons member members ih =>
    obtain ⟨k, x⟩ := member
    unfold insert
    split
    · rename_i hk
      subst hk
      by_cases h : key = name <;> simp only [find?, h, if_true, if_false]
    · split
      · rfl
      · rename_i hk _
        rw [find?, ih, find?]
        by_cases h : k = name
        · simp only [h, if_true, if_neg (h ▸ hk)]
        · simp only [h, if_false]

end Json

namespace LogEvent

/-- Fields can be put into the record. -/
def HasFields (e : LogEvent) : Prop := e.context = .null ∨ ∃ members, e.context = .object members

def withFields (e : LogEvent) (fields : List (String × Json)) : LogEvent :=
  fields.foldl (fun e field => e.withField field.1 field.2) e

/-- What a record has besides its fields. -/
def heading (e : LogEvent) : Level × String × Option String × Option String × Option UInt64 :=
  (e.level, e.message, e.source, e.correlationId, e.spanId)

theorem heading_withField (e : LogEvent) (key : String) (v : Json) :
    (e.withField key v).heading = e.heading := by
  unfold withField
  split <;> rfl

theorem heading_withFields (e : LogEvent) (fields : List (String × Json)) :
    (e.withFields fields).heading = e.heading := by
  induction fields generalizing e with
  | nil => rfl
  | cons field fields ih => exact (ih _).trans (e.heading_withField field.1 field.2)

variable {e : LogEvent}

theorem HasFields.withField (h : e.HasFields) (key : String) (v : Json) : (e.withField key v).HasFields := by
  unfold LogEvent.withField
  rcases h with h | ⟨members, h⟩ <;> rw [h] <;> exact .inr ⟨_, rfl⟩

theorem HasFields.field?_withField (h : e.HasFields) (key name : String) (v : Json) :
    (e.withField key v).field? name = if key = name then some v else e.field? name := by
  unfold LogEvent.withField field?
  rcases h with h | ⟨members, h⟩ <;> rw [h]
  · rfl
  · exact Json.find?_insert ..

theorem HasFields.field?_withFields (h : e.HasFields) (fields : List (String × Json)) (name : String) :
    (e.withFields fields).field? name = (Json.find? name fields.reverse).or (e.field? name) := by
  induction fields generalizing e with
  | nil => rfl
  | cons field fields ih =>
    have hone : Json.find? name [field] = if field.1 = name then some field.2 else none := rfl
    have hrest := ih (h.withField field.1 field.2)
    rw [List.reverse_cons, Json.find?_append, Option.or_assoc, hone]
    rw [h.field?_withField] at hrest
    refine hrest.trans ?_
    split <;> rfl

end LogEvent
end Resilience
