import Resilience.Breaker.Document
import Resilience.Proofs.Json.Canonical

/-! Policies and configurations of breakers are read back from their documents. The tag of a policy may stand
    anywhere among its members; what is left of them is read as an object of its own. -/

namespace Resilience

open Json (Keeps Setting Describes)

namespace BackoffPolicy

/-- The factor of a policy that has one is a finite number. -/
def Finite : BackoffPolicy → Prop
  | .constant _ => True
  | .exponential _ _ factor => factor.isFinite = true

theorem splitTag_of_absent {members : List (String × Json)} (h : "type" ∉ members.map (·.1))
    (tag : Option Variant) : splitTag members tag = .ok (tag, members) := by
  induction members generalizing tag with
  | nil => rfl
  | cons member members ih =>
    rw [List.map_cons, List.mem_cons, not_or] at h
    rw [splitTag, if_neg (Ne.symm h.1), ih h.2]
    rfl

/-- The tag is taken out, wherever it stands. -/
theorem splitTag_law {members : List (String × Json)} (hnodup : (members.map (·.1)).Nodup) {v : Json}
    (htag : Json.find? "type" members = some v) {variant : Variant} (hv : toVariant v = .ok variant) :
    ∃ others, splitTag members none = .ok (some variant, others) ∧ (others.map (·.1)).Nodup ∧
      ∀ key ≠ "type", Json.find? key others = Json.find? key members := by
  induction members with
  | nil => cases htag
  | cons member members ih =>
    obtain ⟨name, x⟩ := member
    rw [List.map_cons, List.nodup_cons] at hnodup
    by_cases h : name = "type"
    · subst h
      have hx : x = v := by simpa [Json.find?_cons_self rfl] using htag
      refine ⟨members, ?_, hnodup.2, fun key hkey => (Json.find?_cons_of_ne (Ne.symm hkey) x members).symm⟩
      rw [splitTag, if_pos rfl, hx, hv, if_neg (by simp)]
      exact splitTag_of_absent hnodup.1 (some variant)
    · rw [Json.find?_cons_of_ne h] at htag
      obtain ⟨others, hsplit, hkeys, hfind⟩ := ih hnodup.2 htag
      have hname : name ∉ others.map (·.1) := by
        rw [← Json.find?_eq_none_iff, hfind name h, Json.find?_eq_none_iff]
        exact hnodup.1
      refine ⟨(name, x) :: others, ?_, List.nodup_cons.2 ⟨hname, hkeys⟩, fun key hkey => ?_⟩
      · rw [splitTag, if_neg h, hsplit]
        rfl
      · by_cases heq : name = key
        · rw [Json.find?_cons_self heq.symm, Json.find?_cons_self heq.symm]
        · rw [Json.find?_cons_of_ne heq, Json.find?_cons_of_ne heq, hfind key hkey]

/-- The parts of a policy as settings of what has been read. -/
def Variant.settings : Variant → List (Setting Parts)
  | .constant => [⟨["interval"], fun v => (Json.toDuration v).map some, (·.interval)⟩]
  | .exponential =>
    [⟨["initial"], fun v => (Json.toDuration v).map some, (·.initial)⟩,
     ⟨["max"], fun v => (Json.toDuration v).map some, (·.longest)⟩,
     ⟨["factor"], fun v => (Json.toFloat v).map some, (·.factor)⟩]

theorem Variant.describes (v : Variant) : Describes v.settings v.parts where
  field_of_setting := by cases v <;> simp [settings, parts, constantParts, exponentialParts, part]
  setting_of_field := by cases v <;> simp [settings, parts, constantParts, exponentialParts, part]
  readBy p hp f hf x s := by
    cases v with
    | constant =>
      simp only [settings, parts, constantParts, List.mem_singleton] at hp hf
      subst hp hf
      simp [part, Json.map_map]
    | exponential =>
      simp only [settings, parts, exponentialParts, List.mem_cons, List.not_mem_nil, or_false] at hp hf
      rcases hp with rfl | rfl | rfl <;> rcases hf with rfl | rfl | rfl <;> simp [part, Json.map_map]

theorem Variant.path_of_mem_settings {v : Variant} {q : Setting Parts} (hq : q ∈ v.settings) :
    ∃ name ≠ "type", q.path = [name] := by
  cases v with
  | constant =>
    simp only [settings, List.mem_singleton] at hq
    exact ⟨"interval", by decide, by rw [hq]⟩
  | exponential =>
    simp only [settings, List.mem_cons, List.not_mem_nil, or_false] at hq
    rcases hq with rfl | rfl | rfl
    · exact ⟨"initial", by decide, rfl⟩
    · exact ⟨"max", by decide, rfl⟩
    · exact ⟨"factor", by decide, rfl⟩

/-- An object with a tag is read as the policy that its parts make. -/
theorem ofDocument_object (variant : Variant) (parts : Parts) {members : List (String × Json)}
    (hnodup : (members.map (·.1)).Nodup) {v : Json} (htag : Json.find? "type" members = some v)
    (hv : toVariant v = .ok variant) (htaken : ∀ q ∈ variant.settings, q.TakenFrom (.object members) {} parts) :
    ∃ t, ofDocument (.object members) = ofParts variant t ∧ ∀ q ∈ variant.settings, q.get t = q.get parts := by
  obtain ⟨others, hsplit, hothers, hsame⟩ := splitTag_law hnodup htag hv
  have htaken' : ∀ q ∈ variant.settings, q.TakenFrom (.object others) {} parts := by
    intro q hq
    obtain ⟨name, hname, hpath⟩ := Variant.path_of_mem_settings hq
    have h := htaken q hq
    rw [Json.takenFrom_key hpath] at h ⊢
    rwa [hsame name hname]
  obtain ⟨t, hread, ht⟩ := Json.readMembers_of_takenFrom variant.describes hothers htaken'
  refine ⟨t, ?_, ht⟩
  simp [ofDocument, hsplit, hread, required, bind, Except.bind]

variable {form : Json → Json}

theorem ofDocument_toDocument (hform : Keeps form) {p : BackoffPolicy} (hp : p.Finite) :
    ofDocument (form p.toDocument) = .ok p := by
  cases p with
  | constant interval =>
    obtain ⟨members, hobject, hkeys, hfind⟩ :=
      hform.object [("type", .text "constant"), ("interval", Json.ofDuration interval)] (by simp)
    obtain ⟨t, hread, ht⟩ := ofDocument_object .constant { interval := some interval } hkeys
      (v := .text "constant") (by simp [hfind, Json.find?, hform.text]) rfl (by
        simp [Variant.settings, Setting.TakenFrom, Json.at?_key, hfind, Json.find?, hform.duration, Except.map])
    have hinterval : t.interval = some interval := by simpa [Variant.settings] using ht
    rw [toDocument, hobject, hread]
    simp only [ofParts, hinterval]
    rfl
  | exponential initial longest factor =>
    obtain ⟨members, hobject, hkeys, hfind⟩ :=
      hform.object [("type", .text "exponential"), ("initial", Json.ofDuration initial),
        ("max", Json.ofDuration longest), ("factor", .number (.float factor))] (by simp)
    obtain ⟨t, hread, ht⟩ := ofDocument_object .exponential
      { initial := some initial, longest := some longest, factor := some factor } hkeys
      (v := .text "exponential") (by simp [hfind, Json.find?, hform.text]) rfl (by
        simp [Variant.settings, Setting.TakenFrom, Json.at?_key, hfind, Json.find?, hform.duration,
          hform.real hp, Except.map])
    have hparts : t.initial = some initial ∧ t.longest = some longest ∧ t.factor = some factor := by
      simpa [Variant.settings] using ht
    rw [toDocument, hobject, hread]
    simp only [ofParts, hparts]
    rfl

end BackoffPolicy

namespace Breaker

/-- The settings of a breaker's configuration. -/
def Config.settings : List (Setting Config) :=
  [⟨["failure_threshold"], Json.toCount64, (·.failureThreshold)⟩,
   ⟨["counter_reset_interval"], Json.toDuration, (·.counterResetInterval)⟩,
   ⟨["open_timeout"], Json.toDuration, (·.openTimeout)⟩,
   ⟨["open_timeout_backoff"], BackoffPolicy.ofDocument, (·.openTimeoutBackoff)⟩,
   ⟨["half_open_max_successes"], Json.toCount64, (·.halfOpenMaxSuccesses)⟩,
   ⟨["fail_on_cancel"], Json.toBool, (·.failOnCancel)⟩,
   ⟨["fail_on_deadline"], Json.toBool, (·.failOnDeadline)⟩]

theorem Config.describes : Describes settings fields where
  field_of_setting := by simp [settings, fields, Json.field]
  setting_of_field := by simp [settings, fields, Json.field]
  readBy p hp f hf v s := by
    simp only [settings, fields, List.mem_cons, List.not_mem_nil, or_false] at hp hf
    rcases hp with rfl | rfl | rfl | rfl | rfl | rfl | rfl <;>
      rcases hf with rfl | rfl | rfl | rfl | rfl | rfl | rfl <;>
      simp [Json.field, Json.map_map, Json.map_self]

theorem Config.ofDocument_toDocument {form : Json → Json} (hform : Keeps form) {c : Config}
    (hc : c.openTimeoutBackoff.Finite) : ofDocument (form c.toDocument) = .ok c := by
  refine hform.toRecord describes (by simp [fields, Json.field]) _ (fun members hgiven => ?_) fun t ht => ?_
  · simp only [fields, Json.gives_cons, Json.gives_nil, Json.field, Option.map_some, and_true] at hgiven
    simp [settings, Setting.TakenFrom, Json.at?_key, hgiven, hform.duration, hform.count64, hform.truth,
      BackoffPolicy.ofDocument_toDocument hform hc]
  · simp only [settings, List.forall_mem_cons] at ht
    cases t; cases c
    simp_all

end Breaker

end Resilience
