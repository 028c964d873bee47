import Resilience.Proofs.Breaker.Document
import Resilience.Proofs.Settings.Document

/-! Configurations are read back from their documents (`roundTrip_law`). A document gives every setting but an
    absent filter, each in its own place and written as its reader wants it. -/

namespace Resilience

open Json (Keeps Setting RecordField)

namespace Settings

variable {form : Json → Json} (hform : Keeps form)
include hform

theorem Strategy.read_name (lenient : Bool) (s : Strategy) :
    Json.toVariant strategies lenient (form (.text s.name)) = .ok s := by
  rw [hform.text]
  cases s <;> rfl

theorem read_levelName (l : Level) : Json.toVariant levels false (form (.text l.name)) = .ok l := by
  rw [hform.text]
  cases l <;> rfl

theorem Format.read_name (f : Format) : Json.toVariant formats false (form (.text f.name)) = .ok f := by
  rw [hform.text]
  cases f <;> rfl

/-! ### Records -/

theorem Backoff.takenFrom {lenient : Bool} {b : Backoff} (hb : b.exponentFactor.isFinite = true)
    {members : List (String × Json)} (hgiven : Json.Gives form (fields lenient) b members) (start : Backoff) :
    ∀ p ∈ settings lenient, p.TakenFrom (.object members) start b := by
  simp only [fields, Json.gives_cons, Json.gives_nil, Json.field, Option.map_some, and_true] at hgiven
  simp [settings, Setting.TakenFrom, Json.at?_key, hgiven, Strategy.read_name hform, hform.duration, hform.real hb]

omit hform in
theorem Backoff.eq_of_settings {lenient : Bool} {b b' : Backoff} (h : ∀ p ∈ settings lenient, p.get b' = p.get b) :
    b' = b := by
  simp only [settings, List.forall_mem_cons] at h
  cases b; cases b'
  simp_all

theorem Backoff.ofDocument_toDocument {b : Backoff} (hb : b.exponentFactor.isFinite = true) :
    ofDocument (form b.toDocument) = .ok b :=
  hform.toRecord (describes false) (by simp [fields, Json.field]) _ (fun _ hgiven => takenFrom hform hb hgiven {})
    fun _ => eq_of_settings

theorem Breaker.ofDocument_toDocument {b : Breaker} (hb : b.openTimeoutBackoff.exponentFactor.isFinite = true) :
    ofDocument (form b.toDocument) = .ok b := by
  refine hform.toRecord describes (by simp [fields, Json.field]) _ (fun members hgiven => ?_) fun t ht => ?_
  · simp only [fields, Json.gives_cons, Json.gives_nil, Json.field, Option.map_some, and_true] at hgiven
    simp [backoffSetting, ownSettings, Setting.TakenFrom, Json.at?_key, hgiven, hform.duration, hform.count64,
      hform.truth, Backoff.ofDocument_toDocument hform hb]
  · simp only [backoffSetting, ownSettings, List.forall_mem_cons] at ht
    cases t; cases b
    simp_all

theorem Client.ofDocument_toDocument {c : Client} (hc : c.backoff.exponentFactor.isFinite = true)
    (hb : c.breaker.openTimeoutBackoff.exponentFactor.isFinite = true) : ofDocument (form c.toDocument) = .ok c := by
  rw [toDocument, Json.members_eq_written, Json.members_eq_written, ← Json.written_append]
  obtain ⟨members, hobject, hkeys, hgiven⟩ :=
    hform.written (Json.row (Backoff.fields true) c.backoff ++ Json.row ownFields c)
      (by simp [Json.keys_row, Backoff.fields, ownFields, Json.field])
  rw [hobject]
  rw [List.forall_mem_append] at hgiven
  have hown : ∀ p ∈ breakerSetting :: ownSettings, p.TakenFrom (.object members) {} c := by
    have hgiven : Json.Gives form ownFields c members := hgiven.2
    simp only [ownFields, Json.gives_cons, Json.gives_nil, Json.field, Option.map_some, and_true] at hgiven
    simp [breakerSetting, ownSettings, Setting.TakenFrom, Json.at?_key, hgiven, hform.duration, hform.count32,
      Breaker.ofDocument_toDocument hform hb]
  obtain ⟨t, ht, hsame⟩ := Json.readMembers_of_takenFrom describes hkeys hown
  have hbackoff : RecordField.readMembers (Backoff.fields true) [] members t.backoff = .ok c.backoff :=
    Json.readMembers_eq (Backoff.describes true) hkeys (Backoff.takenFrom hform hc hgiven.1 _)
      fun _ => Backoff.eq_of_settings
  have heq : { t with backoff := c.backoff } = c := by
    simp only [breakerSetting, ownSettings, List.forall_mem_cons] at hsame
    cases c; cases t
    simp_all
  rw [ofDocument, ht]
  simp only [bind, Except.bind, hbackoff, heq]
  rfl

theorem Logging.ofDocument_toDocument (l : Logging) : ofDocument (form l.toDocument) = .ok l := by
  refine hform.toRecord describes (by simp [fields, Json.field]) _ (fun members hgiven => ?_) fun t ht => ?_
  · simp only [fields, Json.gives_cons, Json.gives_nil, Json.field, Option.map_some, and_true] at hgiven
    simp [settings, Setting.TakenFrom, Json.at?_key, hgiven, hform.truth, read_levelName hform, Format.read_name hform]
    -- A filter that is not there is not written, and is none to begin with.
    cases l.filter with
    | none => rfl
    | some s =>
      simp only [Option.map_some, Function.comp_apply, hform.text]
      rfl
  · simp only [settings, List.forall_mem_cons] at ht
    cases t; cases l
    simp_all

theorem Config.ofDocument_toDocument {c : Config} (hc : c.client.backoff.exponentFactor.isFinite = true)
    (hb : c.client.breaker.openTimeoutBackoff.exponentFactor.isFinite = true) :
    ofDocument (form c.toDocument) = .ok c := by
  refine hform.toRecord describes (by simp [fields, Json.field]) _ (fun members hgiven => ?_) fun t ht => ?_
  · simp only [fields, Json.gives_cons, Json.gives_nil, Json.field, Option.map_some, and_true] at hgiven
    simp [sectionSettings, Setting.TakenFrom, Json.at?_key, hgiven, Client.ofDocument_toDocument hform hc hb,
      Logging.ofDocument_toDocument hform]
  · simp only [sectionSettings, List.forall_mem_cons] at ht
    cases t; cases c
    simp_all

end Settings

/-! ### Round trips -/

/-- Both factors of a configuration are finite numbers. -/
def Settings.Config.Finite (c : Settings.Config) : Prop :=
  c.client.backoff.exponentFactor.isFinite = true ∧
    c.client.breaker.openTimeoutBackoff.exponentFactor.isFinite = true

/-- Configurations, policies and configurations of breakers whose factors are finite are read back from their
    documents, whether a document keeps the order of its members or is kept as JSON. -/
theorem roundTrip_law :
    (∀ c : Settings.Config, c.Finite →
      Settings.Config.ofDocument c.toDocument = .ok c ∧ Settings.Config.ofDocument c.toDocument.canonical = .ok c) ∧
    (∀ p : BackoffPolicy, p.Finite →
      BackoffPolicy.ofDocument p.toDocument = .ok p ∧ BackoffPolicy.ofDocument p.toDocument.canonical = .ok p) ∧
    ∀ c : Breaker.Config, c.openTimeoutBackoff.Finite →
      Breaker.Config.ofDocument c.toDocument = .ok c ∧ Breaker.Config.ofDocument c.toDocument.canonical = .ok c :=
  ⟨fun _ hc => ⟨Settings.Config.ofDocument_toDocument Json.keeps_id hc.1 hc.2,
      Settings.Config.ofDocument_toDocument Json.keeps_canonical hc.1 hc.2⟩,
    fun _ hp => ⟨BackoffPolicy.ofDocument_toDocument Json.keeps_id hp,
      BackoffPolicy.ofDocument_toDocument Json.keeps_canonical hp⟩,
    fun _ hc => ⟨Breaker.Config.ofDocument_toDocument Json.keeps_id hc,
      Breaker.Config.ofDocument_toDocument Json.keeps_canonical hc⟩⟩

/-- A configuration with extreme settings. -/
def Settings.Config.extreme : Settings.Config where
  client :=
    { backoff :=
        { strategy := .exponential, initialInterval := Duration.longest, maxInterval := Duration.zero,
          exponentFactor := 0.1 }
      maxRetryAttempts := 4294967295
      breaker := { failureThreshold := 18446744073709551615 } }
  logging := { filter := some "" }

/-- A breaker's configuration with an extreme policy. -/
def Breaker.Config.extreme : Breaker.Config where
  openTimeoutBackoff := .exponential Duration.longest Duration.zero (-0.0)

theorem roundTrip_extreme :
    (Settings.Config.extreme.Finite ∧
      Settings.Config.ofDocument Settings.Config.extreme.toDocument = .ok Settings.Config.extreme ∧
      Settings.Config.ofDocument Settings.Config.extreme.toDocument.canonical = .ok Settings.Config.extreme) ∧
    (Breaker.Config.extreme.openTimeoutBackoff.Finite ∧
      BackoffPolicy.ofDocument Breaker.Config.extreme.openTimeoutBackoff.toDocument =
        .ok Breaker.Config.extreme.openTimeoutBackoff ∧
      BackoffPolicy.ofDocument Breaker.Config.extreme.openTimeoutBackoff.toDocument.canonical =
        .ok Breaker.Config.extreme.openTimeoutBackoff) ∧
    Breaker.Config.ofDocument Breaker.Config.extreme.toDocument = .ok Breaker.Config.extreme ∧
    Breaker.Config.ofDocument Breaker.Config.extreme.toDocument.canonical = .ok Breaker.Config.extreme :=
  have hsettings : Settings.Config.extreme.Finite :=
    ⟨show (0.1 : Float).isFinite = true by decide +kernel, show (2.0 : Float).isFinite = true by decide +kernel⟩
  have hpolicy : Breaker.Config.extreme.openTimeoutBackoff.Finite :=
    show (-0.0 : Float).isFinite = true by decide +kernel
  ⟨⟨hsettings, roundTrip_law.1 _ hsettings⟩, ⟨hpolicy, roundTrip_law.2.1 _ hpolicy⟩,
    roundTrip_law.2.2 _ hpolicy⟩

end Resilience
