import Resilience.Proofs.Json.Records
import Resilience.Settings.Document

/-! What a document gives to a configuration (`document_law`). Each setting has its place, a path of keys;
    a document that gives it decides it, and a document that does not leaves it at a default. The default is
    that of a configuration without any document, but for the backoff of a breaker's open time: of one that
    is given in part, the rest is that of any other backoff (`document_not_default`). -/

namespace Resilience.Settings

open Json (Setting Outline Describes DecodeError RecordField)

/-! ### Settings -/

/-- The settings of a backoff. `lenient` concerns how a strategy may be spelled. -/
def Backoff.settings (lenient : Bool) : List (Setting Backoff) :=
  [⟨["strategy"], Json.toVariant strategies lenient, (·.strategy)⟩,
   ⟨["initial_interval"], Json.toDuration, (·.initialInterval)⟩,
   ⟨["max_interval"], Json.toDuration, (·.maxInterval)⟩,
   ⟨["exponent_factor"], Json.toFloat, (·.exponentFactor)⟩]

/-- The settings of a breaker apart from those of the backoff of its open time. -/
def Breaker.ownSettings : List (Setting Breaker) :=
  [⟨["failure_threshold"], Json.toCount64, (·.failureThreshold)⟩,
   ⟨["counter_reset_interval"], Json.toDuration, (·.counterResetInterval)⟩,
   ⟨["open_timeout"], Json.toDuration, (·.openTimeout)⟩,
   ⟨["half_open_max_successes"], Json.toCount64, (·.halfOpenMaxSuccesses)⟩,
   ⟨["fail_on_cancel"], Json.toBool, (·.failOnCancel)⟩,
   ⟨["fail_on_deadline"], Json.toBool, (·.failOnDeadline)⟩]

/-- The settings of a client apart from those of its backoff and its breaker. -/
def Client.ownSettings : List (Setting Client) :=
  [⟨["max_retry_attempts"], Json.toCount32, (·.maxRetryAttempts)⟩,
   ⟨["per_call_timeout"], Json.toDuration, (·.perCallTimeout)⟩]

def Logging.settings : List (Setting Logging) :=
  [⟨["level"], Json.toVariant levels false, (·.level)⟩,
   ⟨["format"], Json.toVariant formats false, (·.format)⟩,
   ⟨["filter"], Json.toOptionalText, (·.filter)⟩,
   ⟨["include_location"], Json.toBool, (·.includeLocation)⟩,
   ⟨["include_thread_ids"], Json.toBool, (·.includeThreadIds)⟩]

/-! ### Records -/

theorem Backoff.describes (lenient : Bool) : Describes (settings lenient) (fields lenient) where
  field_of_setting := by simp [settings, fields, Json.field]
  setting_of_field := by simp [settings, fields, Json.field]
  readBy p hp f hf v s := by
    simp only [settings, fields, List.mem_cons, List.not_mem_nil, or_false] at hp hf
    rcases hp with rfl | rfl | rfl | rfl <;> rcases hf with rfl | rfl | rfl | rfl <;>
      simp [Json.field, Json.map_map, Json.map_self]

/-- The backoff of the open time as one setting of a breaker. -/
def Breaker.backoffSetting : Setting Breaker :=
  ⟨["open_timeout_backoff"], Backoff.ofDocument, (·.openTimeoutBackoff)⟩

theorem Breaker.describes : Describes (backoffSetting :: ownSettings) fields where
  field_of_setting := by simp [backoffSetting, ownSettings, fields, Json.field]
  setting_of_field := by simp [backoffSetting, ownSettings, fields, Json.field]
  readBy p hp f hf v s := by
    simp only [backoffSetting, ownSettings, fields, List.mem_cons, List.not_mem_nil, or_false] at hp hf
    rcases hp with rfl | rfl | rfl | rfl | rfl | rfl | rfl <;>
      rcases hf with rfl | rfl | rfl | rfl | rfl | rfl | rfl <;>
      simp [Json.field, Json.map_map, Json.map_self]

/-- The breaker as one setting of a client. -/
def Client.breakerSetting : Setting Client := ⟨["breaker"], Breaker.ofDocument, (·.breaker)⟩

theorem Client.describes : Describes (breakerSetting :: ownSettings) ownFields where
  field_of_setting := by simp [breakerSetting, ownSettings, ownFields, Json.field]
  setting_of_field := by simp [breakerSetting, ownSettings, ownFields, Json.field]
  readBy p hp f hf v s := by
    simp only [breakerSetting, ownSettings, ownFields, List.mem_cons, List.not_mem_nil, or_false] at hp hf
    rcases hp with rfl | rfl | rfl <;> rcases hf with rfl | rfl | rfl <;>
      simp [Json.field, Json.map_map, Json.map_self]

theorem Logging.describes : Describes settings fields where
  field_of_setting := by simp [settings, fields, Json.field]
  setting_of_field := by simp [settings, fields, Json.field]
  readBy p hp f hf v s := by
    simp only [settings, fields, List.mem_cons, List.not_mem_nil, or_false] at hp hf
    rcases hp with rfl | rfl | rfl | rfl | rfl <;> rcases hf with rfl | rfl | rfl | rfl | rfl <;>
      simp [Json.field, Json.map_map, Json.map_self]

/-- A client and logging as two settings of a configuration. -/
def Config.sectionSettings : List (Setting Config) :=
  [⟨["client"], Client.ofDocument, (·.client)⟩, ⟨["logging"], Logging.ofDocument, (·.logging)⟩]

theorem Config.describes : Describes sectionSettings fields where
  field_of_setting := by simp [sectionSettings, fields, Json.field]
  setting_of_field := by simp [sectionSettings, fields, Json.field]
  readBy p hp f hf v s := by
    simp only [sectionSettings, fields, List.mem_cons, List.not_mem_nil, or_false] at hp hf
    rcases hp with rfl | rfl <;> rcases hf with rfl | rfl <;>
      simp [Json.field, Json.map_map, Json.map_self]

/-! ### Outlines -/

def Backoff.outline : Outline Backoff := ⟨[[]], settings false⟩

def Breaker.outline : Outline Breaker :=
  ⟨[[]], ownSettings⟩ ++ Backoff.outline.inside "open_timeout_backoff" (·.openTimeoutBackoff)

/-- The settings of a client's backoff stand among its own. -/
def Client.outline : Outline Client :=
  ⟨[[]], (Backoff.settings true).map (Setting.beside (·.backoff)) ++ ownSettings⟩ ++
    Breaker.outline.inside "breaker" (·.breaker)

def Logging.outline : Outline Logging := ⟨[[]], settings⟩

/-- All that a document with a configuration may give. -/
def Config.outline : Outline Config :=
  ⟨[[]], []⟩ ++ Client.outline.inside "client" (·.client) ++ Logging.outline.inside "logging" (·.logging)

/-- What a breaker has where a document gives nothing. The backoff of the open time has defaults of its own
    only if none of it is given; of one that is given the rest is as in any backoff. -/
def Breaker.omitted (v : Json) : Breaker :=
  { openTimeoutBackoff := if (v.at? ["open_timeout_backoff"]).isSome then {} else Backoff.forOpenTimeout }

def Client.omitted (v : Json) : Client :=
  { breaker :=
      { openTimeoutBackoff :=
          if (v.at? ["breaker", "open_timeout_backoff"]).isSome then {} else Backoff.forOpenTimeout } }

def Config.omitted (v : Json) : Config :=
  { client :=
      { breaker :=
          { openTimeoutBackoff :=
              if (v.at? ["client", "breaker", "open_timeout_backoff"]).isSome then {}
              else Backoff.forOpenTimeout } } }

theorem Backoff.outline_readBy : outline.ReadBy ofDocument fun _ => {} := by
  intro v hv
  obtain ⟨members, rfl, hnodup⟩ := hv.records [] List.mem_cons_self v rfl
  exact Json.readMembers_law (describes false) hnodup hv.settings {}

theorem Breaker.outline_readBy : outline.ReadBy ofDocument omitted := by
  intro v hv
  obtain ⟨members, rfl, hnodup⟩ := hv.left.records [] List.mem_cons_self v rfl
  obtain ⟨b, hb, htaken⟩ := Json.readMembers_law describes hnodup
    (List.forall_mem_cons.2 ⟨Backoff.outline_readBy.readable hv.right, hv.left.settings⟩) {}
  rw [List.forall_mem_cons] at htaken
  refine ⟨b, hb, List.forall_mem_append.2 ⟨fun p hp => ?_, ?_⟩⟩
  · have hsame : ∀ p ∈ ownSettings, p.get (omitted (.object members)) = p.get {} := by simp [ownSettings, omitted]
    exact (htaken.2 p hp).of_start (hsame p hp)
  · refine Backoff.outline_readBy.takenFrom hv.right htaken.1 (fun x hx => ?_) fun hnone => ?_
    · simp [omitted, Json.at?, hx]
    · simp [omitted, Json.at?, hnone]

/-- Reading the own fields of a client does not touch its backoff. -/
theorem Client.backoff_of_readMembers {seen : List String} {members : List (String × Json)} {c c' : Client}
    (h : RecordField.readMembers ownFields seen members c = .ok c') : c'.backoff = c.backoff := by
  exact Json.readMembers_frame (·.backoff) (by simp [ownFields, Json.field, Json.map_map]) h

theorem Client.outline_readBy : outline.ReadBy ofDocument omitted := by
  intro v hv
  obtain ⟨members, rfl, hnodup⟩ := hv.left.records [] List.mem_cons_self v rfl
  obtain ⟨hbackoff, hown⟩ := List.forall_mem_append.1 hv.left.settings
  rw [List.forall_mem_map] at hbackoff
  obtain ⟨c, hc, htaken⟩ := Json.readMembers_law describes hnodup
    (List.forall_mem_cons.2 ⟨Breaker.outline_readBy.readable hv.right, hown⟩) {}
  obtain ⟨b, hb, hflat⟩ := Json.readMembers_law (Backoff.describes true) hnodup hbackoff c.backoff
  rw [List.forall_mem_cons] at htaken
  refine ⟨{ c with backoff := b }, by rw [ofDocument, hc]; simp only [bind, Except.bind, hb]; rfl, ?_⟩
  refine List.forall_mem_append.2 ⟨List.forall_mem_append.2
    ⟨List.forall_mem_map.2 fun p hp => ?_, fun p hp => ?_⟩, ?_⟩
  · have hstart : c.backoff = {} := backoff_of_readMembers hc
    rw [hstart] at hflat
    exact hflat p hp
  · have hsame : ∀ p ∈ ownSettings, p.get { c with backoff := b } = p.get c ∧
        p.get (omitted (.object members)) = p.get {} := by simp [ownSettings, omitted]
    have htaken := (htaken.2 p hp).of_start (hsame p hp).2
    simpa only [Setting.TakenFrom, (hsame p hp).1] using htaken
  · refine Breaker.outline_readBy.takenFrom hv.right htaken.1 (fun x hx => ?_) fun hnone => ?_
    · simp [omitted, Breaker.omitted, Json.at?, hx]
    · simp [omitted, Json.at?, hnone]

theorem Logging.outline_readBy : outline.ReadBy ofDocument fun _ => {} := by
  intro v hv
  obtain ⟨members, rfl, hnodup⟩ := hv.records [] List.mem_cons_self v rfl
  exact Json.readMembers_law describes hnodup hv.settings {}

theorem Breaker.wellFormed_of_backoff {v : Json} (h : Backoff.outline.WellFormed v) :
    outline.WellFormed (.object [("open_timeout_backoff", v)]) := by
  refine .append ⟨?_, ?_⟩ (.inside rfl h)
  · simp [Json.at?]
  · simp [ownSettings, Setting.Readable, Json.at?_key, Json.find?]

theorem Client.wellFormed_of_breaker {v : Json} (h : Breaker.outline.WellFormed v) :
    outline.WellFormed (.object [("breaker", v)]) := by
  refine .append ⟨?_, ?_⟩ (.inside rfl h)
  · simp [Json.at?]
  · simp [Backoff.settings, ownSettings, Setting.beside, Setting.Readable, Json.at?_key, Json.find?]

theorem Config.wellFormed_of_client {v : Json} (h : Client.outline.WellFormed v) :
    outline.WellFormed (.object [("client", v)]) := by
  refine .append (.append ⟨?_, List.forall_mem_nil _⟩ (.inside rfl h)) (Outline.wellFormed_inside_of_absent rfl)
  simp [Json.at?]

/-- A document with one setting, the longest wait of the backoff of a breaker's open time. -/
def longestOpenTimeout (s : String) : Json :=
  .object [("client", .object [("breaker", .object [("open_timeout_backoff",
    .object [("max_interval", .text s)])])])]

theorem longestOpenTimeout_wellFormed {s : String} {d : Duration} (hs : Notation.read s = .ok d) :
    Config.outline.WellFormed (longestOpenTimeout s) := by
  have hbackoff : Backoff.outline.WellFormed (.object [("max_interval", .text s)]) := by
    constructor
    · simp [Backoff.outline, Json.at?]
    · simp [Backoff.outline, Backoff.settings, Setting.Readable, Json.at?_key, Json.find?, Json.toDuration, hs]
  exact Config.wellFormed_of_client (Client.wellFormed_of_breaker (Breaker.wellFormed_of_backoff hbackoff))

/-- A document whose records have distinct keys and whose settings can be read is a configuration. Every
    setting that it gives is as given, and every other one is at its default. -/
theorem Config.document_law (v : Json) (hv : outline.WellFormed v) :
    ∃ c, ofDocument v = .ok c ∧ ∀ p ∈ outline.settings, p.TakenFrom v (omitted v) c := by
  obtain ⟨members, rfl, hnodup⟩ := hv.left.left.records [] List.mem_cons_self v rfl
  obtain ⟨c, hc, htaken⟩ := Json.readMembers_law describes hnodup (List.forall_mem_cons.2
    ⟨Client.outline_readBy.readable hv.left.right,
      List.forall_mem_singleton.2 (Logging.outline_readBy.readable hv.right)⟩) {}
  rw [sectionSettings, List.forall_mem_cons, List.forall_mem_singleton] at htaken
  refine ⟨c, hc, List.forall_mem_append.2 ⟨?_, ?_⟩⟩
  · refine Client.outline_readBy.takenFrom hv.left.right htaken.1 (fun x hx => ?_) fun hnone => ?_
    · simp [omitted, Client.omitted, Json.at?, hx]
    · simp [omitted, Json.at?, hnone]
  · refine Logging.outline_readBy.takenFrom hv.right htaken.2 (fun x hx => ?_) fun hnone => ?_
    · simp [omitted]
    · simp [omitted]

theorem Config.document_law_ten_minutes :
    outline.WellFormed (longestOpenTimeout "10m") ∧
      ∃ c, ofDocument (longestOpenTimeout "10m") = .ok c ∧
        ∀ p ∈ outline.settings, p.TakenFrom (longestOpenTimeout "10m") (omitted (longestOpenTimeout "10m")) c :=
  have hv := longestOpenTimeout_wellFormed (s := "10m") (d := .ofSeconds 600) rfl
  ⟨hv, document_law _ hv⟩

/-- The wait before the first retry is then that of any backoff, not the default open time. -/
theorem initialInterval_of_longestOpenTimeout {c : Config}
    (hc : Config.ofDocument (longestOpenTimeout "10m") = .ok c) :
    c.client.breaker.openTimeoutBackoff.initialInterval = Duration.ofMillis 100 := by
  cases hc
  rfl

/-- What is left out of a backoff that is given in part is not what it is by default. -/
theorem Config.document_not_default :
    ¬∀ v, outline.WellFormed v →
      ∃ c, ofDocument v = .ok c ∧ ∀ p ∈ outline.settings, p.TakenFrom v {} c := by
  intro h
  obtain ⟨c, hc, htaken⟩ := h (longestOpenTimeout "10m") (longestOpenTimeout_wellFormed (d := .ofSeconds 600) rfl)
  have hwait : c.client.breaker.openTimeoutBackoff.initialInterval = Duration.ofSeconds 20 :=
    htaken ⟨["client", "breaker", "open_timeout_backoff", "initial_interval"], Json.toDuration,
      (·.client.breaker.openTimeoutBackoff.initialInterval)⟩ (by
        simp [outline, Client.outline, Breaker.outline, Backoff.outline, Backoff.settings, Setting.inside])
  rw [initialInterval_of_longestOpenTimeout hc] at hwait
  exact absurd hwait (by decide)

end Resilience.Settings
