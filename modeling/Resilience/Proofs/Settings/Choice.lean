import Resilience.Proofs.Settings.Overlay

/-! The words for a strategy. A text is compared with the names twice, up to the case of ASCII letters and then
    in lower case, and both comparisons accept the same texts, so a text that passes the first is never refused
    by the second. -/

namespace Resilience.Settings

open Text (sameIgnoringCase)

theorem Strategy.mem_choices {name : String} : name ∈ Strategy.choices ↔ ∃ x : Strategy, x.name = name := by
  constructor
  · intro h
    rcases List.mem_cons.mp h with rfl | h
    · exact ⟨.constant, rfl⟩
    · exact ⟨.exponential, (List.mem_singleton.mp h).symm⟩
  · rintro ⟨x, rfl⟩
    cases x
    · exact List.mem_cons_self ..
    · exact List.mem_cons_of_mem _ (List.mem_singleton_self _)

theorem Strategy.oneOf_choices_iff {s field domain : String} :
    oneOf Strategy.choices s field domain = .ok () ↔ ∃ x : Strategy, sameIgnoringCase x.name s = true := by
  have hrequire (b : Bool) (reason : String) : require b domain reason = .ok () ↔ b = true := by
    cases b <;> simp [require]
  rw [oneOf, hrequire, List.any_eq_true]
  simp only [mem_choices]
  constructor
  · rintro ⟨_, ⟨x, rfl⟩, h⟩
    exact ⟨x, h⟩
  · rintro ⟨x, h⟩
    exact ⟨_, ⟨x, rfl⟩, h⟩

/-- No text spells two names. -/
theorem Strategy.eq_of_sameIgnoringCase {x y : Strategy} {s : String} (hx : sameIgnoringCase x.name s = true)
    (hy : sameIgnoringCase y.name s = true) : x = y := by
  have h : x.name.toList.map Char.toLower = y.name.toList.map Char.toLower :=
    (of_decide_eq_true hx).trans (of_decide_eq_true hy).symm
  cases x <;> cases y
  · rfl
  · exact absurd h (by decide)
  · exact absurd h (by decide)
  · rfl

theorem Strategy.parse_eq_ok_iff {s : String} {x : Strategy} :
    Strategy.parse s = .ok x ↔ sameIgnoringCase x.name s = true := by
  have hparse : Strategy.parse s = .ok x ↔ meaning? strategyWords s = some x := by
    rw [← toOption_parseStrategy]
    cases Strategy.parse s <;> simp [Except.toOption]
  rw [hparse]
  constructor
  · intro h
    obtain ⟨w, hw, rfl⟩ := Option.map_eq_some_iff.mp h
    have hsame := List.find?_some hw
    rcases List.mem_cons.mp (List.mem_of_find?_eq_some hw) with rfl | hw
    · exact hsame
    · cases List.mem_singleton.mp hw
      exact hsame
  · intro h
    simp only [strategyWords, meaning?_cons, meaning?_nil]
    cases x with
    | constant => exact if_pos h
    | exponential =>
      have hother : sameIgnoringCase "constant" s ≠ true := by
        intro hc
        cases eq_of_sameIgnoringCase (x := .constant) hc h
      exact (if_neg hother).trans (if_pos h)

/-- Reading a strategy after its words were compared never fails. -/
theorem Variable.strategy_ne_invalid {name s refused cause : String} {set : Strategy → Config → Config}
    {c : Config} : (Variable.strategy name set).apply s c ≠ .error (.invalid refused cause) := by
  intro h
  dsimp only [Variable.strategy] at h
  cases hchoice : oneOf Strategy.choices s "strategy" Client.domain with
  | error v =>
    rw [hchoice] at h
    cases h
  | ok _ =>
    obtain ⟨x, hx⟩ := Strategy.oneOf_choices_iff.mp hchoice
    rw [hchoice, Strategy.parse_eq_ok_iff.mpr hx] at h
    cases h

/-- A text for a strategy is refused for being none of the words to choose from, and for nothing else. -/
theorem Kind.strategy_ne_invalid {name s refused cause : String} :
    Kind.strategy.read name s ≠ .error (.invalid refused cause) := by
  rw [Kind.read]
  cases meaning? strategyWords s <;> exact nofun

/-- A text that is no value is reported under the name of its own variable. -/
theorem Kind.name_of_invalid {α : Type} {kind : Kind α} {name s refused cause : String}
    (h : kind.read name s = .error (.invalid refused cause)) : refused = name := by
  have hmap {ε β : Type} {r : Except ε β} {f : ε → VariableError}
      (hf : ∀ e, f e = .invalid refused cause → refused = name)
      (hr : r.mapError f = .error (.invalid refused cause)) : refused = name := by
    cases r with
    | error e => exact hf e (Except.error.inj hr)
    | ok value => cases hr
  have hword {β : Type} {r : Option β}
      (hr : (r.elim (.error (.invalid name s)) .ok : Except VariableError β) = .error (.invalid refused cause)) :
      refused = name := by
    cases r <;> cases hr
    rfl
  cases kind with
  | count32 | count64 | real | truth =>
    rw [Kind.read] at h
    refine hmap (fun e he => ?_) h
    cases he
    rfl
  | duration =>
    rw [Kind.read] at h
    refine hmap (fun fault he => ?_) h
    cases fault <;> cases he <;> rfl
  | strategy => exact absurd h Kind.strategy_ne_invalid
  | level | format =>
    rw [Kind.read] at h
    exact hword h
  | text => cases h

theorem eq_strategy_of_mem {v : Slot} (hv : v ∈ slots) (hname : v.name = "BACKOFF_STRATEGY") :
    v = ⟨"BACKOFF_STRATEGY", .strategy⟩ := by
  have hslots : slots = slots.take 2 ++ ⟨"BACKOFF_STRATEGY", .strategy⟩ :: slots.drop 3 := rfl
  have hothers : ∀ v ∈ slots.take 2 ++ slots.drop 3, v.name ≠ "BACKOFF_STRATEGY" := by decide
  rw [hslots, List.mem_append, List.mem_cons] at hv
  rcases hv with hv | rfl | hv
  · exact absurd hname (hothers v (List.mem_append_left _ hv))
  · rfl
  · exact absurd hname (hothers v (List.mem_append_right _ hv))

theorem Config.ofFile_error {malformed e : LoadError} {document : Option Json}
    (h : Config.ofFile malformed document = .error e) : e = malformed ∨ ∃ cause, e = .overflow cause := by
  unfold Config.ofFile at h
  split at h
  · cases h
  · cases h
    exact .inr ⟨_, rfl⟩
  · cases h
    exact .inl rfl

/-- A file is not refused for a variable. -/
theorem File.config_ne_variable {f : File} {name cause : String} : f.config ≠ .error (.variable name cause) := by
  intro h
  unfold File.config at h
  split at h
  · cases h
  · split at h
    · cases h
    · split at h <;> rcases Config.ofFile_error h with he | ⟨_, he⟩ <;> cases he

theorem Config.overlay_ne_invalid_strategy {stem : String} {env : Environment} {c : Config} {cause : String} :
    c.overlay stem env ≠ .error (.invalid "BACKOFF_STRATEGY" cause) := by
  intro h
  obtain ⟨earlier, v, later, s, hslots, -, -, hread⟩ := (overlay_error_iff stem env c _).mp h
  have hv : v ∈ slots := hslots ▸ List.mem_append_right _ (List.mem_cons_self ..)
  cases eq_strategy_of_mem hv (Kind.name_of_invalid hread).symm
  exact Kind.strategy_ne_invalid hread

/-- The two comparisons of a text with the names of the strategies agree. The choice accepts exactly the texts
    that can be read; such a text is read as the strategy whose name it spells, up to the case of ASCII letters.
    So once the choice is made reading cannot fail, and loading never reports a strategy that could not be read. -/
theorem Strategy.choice_law (s : String) :
    (∀ field domain, oneOf Strategy.choices s field domain = .ok () ↔ ∃ x, Strategy.parse s = .ok x) ∧
      (∀ x, Strategy.parse s = .ok x ↔ sameIgnoringCase x.name s = true) ∧
      (∀ name set c refused cause, (Variable.strategy name set).apply s c ≠ .error (.invalid refused cause)) ∧
      ∀ stem env file cause, (Config.load stem env file).config ≠ .error (.variable "BACKOFF_STRATEGY" cause) := by
  refine ⟨fun field domain => ?_, fun x => parse_eq_ok_iff, fun name set c refused cause => ?_, ?_⟩
  · simp only [oneOf_choices_iff, parse_eq_ok_iff]
  · exact Variable.strategy_ne_invalid
  · intro stem env file cause h
    rcases (Config.load_error_iff stem env file _).mp h with
      hbase | ⟨b, -, ⟨refused, hrefused, he⟩ | ⟨-, v, -, he⟩⟩
    · cases file with
      | none => cases hbase
      | some f => exact File.config_ne_variable hbase
    · cases refused with
      | invalid name reason =>
        cases he
        exact Config.overlay_ne_invalid_strategy hrefused
      | violation | overflow => cases he
    · cases he

end Resilience.Settings
