import Resilience.Proofs.Text.Lowercase
import Resilience.Settings.Load

/-! What environment variables do to a configuration. Every variable has a kind, which says what texts are
    values of it; a variable that is set to a value puts that value into its own setting, and a variable
    that is not set leaves its setting alone. A text that is no value of its variable's kind ends the
    overlay, and of several such texts the first is reported. -/

namespace Resilience.Settings

open Text (sameIgnoringCase lowercase lowercase_eq_iff)

/-! ### Kinds of values -/

/-- What a variable holds. -/
inductive Kind : Type → Type 1
  | count32 : Kind UInt32
  | count64 : Kind UInt64
  | real : Kind Float
  | truth : Kind Bool
  | duration : Kind Duration
  | strategy : Kind Strategy
  | level : Kind Level
  | format : Kind Format
  /-- Any text, also an empty one. -/
  | text : Kind (Option String)

/-- The meaning of a word in letters of either case, if it is one of these. -/
def meaning? {α : Type} (words : List (String × α)) (s : String) : Option α :=
  (words.find? fun w => sameIgnoringCase w.1 s).map (·.2)

def strategyWords : List (String × Strategy) := [("constant", .constant), ("exponential", .exponential)]

/-- A warning may be spelled out. -/
def levelWords : List (String × Level) :=
  [("error", .error), ("warn", .warn), ("warning", .warn), ("info", .info), ("debug", .debug),
   ("trace", .trace)]

def formatWords : List (String × Format) :=
  [("json", .json), ("text", .text), ("compact", .compact), ("pretty", .pretty)]

/-- The value that a text is for the variable of this name, or what is said of a text that is none. Blanks
    around numbers, truth values and durations do not count. -/
def Kind.read {α : Type} (name : String) : Kind α → String → Except VariableError α
  | .count32, s => (Text.count32 (Text.trim s)).mapError fun e => .invalid name e.message
  | .count64, s => (Text.count64 (Text.trim s)).mapError fun e => .invalid name e.message
  | .real, s => (Text.float (Text.trim s)).mapError fun e => .invalid name e.message
  | .truth, s => (Text.boolean (Text.trim s)).mapError fun e => .invalid name e.message
  | .duration, s =>
    (Notation.read (Text.trim s)).mapError fun
      | .overflow cause => .overflow cause
      | e => .invalid name e.message
  | .strategy, s =>
    (meaning? strategyWords s).elim
      (.error (.violation ⟨"client", s!"strategy has invalid value '{s}'. Valid choices: constant, exponential"⟩))
      .ok
  | .level, s => (meaning? levelWords s).elim (.error (.invalid name s)) .ok
  | .format, s => (meaning? formatWords s).elim (.error (.invalid name s)) .ok
  | .text, s => .ok (some s)

/-! ### Slots -/

/-- A variable by its name and its kind. -/
structure Slot where
  name : String
  {α : Type}
  kind : Kind α

/-- The variables in the order in which they are looked at. -/
def slots : List Slot :=
  [⟨"MAX_RETRY_ATTEMPTS", .count32⟩, ⟨"PER_CALL_TIMEOUT", .duration⟩, ⟨"BACKOFF_STRATEGY", .strategy⟩,
   ⟨"BACKOFF_INITIAL_INTERVAL", .duration⟩, ⟨"BACKOFF_MAX_INTERVAL", .duration⟩,
   ⟨"BACKOFF_EXPONENT_FACTOR", .real⟩, ⟨"BREAKER_FAILURE_THRESHOLD", .count64⟩,
   ⟨"BREAKER_COUNTER_RESET_INTERVAL", .duration⟩, ⟨"BREAKER_OPEN_TIMEOUT", .duration⟩,
   ⟨"BREAKER_HALF_OPEN_MAX_SUCCESSES", .count64⟩, ⟨"BREAKER_FAIL_ON_CANCEL", .truth⟩,
   ⟨"BREAKER_FAIL_ON_DEADLINE", .truth⟩, ⟨"LOG_LEVEL", .level⟩, ⟨"LOG_FORMAT", .format⟩,
   ⟨"LOG_FILTER", .text⟩]

/-- The text that a variable is set to. -/
def Slot.text? (stem : String) (env : Environment) (v : Slot) : Option String := env (stem ++ "_" ++ v.name)

/-- The value that a variable is set to, or the reason why its text is none. -/
def Slot.value? (stem : String) (env : Environment) (v : Slot) : Option (Except VariableError v.α) :=
  (v.text? stem env).map (v.kind.read v.name)

/-- Whether a variable, if it is set at all, is set to a value. -/
def Slot.Acceptable (stem : String) (env : Environment) (v : Slot) : Prop :=
  ∀ s ∈ v.text? stem env, ∃ value, v.kind.read v.name s = .ok value

/-- The setting of a variable: its value if it is set, and else what the setting was before. -/
def setting {α : Type} (stem : String) (env : Environment) (name : String) (kind : Kind α) (before : α) : α :=
  match (Slot.mk name kind).value? stem env with
  | some (.ok value) => value
  | _ => before

/-- A configuration in which every variable has put its value into its setting. -/
def Config.overlaid (stem : String) (env : Environment) (base : Config) : Config :=
  let now {α : Type} (name : String) (kind : Kind α) (before : α) : α := setting stem env name kind before
  { client :=
      { backoff :=
          { strategy := now "BACKOFF_STRATEGY" .strategy base.client.backoff.strategy
            initialInterval := now "BACKOFF_INITIAL_INTERVAL" .duration base.client.backoff.initialInterval
            maxInterval := now "BACKOFF_MAX_INTERVAL" .duration base.client.backoff.maxInterval
            exponentFactor := now "BACKOFF_EXPONENT_FACTOR" .real base.client.backoff.exponentFactor }
        maxRetryAttempts := now "MAX_RETRY_ATTEMPTS" .count32 base.client.maxRetryAttempts
        perCallTimeout := now "PER_CALL_TIMEOUT" .duration base.client.perCallTimeout
        breaker :=
          { failureThreshold := now "BREAKER_FAILURE_THRESHOLD" .count64 base.client.breaker.failureThreshold
            counterResetInterval :=
              now "BREAKER_COUNTER_RESET_INTERVAL" .duration base.client.breaker.counterResetInterval
            openTimeout := now "BREAKER_OPEN_TIMEOUT" .duration base.client.breaker.openTimeout
            openTimeoutBackoff := base.client.breaker.openTimeoutBackoff
            halfOpenMaxSuccesses :=
              now "BREAKER_HALF_OPEN_MAX_SUCCESSES" .count64 base.client.breaker.halfOpenMaxSuccesses
            failOnCancel := now "BREAKER_FAIL_ON_CANCEL" .truth base.client.breaker.failOnCancel
            failOnDeadline := now "BREAKER_FAIL_ON_DEADLINE" .truth base.client.breaker.failOnDeadline } }
    logging :=
      { level := now "LOG_LEVEL" .level base.logging.level
        format := now "LOG_FORMAT" .format base.logging.format
        filter := now "LOG_FILTER" .text base.logging.filter
        includeLocation := base.logging.includeLocation
        includeThreadIds := base.logging.includeThreadIds } }

/-! ### Words -/

theorem meaning?_cons {α : Type} (word : String) (x : α) (words : List (String × α)) (s : String) :
    meaning? ((word, x) :: words) s = if sameIgnoringCase word s then some x else meaning? words s := by
  unfold meaning?
  rw [List.find?_cons]
  cases sameIgnoringCase word s <;> rfl

theorem meaning?_nil {α : Type} (s : String) : meaning? ([] : List (String × α)) s = none := rfl

theorem toOption_parseStrategy (s : String) : (Strategy.parse s).toOption = meaning? strategyWords s := by
  simp only [Strategy.parse, lowercase_eq_iff "constant" (by decide),
    lowercase_eq_iff "exponential" (by decide), apply_ite Except.toOption, strategyWords,
    meaning?_cons, meaning?_nil]
  rfl

theorem toOption_parseLevel (s : String) : (parseLevel s).toOption = meaning? levelWords s := by
  simp only [parseLevel, lowercase_eq_iff "error" (by decide),
    lowercase_eq_iff "warn" (by decide), lowercase_eq_iff "warning" (by decide),
    lowercase_eq_iff "info" (by decide), lowercase_eq_iff "debug" (by decide),
    lowercase_eq_iff "trace" (by decide), apply_ite Except.toOption, levelWords, meaning?_cons,
    meaning?_nil]
  -- Both words for a warning mean the same.
  cases sameIgnoringCase "warn" s <;> cases sameIgnoringCase "warning" s <;> rfl

theorem toOption_parseFormat (s : String) : (Format.parse s).toOption = meaning? formatWords s := by
  simp only [Format.parse, lowercase_eq_iff "json" (by decide),
    lowercase_eq_iff "text" (by decide), lowercase_eq_iff "compact" (by decide),
    lowercase_eq_iff "pretty" (by decide), apply_ite Except.toOption, formatWords, meaning?_cons,
    meaning?_nil]
  rfl

/-! ### Variables and their slots -/

/-- The variable reads texts as values of this kind, and a value replaces what `get` finds. -/
structure Variable.Fills {α : Type} (v : Variable) (name : String) (kind : Kind α) (get : Config → α)
    (set : α → Config → Config) : Prop where
  called : v.name = name
  reads : ∀ s c, v.apply s c = (kind.read name s).map fun value => set value c
  unchanged : ∀ c, set (get c) c = c

section
variable {α : Type} {name : String} (kind : Kind α) {get : Config → α} {set : α → Config → Config}

theorem fills_number {read : String → Except Text.NumberError α} (get : Config → α)
    (hk : ∀ s, kind.read name s = (read (Text.trim s)).mapError fun e => .invalid name e.message)
    (unchanged : ∀ c, set (get c) c = c) : (Variable.number name read set).Fills name kind get set where
  called := rfl
  reads s c := by
    rw [hk]
    dsimp only [Variable.number]
    cases read (Text.trim s) <;> rfl
  unchanged

theorem fills_duration {set : Duration → Config → Config} (get : Config → Duration)
    (unchanged : ∀ c, set (get c) c = c) : (Variable.duration name set).Fills name .duration get set where
  called := rfl
  reads s c := by
    dsimp only [Kind.read, Variable.duration]
    rcases Notation.read (Text.trim s) with fault | d
    · cases fault <;> rfl
    · rfl
  unchanged

theorem fills_word {parse : String → Except String α} {words : List (String × α)} (get : Config → α)
    (hk : ∀ s, kind.read name s = (meaning? words s).elim (.error (.invalid name s)) .ok)
    (hparse : ∀ s, (parse s).toOption = meaning? words s) (unchanged : ∀ c, set (get c) c = c) :
    (Variable.word name parse set).Fills name kind get set where
  called := rfl
  reads s c := by
    rw [hk, ← hparse]
    dsimp only [Variable.word]
    cases parse s <;> rfl
  unchanged

/-- The comparison with the choices accepts the words that are then read, so reading never fails. -/
theorem fills_strategy {set : Strategy → Config → Config} (get : Config → Strategy)
    (unchanged : ∀ c, set (get c) c = c) : (Variable.strategy name set).Fills name .strategy get set where
  called := rfl
  reads s c := by
    have hparse := toOption_parseStrategy s
    have hchoices : oneOf Strategy.choices s "strategy" Client.domain =
        if (meaning? strategyWords s).isSome then .ok () else
          .error ⟨"client", s!"strategy has invalid value '{s}'. Valid choices: constant, exponential"⟩ := by
      simp only [strategyWords, meaning?_cons, meaning?_nil]
      unfold oneOf require Strategy.choices
      simp only [List.any_cons, List.any_nil, Bool.or_false]
      cases sameIgnoringCase "constant" s <;> cases sameIgnoringCase "exponential" s
      · have hreason : "strategy" ++ " has invalid value '" ++ s ++ "'. Valid choices: " ++ "constant, exponential" =
            "strategy has invalid value '" ++ s ++ "'. Valid choices: constant, exponential" :=
          String.append_assoc ..
        exact congrArg (fun reason => Except.error (Violation.mk "client" reason)) hreason
      · rfl
      · rfl
      · rfl
    dsimp only [Kind.read, Variable.strategy]
    rw [hchoices]
    cases hm : meaning? strategyWords s with
    | none => rfl
    | some value =>
      rw [hm] at hparse
      cases hp : Strategy.parse s with
      | error e =>
        rw [hp] at hparse
        cases hparse
      | ok value' =>
        rw [hp] at hparse
        cases hparse
        rfl
  unchanged

theorem fills_text (set : Option String → Config → Config) (get : Config → Option String)
    (unchanged : ∀ c, set (get c) c = c) :
    (Variable.text name fun s => set (some s)).Fills name .text get set where
  called := rfl
  reads _ _ := rfl
  unchanged

end

/-! ### The overlay -/

/-- Why the text of a variable is refused, if it is set and is. -/
def Slot.refusal? (stem : String) (env : Environment) (v : Slot) : Option VariableError :=
  match v.value? stem env with
  | some (.error e) => some e
  | _ => none

theorem Slot.refusal?_eq_none_iff {stem : String} {env : Environment} {v : Slot} :
    v.refusal? stem env = none ↔ v.Acceptable stem env := by
  unfold Slot.refusal? Slot.Acceptable Slot.value?
  cases v.text? stem env with
  | none => simp
  | some s => cases h : v.kind.read v.name s <;> simp [h]

theorem Slot.refusal?_eq_some_iff {stem : String} {env : Environment} {v : Slot} {e : VariableError} :
    v.refusal? stem env = some e ↔ ∃ s, v.text? stem env = some s ∧ v.kind.read v.name s = .error e := by
  unfold Slot.refusal? Slot.value?
  cases v.text? stem env with
  | none => simp
  | some s => cases h : v.kind.read v.name s <;> simp [h]

section
variable {stem : String} {env : Environment}

theorem Variable.Fills.overlay {α : Type} {v : Variable} {name : String} {kind : Kind α} {get : Config → α}
    {set : α → Config → Config} (h : v.Fills name kind get set) (c : Config) :
    v.overlay stem env c =
      match (Slot.mk name kind).refusal? stem env with
      | some e => .error e
      | none => .ok (set (setting stem env name kind (get c)) c) := by
  unfold Variable.overlay Slot.refusal? setting Slot.value? Slot.text?
  rw [h.called]
  cases env (stem ++ "_" ++ name) with
  | none => exact congrArg Except.ok (h.unchanged c).symm
  | some s =>
    dsimp only [Option.map_some]
    rw [h.reads]
    cases kind.read name s <;> rfl

/-- The variables fill the slots, and together they change a configuration by `f`. -/
inductive FillAll (stem : String) (env : Environment) : List Variable → List Slot → (Config → Config) → Prop
  | nil : FillAll stem env [] [] id
  | cons {α : Type} {v : Variable} {vs : List Variable} {name : String} {kind : Kind α} {slots : List Slot}
    {get : Config → α} {set : α → Config → Config} {f : Config → Config} (h : v.Fills name kind get set)
    (rest : FillAll stem env vs slots f) :
    FillAll stem env (v :: vs) (⟨name, kind⟩ :: slots) fun c => f (set (setting stem env name kind (get c)) c)

/-- The first variable that is refused ends the overlay. -/
theorem FillAll.overlay {vs : List Variable} {slots : List Slot} {f : Config → Config}
    (h : FillAll stem env vs slots f) (c : Config) :
    vs.foldlM (Variable.overlay stem env) c =
      match slots.findSome? (Slot.refusal? stem env) with
      | some e => .error e
      | none => .ok (f c) := by
  induction h generalizing c with
  | nil => rfl
  | cons h rest ih =>
    rw [List.foldlM_cons, h.overlay, List.findSome?_cons]
    split
    · rename_i hr
      rw [hr]
      rfl
    · rename_i hr
      rw [hr]
      exact ih _

/-- All fifteen variables fill their slots. -/
theorem fillAll (stem : String) (env : Environment) :
    FillAll stem env Variable.all slots (Config.overlaid stem env) := by
  have h : FillAll stem env Variable.all slots _ :=
    .cons (fills_number .count32 (fun c => c.client.maxRetryAttempts) (fun _ => rfl) fun _ => rfl) <|
    .cons (fills_duration (fun c => c.client.perCallTimeout) fun _ => rfl) <|
    .cons (fills_strategy (fun c => c.client.backoff.strategy) fun _ => rfl) <|
    .cons (fills_duration (fun c => c.client.backoff.initialInterval) fun _ => rfl) <|
    .cons (fills_duration (fun c => c.client.backoff.maxInterval) fun _ => rfl) <|
    .cons (fills_number .real (fun c => c.client.backoff.exponentFactor) (fun _ => rfl) fun _ => rfl) <|
    .cons (fills_number .count64 (fun c => c.client.breaker.failureThreshold) (fun _ => rfl) fun _ => rfl) <|
    .cons (fills_duration (fun c => c.client.breaker.counterResetInterval) fun _ => rfl) <|
    .cons (fills_duration (fun c => c.client.breaker.openTimeout) fun _ => rfl) <|
    .cons (fills_number .count64 (fun c => c.client.breaker.halfOpenMaxSuccesses) (fun _ => rfl)
      fun _ => rfl) <|
    .cons (fills_number .truth (fun c => c.client.breaker.failOnCancel) (fun _ => rfl) fun _ => rfl) <|
    .cons (fills_number .truth (fun c => c.client.breaker.failOnDeadline) (fun _ => rfl) fun _ => rfl) <|
    .cons (fills_word .level (fun c => c.logging.level) (fun _ => rfl) toOption_parseLevel fun _ => rfl) <|
    .cons (fills_word .format (fun c => c.logging.format) (fun _ => rfl) toOption_parseFormat fun _ => rfl) <|
    .cons (fills_text (fun x => Config.mapLogging fun l => { l with filter := x })
      (fun c => c.logging.filter) fun _ => rfl) .nil
  exact h

end

namespace Config

theorem overlay_ok_iff (stem : String) (env : Environment) (base c : Config) :
    base.overlay stem env = .ok c ↔ (∀ v ∈ slots, v.Acceptable stem env) ∧ c = base.overlaid stem env := by
  have h : base.overlay stem env = _ := (fillAll stem env).overlay base
  have hnone : slots.findSome? (Slot.refusal? stem env) = none ↔ ∀ v ∈ slots, v.Acceptable stem env := by
    simp only [List.findSome?_eq_none_iff, Slot.refusal?_eq_none_iff]
  rw [h, ← hnone]
  cases slots.findSome? (Slot.refusal? stem env) with
  | none => simp [eq_comm]
  | some e => simp

theorem overlay_error_iff (stem : String) (env : Environment) (base : Config) (e : VariableError) :
    base.overlay stem env = .error e ↔
      ∃ earlier v later s, slots = earlier ++ v :: later ∧ (∀ q ∈ earlier, q.Acceptable stem env) ∧
        v.text? stem env = some s ∧ v.kind.read v.name s = .error e := by
  have h : base.overlay stem env = _ := (fillAll stem env).overlay base
  have hsome : slots.findSome? (Slot.refusal? stem env) = some e ↔
      ∃ earlier v later s, slots = earlier ++ v :: later ∧ (∀ q ∈ earlier, q.Acceptable stem env) ∧
        v.text? stem env = some s ∧ v.kind.read v.name s = .error e := by
    simp only [List.findSome?_eq_some_iff, Slot.refusal?_eq_none_iff, Slot.refusal?_eq_some_iff]
    constructor
    · rintro ⟨earlier, v, later, hslots, ⟨s, hs, hread⟩, hearlier⟩
      exact ⟨earlier, v, later, s, hslots, hearlier, hs, hread⟩
    · rintro ⟨earlier, v, later, s, hslots, hearlier, hs, hread⟩
      exact ⟨earlier, v, later, hslots, ⟨s, hs, hread⟩, hearlier⟩
  rw [h, ← hsome]
  cases slots.findSome? (Slot.refusal? stem env) with
  | none => simp
  | some e' => simp

/-- What the variables are laid over: the configuration in the file if there is one, and else the
    default. -/
def base (file : Option File) : Except LoadError Config :=
  match file with
  | some f => f.config
  | none => .ok {}

theorem load_of_fault {file : Option File} {e : LoadError} (h : base file = .error e) (stem : String)
    (env : Environment) : (load stem env file).config = .error e := by
  have hg : gather stem env file = .error e := by
    unfold gather
    cases file with
    | none => cases h
    | some f =>
      have hf : f.config = .error e := h
      dsimp only
      rw [hf]
      rfl
  unfold load
  rw [hg]

/-- Loading checks what the overlay comes to and nothing else. -/
theorem load_of_base {file : Option File} {b : Config} (h : base file = .ok b) (stem : String)
    (env : Environment) :
    (load stem env file).config =
      match b.overlay stem env with
      | .error e => .error (.ofVariable e)
      | .ok c =>
        match c.validate with
        | .ok () => .ok c
        | .error v => .error (.violation v) := by
  have hg : gather stem env file = (b.overlay stem env).mapError .ofVariable := by
    unfold gather
    cases file with
    | none =>
      cases h
      dsimp only [bind, Except.bind]
      cases overlay stem env {} <;> rfl
    | some f =>
      have hf : f.config = .ok b := h
      dsimp only
      rw [hf]
      dsimp only [bind, Except.bind]
      cases b.overlay stem env <;> rfl
  unfold load
  rw [hg]
  cases b.overlay stem env <;> rfl

theorem load_ok_iff_overlaid (stem : String) (env : Environment) (file : Option File) (c : Config) :
    (load stem env file).config = .ok c ↔ ∃ b, base file = .ok b ∧
      (∀ v ∈ slots, v.Acceptable stem env) ∧ c = b.overlaid stem env ∧ c.validate = .ok () := by
  cases hb : base file with
  | error e => simp [load_of_fault hb]
  | ok b =>
    have hover : (∀ v ∈ slots, v.Acceptable stem env) ∧ c = b.overlaid stem env ∧ c.validate = .ok () ↔
        b.overlay stem env = .ok c ∧ c.validate = .ok () := by
      rw [overlay_ok_iff, and_assoc]
    simp only [Except.ok.injEq, exists_eq_left', hover, load_of_base hb]
    cases b.overlay stem env with
    | error e => simp
    | ok c' =>
      simp only [Except.ok.injEq]
      cases hv : c'.validate with
      | ok _ =>
        constructor
        · intro h
          cases h
          exact ⟨rfl, hv⟩
        · rintro ⟨rfl, -⟩
          rfl
      | error v =>
        constructor
        · exact nofun
        · rintro ⟨rfl, h⟩
          cases hv.symm.trans h

theorem load_error_iff (stem : String) (env : Environment) (file : Option File) (e : LoadError) :
    (load stem env file).config = .error e ↔ base file = .error e ∨ ∃ b, base file = .ok b ∧
      ((∃ refused, b.overlay stem env = .error refused ∧ e = .ofVariable refused) ∨
        (∀ v ∈ slots, v.Acceptable stem env) ∧
          ∃ v, (b.overlaid stem env).validate = .error v ∧ e = .violation v) := by
  cases hb : base file with
  | error e' => simp [load_of_fault hb]
  | ok b =>
    have ho := overlay_ok_iff stem env b
    simp only [reduceCtorEq, false_or, Except.ok.injEq, exists_eq_left', load_of_base hb]
    cases hov : b.overlay stem env with
    | error refused =>
      have hnot : ¬∀ v ∈ slots, v.Acceptable stem env := by
        intro hall
        cases hov.symm.trans ((ho _).mpr ⟨hall, rfl⟩)
      simp [hnot, eq_comm]
    | ok c =>
      obtain ⟨hall, rfl⟩ := (ho c).mp hov
      cases hv : (b.overlaid stem env).validate with
      | ok _ => simp [hv]
      | error v =>
        simp only [hv, Except.error.injEq, reduceCtorEq, false_and, exists_false, false_or]
        constructor
        · rintro rfl
          exact ⟨hall, v, rfl, rfl⟩
        · rintro ⟨-, _, rfl, rfl⟩
          rfl

/-- The overlay succeeds exactly if every variable that is set is set to a value, and then it is the
    configuration in which these values stand in their settings; otherwise it reports the first variable
    that is set to something else. Loading checks the result of the overlay and nothing else, so it does not
    matter what a setting was before a variable replaced it. -/
theorem overlay_law (stem : String) (env : Environment) :
    (∀ base c : Config, base.overlay stem env = .ok c ↔
      (∀ v ∈ slots, v.Acceptable stem env) ∧ c = base.overlaid stem env) ∧
    (∀ (base : Config) e, base.overlay stem env = .error e ↔
      ∃ earlier v later s, slots = earlier ++ v :: later ∧ (∀ q ∈ earlier, q.Acceptable stem env) ∧
        v.text? stem env = some s ∧ v.kind.read v.name s = .error e) ∧
    (∀ file c, (load stem env file).config = .ok c ↔ ∃ b, base file = .ok b ∧
      (∀ v ∈ slots, v.Acceptable stem env) ∧ c = b.overlaid stem env ∧ c.validate = .ok ()) ∧
    ∀ file e, (load stem env file).config = .error e ↔ base file = .error e ∨ ∃ b, base file = .ok b ∧
      ((∃ refused, b.overlay stem env = .error refused ∧ e = .ofVariable refused) ∨
        (∀ v ∈ slots, v.Acceptable stem env) ∧
          ∃ v, (b.overlaid stem env).validate = .error v ∧ e = .violation v) :=
  ⟨overlay_ok_iff stem env, overlay_error_iff stem env, load_ok_iff_overlaid stem env, load_error_iff stem env⟩

end Config

end Resilience.Settings
