import Resilience.Settings.Load
import Resilience.Client.Build

/-! What the checks of settings accept. The settings that are sound are described here without the checks,
    and so is what there is to complain about, as conditions in the order in which they are looked at. Every
    check is the `report` of its conditions: it names the first one that does not hold, and so accepts the
    sound settings and no others. -/

namespace Resilience.Settings

open Float.Model (UnpackedFloat)

/-! ### Sound settings -/

structure Backoff.Sound (b : Backoff) : Prop where
  initial : 0 < b.initialInterval.nanos
  factor : b.strategy = .exponential → b.exponentFactor.isFinite = true ∧ 0.0 < b.exponentFactor
  bound : b.strategy = .exponential → b.initialInterval ≤ b.maxInterval

structure Breaker.Sound (b : Breaker) : Prop where
  threshold : 1 ≤ b.failureThreshold.toNat
  window : 0 < b.counterResetInterval.nanos
  openTime : 0 < b.openTimeout.nanos
  successes : 1 ≤ b.halfOpenMaxSuccesses.toNat
  backoff : b.openTimeoutBackoff.Sound

structure Client.Sound (s : Client) : Prop where
  backoff : s.backoff.Sound
  perCall : 0 < s.perCallTimeout.nanos
  breaker : s.breaker.Sound

/-- Every piece of a filter between its commas has something to say. -/
def NoBlankPiece (filter : String) : Prop :=
  ∀ piece ∈ filter.toList.splitOn ',', ∃ ch ∈ piece, Text.isBlank ch = false

instance (filter : String) : Decidable (NoBlankPiece filter) :=
  decidable_of_iff ((filter.toList.splitOn ',').all fun piece => piece.any fun ch => !Text.isBlank ch)
    (by simp [NoBlankPiece])

def Logging.Sound (l : Logging) : Prop := ∀ filter ∈ l.filter, NoBlankPiece filter

structure Config.Sound (c : Config) : Prop where
  client : c.client.Sound
  logging : c.logging.Sound

/-! ### Conditions -/

/-- What a setting must satisfy, and what is said of it if it does not. -/
structure Condition where
  holds : Prop
  [decidable : Decidable holds]
  domain : String
  field : String
  complaint : String

namespace Condition

attribute [instance] Condition.decidable

def violation (k : Condition) : Violation := ⟨k.domain, k.field ++ k.complaint⟩

def counting (n : UInt64) (field domain : String) : Condition where
  holds := 1 ≤ n.toNat
  domain
  field
  complaint := s!" must be greater than 0, got {n.toNat}"

def lasting (d : Duration) (field domain : String) : Condition where
  holds := 0 < d.nanos
  domain
  field
  complaint := " must be longer than 0"

def growing (x : Float) (field domain : String) : Condition where
  holds := x.isFinite = true ∧ 0.0 < x
  domain
  field
  complaint := s!" must be a finite number above 0, got {(Binary64.ofFloat x).display}"

/-- A condition on settings that are used only if `p` holds. -/
def when (p : Prop) [Decidable p] (k : Condition) : Condition where
  holds := p → k.holds
  domain := k.domain
  field := k.field
  complaint := k.complaint

end Condition

/-- What an exponential backoff must satisfy besides. -/
def Backoff.growth (b : Backoff) : List Condition :=
  [.growing b.exponentFactor "exponent_factor" "client.backoff",
   { holds := b.initialInterval ≤ b.maxInterval
     domain := "client.backoff"
     field := "max_interval"
     complaint := s!" ({b.maxInterval.text}) must not be shorter than " ++
       s!"initial_interval ({b.initialInterval.text})" }]

def Backoff.conditions (b : Backoff) : List Condition :=
  .lasting b.initialInterval "initial_interval" "client.backoff" ::
    b.growth.map (.when (b.strategy = .exponential))

/-- The backoff of the open time is reported as if it were that of the retries. -/
def Breaker.conditions (b : Breaker) : List Condition :=
  .counting b.failureThreshold "failure_threshold" "client.breaker" ::
    .lasting b.counterResetInterval "counter_reset_interval" "client.breaker" ::
    .lasting b.openTimeout "open_timeout" "client.breaker" ::
    .counting b.halfOpenMaxSuccesses "half_open_max_successes" "client.breaker" ::
    b.openTimeoutBackoff.conditions

def Client.conditions (s : Client) : List Condition :=
  s.backoff.conditions ++ .lasting s.perCallTimeout "per_call_timeout" "client" :: s.breaker.conditions

def Logging.conditions (l : Logging) : List Condition :=
  match l.filter with
  | none => []
  | some filter =>
    [{ holds := NoBlankPiece filter
       domain := "logging"
       field := "filter"
       complaint := s!" '{filter}' contains an empty directive" }]

def Config.conditions (c : Config) : List Condition := c.client.conditions ++ c.logging.conditions

/-! ### Reports -/

def report : List Condition → Except Violation Unit
  | [] => .ok ()
  | k :: rest => if k.holds then report rest else .error k.violation

theorem report_append (first rest : List Condition) :
    report (first ++ rest) = report first >>= fun _ => report rest := by
  induction first with
  | nil => rfl
  | cons k first ih =>
    by_cases h : k.holds
    · simp only [List.cons_append, report, h, ↓reduceIte, ih]
    · simp only [List.cons_append, report, h, ↓reduceIte]
      rfl

theorem report_ok_iff {conditions : List Condition} :
    report conditions = .ok () ↔ ∀ k ∈ conditions, k.holds := by
  induction conditions with
  | nil => simp [report]
  | cons k rest ih => by_cases h : k.holds <;> simp [report, h, ih]

/-- What is complained about is the first condition that does not hold: all before it do. -/
theorem report_error_iff {conditions : List Condition} {v : Violation} :
    report conditions = .error v ↔
      ∃ earlier k later, conditions = earlier ++ k :: later ∧ (∀ q ∈ earlier, q.holds) ∧ ¬k.holds ∧
        v = k.violation := by
  constructor
  · intro h
    induction conditions with
    | nil => cases h
    | cons k rest ih =>
      by_cases hk : k.holds
      · rw [report, if_pos hk] at h
        obtain ⟨earlier, q, later, rfl, hearlier, hq, hv⟩ := ih h
        exact ⟨k :: earlier, q, later, rfl, List.forall_mem_cons.mpr ⟨hk, hearlier⟩, hq, hv⟩
      · rw [report, if_neg hk] at h
        cases h
        exact ⟨[], k, rest, rfl, by simp, hk, rfl⟩
  · rintro ⟨earlier, k, later, rfl, hearlier, hk, rfl⟩
    rw [report_append, report_ok_iff.mpr hearlier]
    exact if_neg hk

theorem report_when (p : Prop) [Decidable p] (conditions : List Condition) :
    report (conditions.map (.when p)) = if p then report conditions else .ok () := by
  by_cases hp : p
  · rw [if_pos hp]
    induction conditions with
    | nil => rfl
    | cons k rest ih => simp [report, Condition.when, Condition.violation, hp, ih]
  · rw [if_neg hp, report_ok_iff]
    intro q hq
    obtain ⟨k, -, rfl⟩ := List.mem_map.mp hq
    exact fun h => absurd h hp

theorem require_bind {b : Bool} {k : Condition} {reason : String} (hb : b = true ↔ k.holds)
    (hr : reason = k.field ++ k.complaint) (rest : List Condition) :
    (require b k.domain reason >>= fun _ => report rest) = report (k :: rest) := by
  subst hr
  by_cases h : k.holds
  · rw [require, if_pos (hb.mpr h), report, if_pos h]
    rfl
  · rw [require, if_neg (h ∘ hb.mp), report, if_neg h]
    rfl

theorem require_eq {b : Bool} {k : Condition} {reason : String} (hb : b = true ↔ k.holds)
    (hr : reason = k.field ++ k.complaint) : require b k.domain reason = report [k] :=
  bind_pure_unit.symm.trans (require_bind hb hr [])

/-! ### Checks as reports -/

theorem positiveCount_bind (n : UInt64) (field domain : String) (rest : List Condition) :
    (positiveCount n.toNat field domain >>= fun _ => report rest) =
      report (.counting n field domain :: rest) := by
  refine require_bind (k := .counting n field domain) ?_ (String.append_assoc ..) rest
  simp [Condition.counting, Nat.pos_iff_ne_zero, Nat.one_le_iff_ne_zero]

theorem positiveDuration_bind (d : Duration) (field domain : String) (rest : List Condition) :
    (positiveDuration d field domain >>= fun _ => report rest) = report (.lasting d field domain :: rest) := by
  refine require_bind (k := .lasting d field domain) ?_ rfl rest
  simp [Condition.lasting, Duration.isZero, Nat.pos_iff_ne_zero]

/-- A finite double is either at most zero or above it. -/
theorem isFinite_and_not_le_zero (u : UnpackedFloat) :
    (u.isFinite && !u.le (.zero .positive)) = (u.isFinite && (UnpackedFloat.zero .positive).lt u) := by
  cases u with
  | notANumber | infinity => rfl
  | zero sign => cases sign <;> rfl
  | finite sign => cases sign <;> rfl

theorem isFinite_and_pos_iff (x : Float) :
    (x.isFinite && !decide (x ≤ 0.0)) = true ↔ x.isFinite = true ∧ 0.0 < x := by
  have hzero : (0.0 : Float).toModel.unpack = .zero .positive := rfl
  have hle : x ≤ 0.0 ↔ x.toModel.unpack.le (.zero .positive) = true := by
    simp only [LE.le, Float.le, decide_eq_true_eq, Float.Model.le, hzero]
  have hlt : 0.0 < x ↔ (UnpackedFloat.zero .positive).lt x.toModel.unpack = true := by
    simp only [LT.lt, Float.lt, decide_eq_true_eq, Float.Model.lt, hzero]
  rw [hlt, ← Bool.and_eq_true]
  simp only [hle, Bool.decide_eq_true]
  exact Bool.eq_iff_iff.mp (isFinite_and_not_le_zero x.toModel.unpack)

theorem finiteFactor_bind (x : Float) (field domain : String) (rest : List Condition) :
    (finiteFactor x field domain >>= fun _ => report rest) = report (.growing x field domain :: rest) :=
  require_bind (k := .growing x field domain) (isFinite_and_pos_iff x) (String.append_assoc ..) rest

theorem Backoff.validate_eq (b : Backoff) : b.validate = report b.conditions := by
  rw [conditions, ← positiveDuration_bind, report_when]
  cases hs : b.strategy with
  | constant =>
    rw [validate, hs]
    rfl
  | exponential =>
    rw [validate, hs, if_pos rfl, growth, ← finiteFactor_bind, ← require_eq decide_eq_true_iff rfl]
    rfl

theorem Breaker.validate_eq (b : Breaker) : b.validate = report b.conditions := by
  simp only [conditions, ← positiveCount_bind, ← positiveDuration_bind, ← Backoff.validate_eq]
  rfl

theorem Client.validate_eq (s : Client) : s.validate = report s.conditions := by
  rw [conditions, report_append, ← positiveDuration_bind, ← Backoff.validate_eq, ← Breaker.validate_eq]
  rfl

theorem Logging.validate_eq (l : Logging) : l.validate = report l.conditions := by
  rw [validate, conditions]
  cases l.filter with
  | none => rfl
  | some filter =>
    dsimp only
    refine require_eq (k := ⟨NoBlankPiece filter, _, _, _⟩) ?_ rfl
    simp [NoBlankPiece, filterPieces, Text.splitAt_eq_splitOn, Text.isBlankText]

theorem Config.validate_eq (c : Config) : c.validate = report c.conditions := by
  rw [conditions, report_append, ← Client.validate_eq, ← Logging.validate_eq]
  rfl

/-! ### What is accepted -/

theorem Backoff.sound_iff (b : Backoff) : b.Sound ↔ ∀ k ∈ b.conditions, k.holds := by
  simp only [conditions, growth, List.map_cons, List.map_nil, List.forall_mem_cons, List.not_mem_nil]
  constructor
  · intro h
    exact ⟨h.initial, h.factor, h.bound, fun _ hk => hk.elim⟩
  · rintro ⟨initial, factor, bound, -⟩
    exact ⟨initial, factor, bound⟩

theorem Breaker.sound_iff (b : Breaker) : b.Sound ↔ ∀ k ∈ b.conditions, k.holds := by
  simp only [conditions, List.forall_mem_cons, ← Backoff.sound_iff]
  constructor
  · intro h
    exact ⟨h.threshold, h.window, h.openTime, h.successes, h.backoff⟩
  · rintro ⟨threshold, window, openTime, successes, backoff⟩
    exact ⟨threshold, window, openTime, successes, backoff⟩

theorem Client.sound_iff (s : Client) : s.Sound ↔ ∀ k ∈ s.conditions, k.holds := by
  simp only [conditions, List.forall_mem_append, List.forall_mem_cons, ← Backoff.sound_iff,
    ← Breaker.sound_iff]
  constructor
  · intro h
    exact ⟨h.backoff, h.perCall, h.breaker⟩
  · rintro ⟨backoff, perCall, breaker⟩
    exact ⟨backoff, perCall, breaker⟩

theorem Logging.sound_iff (l : Logging) : l.Sound ↔ ∀ k ∈ l.conditions, k.holds := by
  rw [Sound, conditions]
  cases l.filter <;> simp

theorem Config.sound_iff (c : Config) : c.Sound ↔ ∀ k ∈ c.conditions, k.holds := by
  simp only [conditions, List.forall_mem_append, ← Client.sound_iff, ← Logging.sound_iff]
  constructor
  · intro h
    exact ⟨h.client, h.logging⟩
  · rintro ⟨client, logging⟩
    exact ⟨client, logging⟩

theorem Config.sound_default : ({} : Config).Sound := (sound_iff {}).mpr (by decide)

theorem Client.validate_ok_iff (s : Client) : s.validate = .ok () ↔ s.Sound := by
  rw [validate_eq, report_ok_iff, sound_iff]

theorem Config.validate_ok_iff (c : Config) : c.validate = .ok () ↔ c.Sound := by
  rw [validate_eq, report_ok_iff, sound_iff]

/-- Loading ends well with what was gathered, and only if that is sound. -/
theorem Config.load_ok_iff (stem : String) (env : Environment) (file : Option File) (c : Config) :
    (load stem env file).config = .ok c ↔ gather stem env file = .ok c ∧ c.Sound := by
  rw [load]
  cases hg : gather stem env file with
  | error e => simp
  | ok gathered =>
    rw [Except.ok.injEq]
    cases hv : gathered.validate with
    | ok _ =>
      have hs : gathered.Sound := gathered.validate_ok_iff.mp hv
      simp only [hv, Except.ok.injEq]
      exact ⟨fun h => ⟨h, h ▸ hs⟩, fun h => h.1⟩
    | error v =>
      have hs : ¬gathered.Sound := by
        intro hs
        rw [gathered.validate_ok_iff.mpr hs] at hv
        cases hv
      simp only [hv, reduceCtorEq, false_iff]
      rintro ⟨rfl, hsound⟩
      exact hs hsound

theorem ofSettings_ok_iff (callId : Nat → String) (s : Client) :
    (∃ client, Client.ofSettings callId s = .ok client) ↔ s.Sound := by
  rw [← s.validate_ok_iff, Client.ofSettings]
  cases s.validate with
  | ok _ => exact ⟨fun _ => rfl, fun _ => ⟨_, rfl⟩⟩
  | error v =>
    constructor
    · rintro ⟨client, h⟩
      cases h
    · intro h
      cases h

/-- Checking accepts the sound configurations and no others, and of the conditions that a configuration
    violates it reports the first. So a configuration that was loaded is sound, wherever it came from, and
    a client is built from sound client settings and from no others. -/
theorem Config.validation_law (c : Config) :
    (c.validate = .ok () ↔ c.Sound) ∧
      (∀ v, c.validate = .error v ↔
        ∃ earlier k later, c.conditions = earlier ++ k :: later ∧ (∀ q ∈ earlier, q.holds) ∧ ¬k.holds ∧
          v = k.violation) ∧
      (∀ stem env file, (load stem env file).config = .ok c ↔ gather stem env file = .ok c ∧ c.Sound) ∧
      ∀ callId, (∃ client, Client.ofSettings callId c.client = .ok client) ↔ c.client.Sound := by
  refine ⟨c.validate_ok_iff, fun v => ?_, fun stem env file => load_ok_iff stem env file c,
    fun callId => ofSettings_ok_iff callId c.client⟩
  rw [validate_eq]
  exact report_error_iff

end Resilience.Settings
