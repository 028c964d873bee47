import Resilience.Proofs.Json.Records
import Resilience.Proofs.Time.Notation

/-! The trees in which documents are kept. Some keep the members of an object in their order; JSON keeps them
    sorted by key and has no numbers that are not finite. Of an object with distinct keys, both have the same
    value under every key (`keeps_canonical`). -/

namespace Resilience.Json

mutual

/-- A value as JSON has it: the members of every object sorted by key, and nothing in place of a number that
    is not finite. -/
def canonical : Json → Json
  | .number (.float x) => if x.isFinite then .number (.float x) else .null
  | .array items => .array (canonicalItems items)
  | .object members => .object (sortedMembers (canonicalEach members))
  | v => v

def canonicalItems : List Json → List Json
  | [] => []
  | v :: items => canonical v :: canonicalItems items

def canonicalEach : List (String × Json) → List (String × Json)
  | [] => []
  | (key, v) :: members => (key, canonical v) :: canonicalEach members

end

/-- A form of trees that keeps single values, and objects with distinct keys up to the order of their members. -/
structure Keeps (form : Json → Json) : Prop where
  null : form .null = .null
  bool : ∀ b, form (.bool b) = .bool b
  text : ∀ s, form (.text s) = .text s
  whole : ∀ n, form (.number (.whole n)) = .number (.whole n)
  float : ∀ x : Float, x.isFinite = true → form (.number (.float x)) = .number (.float x)
  object : ∀ members : List (String × Json), (members.map (·.1)).Nodup →
    ∃ members', form (.object members) = .object members' ∧ (members'.map (·.1)).Nodup ∧
      ∀ key, find? key members' = (find? key members).map form

/-! ### Members in another order -/

theorem find?_eq_some_iff {members : List (String × Json)} (hnodup : (members.map (·.1)).Nodup) {key : String}
    {v : Json} : find? key members = some v ↔ (key, v) ∈ members := by
  induction members with
  | nil => simp [find?]
  | cons member members ih =>
    obtain ⟨name, x⟩ := member
    rw [List.map_cons, List.nodup_cons] at hnodup
    by_cases h : name = key
    · subst h
      have hother : (name, v) ∉ members := fun hmem => hnodup.1 (List.mem_map_of_mem (f := (·.1)) hmem)
      simp [find?_cons_self rfl, hother, eq_comm]
    · rw [find?_cons_of_ne h, ih hnodup.2]
      simp [Ne.symm h]

/-- The order of members with distinct keys does not matter. -/
theorem find?_perm {members members' : List (String × Json)} (h : members'.Perm members)
    (hnodup : (members.map (·.1)).Nodup) (key : String) : find? key members' = find? key members := by
  have hnodup' : (members'.map (·.1)).Nodup := (h.map _).nodup_iff.2 hnodup
  apply Option.ext
  intro v
  rw [find?_eq_some_iff hnodup, find?_eq_some_iff hnodup', h.mem_iff]

theorem insert_perm {key : String} (v : Json) {members : List (String × Json)}
    (h : key ∉ members.map (·.1)) : (insert key v members).Perm ((key, v) :: members) := by
  induction members with
  | nil => exact .refl _
  | cons member members ih =>
    obtain ⟨name, x⟩ := member
    rw [List.map_cons, List.mem_cons, not_or] at h
    rw [insert, if_neg h.1]
    split
    · exact .refl _
    · exact ((ih h.2).cons (name, x)).trans (.swap ..)

theorem foldl_insert_perm {members sorted : List (String × Json)}
    (hnodup : ((members ++ sorted).map (·.1)).Nodup) :
    (members.foldl (fun sorted member => insert member.1 member.2 sorted) sorted).Perm (members ++ sorted) := by
  induction members generalizing sorted with
  | nil => exact .refl _
  | cons member members ih =>
    rw [List.cons_append, List.map_cons, List.nodup_cons] at hnodup
    have hnew : member.1 ∉ sorted.map (·.1) := fun hmem =>
      hnodup.1 (by rw [List.map_append]; exact List.mem_append_right _ hmem)
    have hinsert := insert_perm member.2 hnew
    have hmiddle : (members ++ insert member.1 member.2 sorted).Perm (member :: (members ++ sorted)) :=
      (hinsert.append_left members).trans List.perm_middle
    refine (ih ?_).trans hmiddle
    rw [(hmiddle.map (·.1)).nodup_iff, List.map_cons, List.nodup_cons]
    exact hnodup

theorem sortedMembers_perm {members : List (String × Json)} (hnodup : (members.map (·.1)).Nodup) :
    (sortedMembers members).Perm members := by
  have h : (sortedMembers members).Perm (members ++ []) := foldl_insert_perm (by rwa [List.append_nil])
  rwa [List.append_nil] at h

/-! ### Forms -/

theorem canonicalEach_eq_map (members : List (String × Json)) :
    canonicalEach members = members.map fun m => (m.1, m.2.canonical) := by
  induction members with
  | nil => rfl
  | cons member members ih => rw [canonicalEach, ih, List.map_cons]

theorem find?_map (f : Json → Json) (key : String) (members : List (String × Json)) :
    find? key (members.map fun m => (m.1, f m.2)) = (find? key members).map f := by
  induction members with
  | nil => rfl
  | cons member members ih =>
    obtain ⟨name, v⟩ := member
    by_cases h : name = key
    · rw [List.map_cons, find?_cons_self h.symm, find?_cons_self h.symm, Option.map_some]
    · rw [List.map_cons, find?_cons_of_ne h, find?_cons_of_ne h, ih]

theorem keeps_id : Keeps id where
  null := rfl
  bool _ := rfl
  text _ := rfl
  whole _ := rfl
  float _ _ := rfl
  object members hnodup := ⟨members, rfl, hnodup, fun key => by rw [Option.map_id]; rfl⟩

theorem keeps_canonical : Keeps canonical where
  null := by simp [canonical]
  bool _ := by simp [canonical]
  text _ := by simp [canonical]
  whole _ := by simp [canonical]
  float x hx := by rw [canonical, if_pos hx]
  object members hnodup := by
    have hkeys : ((canonicalEach members).map (·.1)) = members.map (·.1) := by
      rw [canonicalEach_eq_map, List.map_map]
      rfl
    have hperm := sortedMembers_perm (hkeys ▸ hnodup)
    refine ⟨_, by rw [canonical], (hperm.map _).nodup_iff.2 (hkeys ▸ hnodup), fun key => ?_⟩
    rw [find?_perm hperm (hkeys ▸ hnodup), canonicalEach_eq_map, find?_map]

/-- An object with one member has no other order. -/
theorem Keeps.single {form : Json → Json} (h : Keeps form) (key : String) (v : Json) :
    form (.object [(key, v)]) = .object [(key, form v)] := by
  obtain ⟨members, hobject, hkeys, hfind⟩ := h.object [(key, v)] (by simp)
  have hmem : ∀ m, m ∈ members ↔ m ∈ [(key, form v)] := by
    rintro ⟨name, x⟩
    rw [← find?_eq_some_iff hkeys, hfind, List.mem_singleton, Prod.mk.injEq]
    by_cases hname : key = name
    · rw [find?_cons_self hname.symm, Option.map_some, Option.some.injEq]
      simp [hname, eq_comm]
    · rw [find?_cons_of_ne hname]
      simp [find?, Ne.symm hname]
  cases members with
  | nil => cases (hmem _).mpr (List.mem_singleton_self _)
  | cons m rest =>
    cases List.mem_singleton.mp ((hmem m).mp List.mem_cons_self)
    cases rest with
    | nil => exact hobject
    | cons m' rest =>
      cases List.mem_singleton.mp ((hmem m').mp (List.mem_cons_of_mem _ List.mem_cons_self))
      simp at hkeys

/-! ### Single values -/

theorem toDuration_ofDuration (d : Duration) : toDuration (ofDuration d) = .ok d := by
  unfold ofDuration toDuration
  simp only [Notation.read_write]

theorem toCount_ofNat (expected : String) {bound n : Nat} (h : n < bound) :
    toCount expected bound (ofNat n) = .ok n := by
  simp [toCount, ofNat, h]

theorem toCount32_ofNat (n : UInt32) : toCount32 (ofNat n.toNat) = .ok n := by
  rw [toCount32, toCount_ofNat _ n.toNat_lt]
  simp [Except.map]

theorem toCount64_ofNat (n : UInt64) : toCount64 (ofNat n.toNat) = .ok n := by
  rw [toCount64, toCount_ofNat _ n.toNat_lt]
  simp [Except.map]

namespace Keeps

variable {form : Json → Json} (h : Keeps form)
include h

theorem duration (d : Duration) : toDuration (form (ofDuration d)) = .ok d := by
  rw [ofDuration, h.text]
  exact toDuration_ofDuration d

theorem count32 (n : UInt32) : toCount32 (form (ofNat n.toNat)) = .ok n := by
  rw [ofNat, h.whole]
  exact toCount32_ofNat n

theorem count64 (n : UInt64) : toCount64 (form (ofNat n.toNat)) = .ok n := by
  rw [ofNat, h.whole]
  exact toCount64_ofNat n

theorem truth (b : Bool) : toBool (form (.bool b)) = .ok b := by
  rw [h.bool]
  rfl

theorem real {x : Float} (hx : x.isFinite = true) : toFloat (form (.number (.float x))) = .ok x := by
  rw [h.float x hx]
  rfl

/-- What may be absent is read back if what is there is. -/
theorem optional {α : Type} {read : Json → Except DecodeError α} {write : α → Json}
    (hread : ∀ x, toOptional read (form (write x)) = .ok (some x)) (x : Option α) :
    toOptional read (form ((x.map write).getD .null)) = .ok x := by
  cases x with
  | none =>
    show toOptional read (form .null) = .ok none
    rw [h.null]
    rfl
  | some x => exact hread x

theorem optionalText (s : Option String) : toOptionalText (form ((s.map .text).getD .null)) = .ok s := by
  refine h.optional (fun s => ?_) s
  rw [h.text]
  rfl

theorem optionalCount64 (n : Option UInt64) :
    toOptional toCount64 (form ((n.map fun n => ofNat n.toNat).getD .null)) = .ok n := by
  refine h.optional (fun n => ?_) n
  rw [ofNat, h.whole, ← ofNat]
  show (toCount64 (ofNat n.toNat)).map some = .ok (some n)
  rw [toCount64_ofNat]
  rfl

end Keeps

/-! ### Written members -/

/-- The members of a row of keys, each with a value or with none. -/
def written (row : List (String × Option Json)) : List (String × Json) :=
  row.filterMap fun w => w.2.map fun v => (w.1, v)

theorem keys_written_subset (row : List (String × Option Json)) :
    ((written row).map (·.1)).Sublist (row.map (·.1)) := by
  induction row with
  | nil => exact .slnil
  | cons w row ih =>
    obtain ⟨key, v⟩ := w
    cases v with
    | none => exact ih.cons key
    | some v => exact ih.cons_cons key

theorem find?_written {row : List (String × Option Json)} (hnodup : (row.map (·.1)).Nodup) {key : String}
    {v : Option Json} (h : (key, v) ∈ row) : find? key (written row) = v := by
  induction row with
  | nil => cases h
  | cons w row ih =>
    obtain ⟨name, x⟩ := w
    rw [List.map_cons, List.nodup_cons] at hnodup
    have hname : name ∉ (written row).map (·.1) := fun hmem =>
      hnodup.1 ((keys_written_subset row).subset hmem)
    rcases List.mem_cons.1 h with heq | hmem
    · cases heq
      cases v with
      | none => exact find?_eq_none_iff.2 hname
      | some v => exact find?_cons_self rfl v (written row)
    · have hne : name ≠ key := by
        rintro rfl
        exact hnodup.1 (List.mem_map_of_mem (f := (·.1)) hmem)
      cases x with
      | none => exact ih hnodup.2 hmem
      | some x => exact (find?_cons_of_ne hne x (written row)).trans (ih hnodup.2 hmem)

/-- An object with distinct keys, in a form that keeps it. -/
theorem Keeps.written {form : Json → Json} (h : Keeps form) (row : List (String × Option Json))
    (hnodup : (row.map (·.1)).Nodup) :
    ∃ members, form (.object (written row)) = .object members ∧ (members.map (·.1)).Nodup ∧
      ∀ w ∈ row, find? w.1 members = w.2.map form := by
  obtain ⟨members, hobject, hkeys, hfind⟩ := h.object (Json.written row) ((keys_written_subset row).nodup hnodup)
  refine ⟨members, hobject, hkeys, fun w hw => ?_⟩
  rw [hfind, find?_written hnodup (v := w.2) hw]

/-- What is written for each field of a record. -/
def row {σ : Type} (fields : List (RecordField σ)) (s : σ) : List (String × Option Json) :=
  fields.map fun f => (f.name, f.write s)

theorem keys_row {σ : Type} (fields : List (RecordField σ)) (s : σ) :
    (row fields s).map (·.1) = fields.map (·.name) := by
  rw [row, List.map_map]
  rfl

theorem members_eq_written {σ : Type} (fields : List (RecordField σ)) (s : σ) :
    RecordField.members fields s = written (row fields s) := by
  rw [RecordField.members, written, row, List.filterMap_map]
  rfl

theorem written_append (row row' : List (String × Option Json)) :
    written (row ++ row') = written row ++ written row' := List.filterMap_append ..

/-- What a record is given by an object in which every field stands as it is written for the record. -/
def Gives {σ : Type} (form : Json → Json) (fields : List (RecordField σ)) (s : σ)
    (members : List (String × Json)) : Prop :=
  ∀ w ∈ row fields s, find? w.1 members = w.2.map form

theorem gives_nil {σ : Type} {form : Json → Json} {s : σ} {members : List (String × Json)} :
    Gives form [] s members ↔ True := iff_true_intro (List.forall_mem_nil _)

theorem gives_cons {σ : Type} {form : Json → Json} {f : RecordField σ} {fields : List (RecordField σ)} {s : σ}
    {members : List (String × Json)} : Gives form (f :: fields) s members ↔
      find? f.name members = (f.write s).map form ∧ Gives form fields s members := List.forall_mem_cons

/-- A record is read back from its members if it takes its settings from what they give. -/
theorem Keeps.toRecord {σ : Type} {form : Json → Json} (hform : Keeps form) {settings : List (Setting σ)}
    {fields : List (RecordField σ)} (h : Describes settings fields) (hnames : (fields.map (·.name)).Nodup)
    (kind : String) {start s : σ}
    (htaken : ∀ members, Gives form fields s members → ∀ p ∈ settings, p.TakenFrom (.object members) start s)
    (hdetermined : ∀ t, (∀ p ∈ settings, p.get t = p.get s) → t = s) :
    RecordField.toRecord fields kind start (form (.object (RecordField.members fields s))) = .ok s := by
  rw [members_eq_written]
  obtain ⟨members, hobject, hkeys, hgiven⟩ := hform.written (row fields s) (by rwa [keys_row])
  rw [hobject]
  exact readMembers_eq h hkeys (htaken members hgiven) hdetermined

end Resilience.Json
