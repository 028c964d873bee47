import Resilience.Json.Decode

/-! Settings in documents. A setting has its place in a document, a path of keys; whether and as what it is
    given there says what it is in the record that is read. Reading an object goes member by member, but each
    setting of the record looks at one key only, and no other member touches it. -/

namespace Resilience.Json

/-- The value at the end of a path of keys. -/
def at? : Json → List String → Option Json
  | v, [] => some v
  | v, key :: path => (v.member? key).bind fun x => x.at? path

/-- An object that has no key twice. -/
def IsRecord (v : Json) : Prop := ∃ members, v = .object members ∧ (members.map (·.1)).Nodup

@[simp] theorem isRecord_object (members : List (String × Json)) :
    IsRecord (.object members) ↔ (members.map (·.1)).Nodup := by
  simp [IsRecord]

/-- A setting of a record: where its value stands in a document, how that is read, and where it is kept. -/
structure Setting (σ : Type) where
  path : List String
  {α : Type}
  decode : Json → Except DecodeError α
  get : σ → α

namespace Setting

variable {σ τ : Type}

/-- What a document gives the setting can be read. -/
def Readable (p : Setting σ) (v : Json) : Prop := ∀ x, v.at? p.path = some x → ∃ y, p.decode x = .ok y

/-- The setting has the value that a document gives it or, if it gives none, the same as in `start`. -/
def TakenFrom (p : Setting σ) (v : Json) (start s : σ) : Prop :=
  match v.at? p.path with
  | some x => p.decode x = .ok (p.get s)
  | none => p.get s = p.get start

/-- A document and a start leave a setting only one value. -/
theorem TakenFrom.unique {p : Setting σ} {v : Json} {start s t : σ} (hs : p.TakenFrom v start s)
    (ht : p.TakenFrom v start t) : p.get t = p.get s := by
  unfold TakenFrom at hs ht
  cases hx : v.at? p.path with
  | none =>
    simp only [hx] at hs ht
    rw [hs, ht]
  | some x =>
    simp only [hx] at hs ht
    exact Except.ok.inj (ht.symm.trans hs)

theorem TakenFrom.readable {p : Setting σ} {v : Json} {start s : σ} (h : p.TakenFrom v start s) :
    p.Readable v := by
  intro x hx
  simp only [TakenFrom, hx] at h
  exact ⟨p.get s, h⟩

theorem TakenFrom.of_start {p : Setting σ} {v : Json} {start start' s : σ} (h : p.TakenFrom v start s)
    (heq : p.get start' = p.get start) : p.TakenFrom v start' s := by
  unfold TakenFrom at h ⊢
  cases hx : v.at? p.path with
  | none =>
    simp only [hx] at h ⊢
    rw [h, heq]
  | some x => simpa only [hx] using h

/-- The setting of a part whose keys stand among those of the whole. -/
def beside (part : τ → σ) (p : Setting σ) : Setting τ := ⟨p.path, p.decode, fun t => p.get (part t)⟩

/-- The setting of a part that has its own object under a key. -/
def inside (key : String) (part : τ → σ) (p : Setting σ) : Setting τ :=
  ⟨key :: p.path, p.decode, fun t => p.get (part t)⟩

end Setting

/-- What a document may give: the paths of its records, the document itself among them, and its settings. -/
structure Outline (σ : Type) where
  records : List (List String)
  settings : List (Setting σ)

namespace Outline

variable {σ τ : Type}

/-- Every record that a document gives has distinct keys, and every setting that it gives can be read.
    Keys that are no settings do not matter. -/
structure WellFormed (o : Outline σ) (v : Json) : Prop where
  records : ∀ path ∈ o.records, ∀ x, v.at? path = some x → IsRecord x
  settings : ∀ p ∈ o.settings, p.Readable v

/-- The outline of a part that has its own object under a key. -/
def inside (key : String) (part : τ → σ) (o : Outline σ) : Outline τ :=
  ⟨o.records.map (key :: ·), o.settings.map (Setting.inside key part)⟩

def append (o o' : Outline σ) : Outline σ := ⟨o.records ++ o'.records, o.settings ++ o'.settings⟩

instance : Append (Outline σ) := ⟨append⟩

@[simp] theorem settings_append (o o' : Outline σ) : (o ++ o').settings = o.settings ++ o'.settings := rfl

@[simp] theorem settings_inside (key : String) (part : τ → σ) (o : Outline σ) :
    (o.inside key part).settings = o.settings.map (Setting.inside key part) := rfl

theorem WellFormed.left {o o' : Outline σ} {v : Json} (h : (o ++ o').WellFormed v) : o.WellFormed v where
  records path hpath := h.records path (List.mem_append_left _ hpath)
  settings p hp := h.settings p (List.mem_append_left _ hp)

theorem WellFormed.right {o o' : Outline σ} {v : Json} (h : (o ++ o').WellFormed v) : o'.WellFormed v where
  records path hpath := h.records path (List.mem_append_right _ hpath)
  settings p hp := h.settings p (List.mem_append_right _ hp)

theorem at?_cons {v x : Json} {key : String} (h : v.member? key = some x) (path : List String) :
    v.at? (key :: path) = x.at? path := by
  rw [at?, h, Option.bind_some]

theorem at?_cons_none {v : Json} {key : String} (h : v.member? key = none) (path : List String) :
    v.at? (key :: path) = none := by
  rw [at?, h, Option.bind_none]

/-- The part of a well-formed document is well formed. -/
theorem WellFormed.part {o : Outline σ} {v x : Json} {key : String} {part : τ → σ}
    (h : (o.inside key part).WellFormed v) (hx : v.member? key = some x) : o.WellFormed x where
  records path hpath y hy :=
    h.records (key :: path) (List.mem_map_of_mem hpath) y (by rw [at?_cons hx]; exact hy)
  settings p hp y hy :=
    h.settings (p.inside key part) (List.mem_map_of_mem hp) y
      ((at?_cons hx p.path).trans hy)

theorem WellFormed.append {o o' : Outline σ} {v : Json} (h : o.WellFormed v) (h' : o'.WellFormed v) :
    (o ++ o').WellFormed v where
  records path hpath := (List.mem_append.mp hpath).elim (h.records path) (h'.records path)
  settings p hp := (List.mem_append.mp hp).elim (h.settings p) (h'.settings p)

theorem WellFormed.inside {o : Outline σ} {v x : Json} {key : String} {part : τ → σ}
    (hx : v.member? key = some x) (h : o.WellFormed x) : (o.inside key part).WellFormed v where
  records path hpath y hy := by
    obtain ⟨rest, hrest, rfl⟩ := List.mem_map.mp hpath
    rw [at?_cons hx] at hy
    exact h.records rest hrest y hy
  settings p hp y hy := by
    obtain ⟨q, hq, rfl⟩ := List.mem_map.mp hp
    exact h.settings q hq y ((at?_cons hx q.path).symm.trans hy)

theorem wellFormed_inside_of_absent {o : Outline σ} {v : Json} {key : String} {part : τ → σ}
    (hx : v.member? key = none) : (o.inside key part).WellFormed v where
  records path hpath y hy := by
    obtain ⟨rest, -, rfl⟩ := List.mem_map.mp hpath
    rw [at?_cons_none hx] at hy
    cases hy
  settings p hp y hy := by
    obtain ⟨q, -, rfl⟩ := List.mem_map.mp hp
    cases (at?_cons_none hx q.path).symm.trans hy

end Outline

/-! ### Reading members -/

variable {σ : Type}

/-- A field reads a setting: it puts its value there if the setting is its own, and leaves it alone if not. -/
def Setting.ReadBy (p : Setting σ) (f : RecordField σ) : Prop :=
  ∀ v s, (f.read v s).map p.get = if p.path = [f.name] then p.decode v else (f.read v s).map fun _ => p.get s

theorem map_map {ε α β γ : Type} (e : Except ε α) (f : α → β) (g : β → γ) :
    (e.map f).map g = e.map fun x => g (f x) := by
  cases e <;> rfl

theorem map_ok {ε α β : Type} (a : α) (f : α → β) : (Except.ok a : Except ε α).map f = .ok (f a) := rfl

theorem map_self {ε α : Type} (e : Except ε α) : (e.map fun x => x) = e := by
  cases e <;> rfl

/-- The settings of a record, each the setting of one field. -/
structure Describes (settings : List (Setting σ)) (fields : List (RecordField σ)) : Prop where
  field_of_setting : ∀ p ∈ settings, ∃ f ∈ fields, p.path = [f.name]
  setting_of_field : ∀ f ∈ fields, ∃ p ∈ settings, p.path = [f.name]
  readBy : ∀ p ∈ settings, ∀ f ∈ fields, p.ReadBy f

theorem find?_cons_self {name key : String} (h : name = key) (v : Json) (members : List (String × Json)) :
    find? name ((key, v) :: members) = some v := if_pos h.symm

theorem find?_cons_of_ne {name key : String} (h : key ≠ name) (v : Json) (members : List (String × Json)) :
    find? name ((key, v) :: members) = find? name members := if_neg h

theorem find?_eq_none_iff {name : String} {members : List (String × Json)} :
    find? name members = none ↔ name ∉ members.map (·.1) := by
  induction members with
  | nil => simp [find?]
  | cons member members ih =>
    obtain ⟨key, v⟩ := member
    by_cases h : key = name
    · subst h
      simp [find?_cons_self rfl]
    · rw [find?_cons_of_ne h, ih]
      simp [Ne.symm h]

theorem at?_key (members : List (String × Json)) (key : String) :
    (Json.object members).at? [key] = find? key members := by
  simp [at?, member?]

/-- The setting of one key, from the members of an object. -/
theorem takenFrom_key {p : Setting σ} {name : String} (hname : p.path = [name]) (members : List (String × Json))
    (start s : σ) : p.TakenFrom (.object members) start s ↔
      (∀ x, find? name members = some x → p.decode x = .ok (p.get s)) ∧
        (find? name members = none → p.get s = p.get start) := by
  unfold Setting.TakenFrom
  rw [hname, at?_key]
  cases find? name members with
  | none => simp
  | some x => simp

/-- What reading one field does to a setting. -/
theorem Setting.ReadBy.cases {p : Setting σ} {f : RecordField σ} (h : p.ReadBy f) {name : String}
    (hname : p.path = [name]) {v : Json} {s s' : σ} (hread : f.read v s = .ok s') :
    if name = f.name then p.decode v = .ok (p.get s') else p.get s' = p.get s := by
  have heq := h v s
  rw [hread, hname] at heq
  simp only [List.cons.injEq, and_true] at heq
  split
  · rename_i hf
    rw [if_pos hf] at heq
    exact heq.symm
  · rename_i hf
    rw [if_neg hf] at heq
    exact Except.ok.inj heq

/-- A setting whose key was read before stays as it is, and any other is taken from the members. -/
theorem takenFrom_of_readMembers {settings : List (Setting σ)} {fields : List (RecordField σ)}
    (h : Describes settings fields) {p : Setting σ} (hp : p ∈ settings) {name : String}
    (hname : p.path = [name]) {seen : List String} {members : List (String × Json)} {s s' : σ}
    (hread : RecordField.readMembers fields seen members s = .ok s') :
    if name ∈ seen then p.get s' = p.get s else p.TakenFrom (.object members) s s' := by
  induction members generalizing seen s with
  | nil =>
    cases hread
    rw [takenFrom_key hname]
    simp [find?]
  | cons member members ih =>
    obtain ⟨key, v⟩ := member
    simp only [takenFrom_key hname] at ih ⊢
    rw [RecordField.readMembers] at hread
    split at hread
    · -- No field has this key, so it is not the key of the setting.
      rename_i hnone
      obtain ⟨f, hf, hpath⟩ := h.field_of_setting p hp
      have hne : key ≠ name := by
        rintro rfl
        rw [hname, List.cons.injEq] at hpath
        simpa [hpath.1] using List.find?_eq_none.1 hnone f hf
      rw [find?_cons_of_ne hne]
      exact ih hread
    · rename_i f hfound
      have hf : f ∈ fields := List.mem_of_find?_eq_some hfound
      have hfkey : f.name = key := by simpa using List.find?_some hfound
      split at hread
      · cases hread
      · rename_i hnew
        have hnew : key ∉ seen := by simpa using hnew
        cases hstep : f.read v s with
        | error e => rw [hstep] at hread; cases hread
        | ok t =>
          rw [hstep] at hread
          have hlater := ih hread
          have hnow := (h.readBy p hp f hf).cases hname hstep
          by_cases hkey : name = key
          · rw [if_pos (by simp [hkey])] at hlater
            rw [if_pos (by rw [hkey, hfkey])] at hnow
            rw [if_neg (by rwa [hkey]), find?_cons_self hkey, hlater]
            simpa using hnow
          · rw [if_neg (by rwa [hfkey])] at hnow
            rw [find?_cons_of_ne (Ne.symm hkey), ← hnow]
            simpa [hkey] using hlater

/-- What no field changes stays as it is. -/
theorem readMembers_frame {fields : List (RecordField σ)} {α : Type} (get : σ → α)
    (hget : ∀ f ∈ fields, ∀ v s, (f.read v s).map get = (f.read v s).map fun _ => get s) {seen : List String}
    {members : List (String × Json)} {s s' : σ}
    (hread : RecordField.readMembers fields seen members s = .ok s') : get s' = get s := by
  induction members generalizing seen s with
  | nil =>
    cases hread
    rfl
  | cons member members ih =>
    rw [RecordField.readMembers] at hread
    split at hread
    · exact ih hread
    · rename_i f hfound
      split at hread
      · cases hread
      · cases hstep : f.read member.2 s with
        | error e => rw [hstep] at hread; cases hread
        | ok t =>
          have heq := hget f (List.mem_of_find?_eq_some hfound) member.2 s
          rw [hstep] at hread heq
          exact (ih hread).trans (Except.ok.inj heq)

/-- Members with distinct keys are read if what they give to each setting can be read. -/
theorem exists_readMembers {settings : List (Setting σ)} {fields : List (RecordField σ)}
    (h : Describes settings fields) (seen : List String) {members : List (String × Json)}
    (hnodup : (members.map (·.1)).Nodup) (hseen : ∀ key ∈ members.map (·.1), key ∉ seen)
    (hreadable : ∀ p ∈ settings, p.Readable (.object members)) (s : σ) :
    ∃ s', RecordField.readMembers fields seen members s = .ok s' := by
  induction members generalizing seen s with
  | nil => exact ⟨s, rfl⟩
  | cons member members ih =>
    obtain ⟨key, v⟩ := member
    rw [List.map_cons, List.nodup_cons] at hnodup
    have hrest : ∀ p ∈ settings, p.Readable (.object members) := by
      intro p hp x hx
      obtain ⟨f, -, hname⟩ := h.field_of_setting p hp
      rw [hname, at?_key] at hx
      have hne : key ≠ f.name := by
        rintro rfl
        rw [find?_eq_none_iff.2 hnodup.1] at hx
        cases hx
      exact hreadable p hp x (by rw [hname, at?_key, find?_cons_of_ne hne, hx])
    rw [RecordField.readMembers]
    split
    · exact ih seen hnodup.2 (fun key' hkey' => hseen key' (List.mem_cons_of_mem key hkey')) hrest s
    · rename_i f hfound
      have hf : f ∈ fields := List.mem_of_find?_eq_some hfound
      have hfkey : f.name = key := by simpa using List.find?_some hfound
      have hnew : key ∉ seen := hseen key List.mem_cons_self
      rw [if_neg (by simpa using hnew)]
      -- The setting of this field can be read, so the field can.
      obtain ⟨p, hp, hname⟩ := h.setting_of_field f hf
      rw [hfkey] at hname
      obtain ⟨y, hy⟩ := hreadable p hp v (by rw [hname, at?_key, find?_cons_self rfl])
      obtain ⟨t, ht⟩ : ∃ t, f.read v s = .ok t := by
        have heq := h.readBy p hp f hf v s
        rw [hname, hfkey, if_pos rfl, hy] at heq
        cases hread : f.read v s with
        | error e => rw [hread] at heq; cases heq
        | ok t => exact ⟨t, rfl⟩
      obtain ⟨s', hs'⟩ := ih (key :: seen) hnodup.2 (by
        intro key' hkey' hmem
        rcases List.mem_cons.1 hmem with rfl | hmem
        · exact hnodup.1 hkey'
        · exact hseen key' (List.mem_cons_of_mem key hkey') hmem) hrest t
      exact ⟨s', by rw [ht]; exact hs'⟩

/-- An object with distinct keys is read if what it gives to each setting can be read, and each setting is
    taken from it. -/
theorem readMembers_law {settings : List (Setting σ)} {fields : List (RecordField σ)}
    (h : Describes settings fields) {members : List (String × Json)} (hnodup : (members.map (·.1)).Nodup)
    (hreadable : ∀ p ∈ settings, p.Readable (.object members)) (start : σ) :
    ∃ s, RecordField.readMembers fields [] members start = .ok s ∧
      ∀ p ∈ settings, p.TakenFrom (.object members) start s := by
  obtain ⟨s, hs⟩ := exists_readMembers h [] hnodup (by simp) hreadable start
  refine ⟨s, hs, fun p hp => ?_⟩
  obtain ⟨f, -, hname⟩ := h.field_of_setting p hp
  simpa using takenFrom_of_readMembers h hp hname hs

/-- An object that settings are taken from is read into a record that has them. -/
theorem readMembers_of_takenFrom {settings : List (Setting σ)} {fields : List (RecordField σ)}
    (h : Describes settings fields) {members : List (String × Json)} (hnodup : (members.map (·.1)).Nodup)
    {start s : σ} (hs : ∀ p ∈ settings, p.TakenFrom (.object members) start s) :
    ∃ t, RecordField.readMembers fields [] members start = .ok t ∧ ∀ p ∈ settings, p.get t = p.get s := by
  obtain ⟨t, ht, htaken⟩ := readMembers_law h hnodup (fun p hp => (hs p hp).readable) start
  exact ⟨t, ht, fun p hp => (hs p hp).unique (htaken p hp)⟩

/-- It is that record, if its settings determine it. -/
theorem readMembers_eq {settings : List (Setting σ)} {fields : List (RecordField σ)}
    (h : Describes settings fields) {members : List (String × Json)} (hnodup : (members.map (·.1)).Nodup)
    {start s : σ} (hs : ∀ p ∈ settings, p.TakenFrom (.object members) start s)
    (hdetermined : ∀ t, (∀ p ∈ settings, p.get t = p.get s) → t = s) :
    RecordField.readMembers fields [] members start = .ok s := by
  obtain ⟨t, ht, hsame⟩ := readMembers_of_takenFrom h hnodup hs
  rw [ht, hdetermined t hsame]

/-! ### Parts -/

namespace Outline

variable {τ : Type}

/-- A reader makes a record of every well-formed document, and takes each setting from it. What is not
    given is as `omitted` says. -/
def ReadBy (o : Outline σ) (read : Json → Except DecodeError σ) (omitted : Json → σ) : Prop :=
  ∀ v, o.WellFormed v → ∃ s, read v = .ok s ∧ ∀ p ∈ o.settings, p.TakenFrom v (omitted v) s

variable {o : Outline σ} {read : Json → Except DecodeError σ} {omitted : Json → σ} {key : String}
  {part : τ → σ} {v : Json}

/-- A part that is read from its own object can be read. -/
theorem ReadBy.readable (h : o.ReadBy read omitted) (hv : (o.inside key part).WellFormed v) :
    (Setting.mk [key] read part).Readable v := by
  intro x hx
  have hmember : v.member? key = some x := by simpa [at?] using hx
  obtain ⟨s, hs, -⟩ := h x (hv.part hmember)
  exact ⟨s, hs⟩

/-- The settings of such a part, once it is read as one of the whole. -/
theorem ReadBy.takenFrom (h : o.ReadBy read omitted) (hv : (o.inside key part).WellFormed v) {start rest t : τ}
    (hpart : (Setting.mk [key] read part).TakenFrom v start t)
    (hgiven : ∀ x, v.member? key = some x → part rest = omitted x)
    (habsent : v.member? key = none → part rest = part start) :
    ∀ p ∈ (o.inside key part).settings, p.TakenFrom v rest t := by
  intro p hp
  obtain ⟨q, hq, rfl⟩ := List.mem_map.1 hp
  cases hmember : v.member? key with
  | none =>
    simp only [Setting.TakenFrom, Setting.inside, at?_cons_none hmember] at hpart ⊢
    rw [hpart, habsent hmember]
  | some x =>
    simp only [Setting.TakenFrom, Setting.inside, at?_cons hmember] at hpart ⊢
    obtain ⟨s, hs, htaken⟩ := h x (hv.part hmember)
    have hs' : s = part t := Except.ok.inj (hs.symm.trans hpart)
    rw [hgiven x hmember, ← hs']
    exact htaken q hq

end Outline
end Resilience.Json
