import Resilience.Text.Lowercase

/-! Which texts have a given word in lower case. Beyond ASCII two characters come down to ASCII letters: the
    sign for kelvin becomes `k`, and a capital `I` with a dot becomes an `i` whose dot stays. So the texts
    whose lower case form is a word in ASCII letters without a `k` are the spellings of that word in ASCII
    letters of either case (`lowercase_eq_iff`). -/

namespace Resilience.Text

/-- A small ASCII letter that is no `k`. -/
def IsPlain (c : Char) : Prop := 'a' ≤ c ∧ c ≤ 'z' ∧ c ≠ 'k'

instance (c : Char) : Decidable (IsPlain c) := inferInstanceAs (Decidable (_ ∧ _))

theorem IsPlain.toNat_bounds {c : Char} (h : IsPlain c) : 97 ≤ c.toNat ∧ c.toNat ≤ 122 := ⟨h.1, h.2.1⟩

theorem toNat_ofNat_eq_or (n : Nat) : (Char.ofNat n).toNat = n ∨ (Char.ofNat n).toNat = 0 := by
  by_cases h : n.isValidChar
  · rw [Char.ofNat, dif_pos h]
    exact .inl rfl
  · rw [Char.ofNat, dif_neg h]
    exact .inr rfl

set_option maxRecDepth 4000 in
theorem shift_of_mem_caseRuns :
    ∀ r ∈ caseRuns, 0x80 ≤ r.first + r.shift ∨ r.first = 0x212A ∧ r.last = 0x212A ∧ r.shift = -8383 := by
  decide

/-- A character beyond ASCII has something in its lower case form that is no plain letter. -/
theorem exists_not_plain {c : Char} (hc : 0x80 ≤ c.toNat) : ∃ d ∈ lowerChar c, ¬IsPlain d := by
  unfold lowerChar
  rw [if_neg (by omega)]
  split
  · exact ⟨Char.ofNat 0x307, .tail _ (.head _), by decide⟩
  · split
    · rename_i r hr
      have hcovers := List.find?_some hr
      simp only [CaseRun.covers, Bool.and_eq_true, decide_eq_true_eq] at hcovers
      refine ⟨_, .head _, fun hplain => ?_⟩
      have hbounds := hplain.toNat_bounds
      have hnat := toNat_ofNat_eq_or ((c.toNat : Int) + r.shift).toNat
      rcases shift_of_mem_caseRuns r (List.mem_of_find?_eq_some hr) with hshift | ⟨hfirst, hlast, hshift⟩
      · omega
      · have hk : ((c.toNat : Int) + r.shift).toNat = 107 := by omega
        rw [hk] at hplain
        exact absurd hplain (by decide)
    · exact ⟨c, .head _, fun hplain => absurd hplain.toNat_bounds.2 (by omega)⟩

theorem lowerChar_of_lt {c : Char} (hc : c.toNat < 0x80) : lowerChar c = [c.toLower] := if_pos hc

theorem exists_not_plain_between {c : Char} (hc : 0x80 ≤ c.toNat) (before after : List Char) :
    ∃ d ∈ lowerBetween before c after, ¬IsPlain d := by
  unfold lowerBetween
  split
  · refine ⟨_, .head _, ?_⟩
    split <;> decide
  · exact exists_not_plain hc

theorem lowerBetween_of_lt {c : Char} (hc : c.toNat < 0x80) (before after : List Char) :
    lowerBetween before c after = [c.toLower] := by
  unfold lowerBetween
  rw [if_neg fun hsigma => ?_, lowerChar_of_lt hc]
  rw [hsigma] at hc
  exact absurd hc (by decide)

theorem toNat_le_toLower (c : Char) : c.toNat ≤ c.toLower.toNat := by
  unfold Char.toLower
  split
  · rename_i h
    have h90 : c.val.toNat ≤ 90 := UInt32.le_iff_toNat_le.mp h.2
    show c.val.toNat ≤ (c.val + 32).toNat
    rw [UInt32.toNat_add]
    simp only [UInt32.reduceToNat]
    omega
  · exact Nat.le_refl _

theorem toLower_of_plain {c : Char} (h : IsPlain c) : c.toLower = c := by
  unfold Char.toLower
  refine dif_neg fun hupper => ?_
  have h90 : c.val.toNat ≤ 90 := UInt32.le_iff_toNat_le.mp hupper.2
  have h97 : 97 ≤ c.val.toNat := h.toNat_bounds.1
  omega

theorem lowerAfter_of_lt {cs : List Char} (h : ∀ c ∈ cs, c.toNat < 0x80) (before : List Char) :
    lowerAfter before cs = cs.map Char.toLower := by
  induction cs generalizing before with
  | nil => rfl
  | cons c cs ih =>
    obtain ⟨hc, hcs⟩ := List.forall_mem_cons.mp h
    rw [lowerAfter, lowerBetween_of_lt hc, ih hcs]
    rfl

/-- Every character of a text whose lower case form is plain is an ASCII character. -/
theorem lt_of_lowerAfter_plain {cs before : List Char} (h : ∀ d ∈ lowerAfter before cs, IsPlain d) :
    ∀ c ∈ cs, c.toNat < 0x80 := by
  induction cs generalizing before with
  | nil => exact nofun
  | cons c cs ih =>
    rw [lowerAfter, List.forall_mem_append] at h
    obtain ⟨hfirst, hrest⟩ := h
    refine List.forall_mem_cons.mpr ⟨Nat.lt_of_not_le fun hbeyond => ?_, ih hrest⟩
    obtain ⟨d, hd, hplain⟩ := exists_not_plain_between hbeyond before cs
    exact hplain (hfirst d hd)

theorem lowercase_eq_iff (word : String) {s : String} (h : word.toList.all (IsPlain ·) = true) :
    lowercase s = word ↔ sameIgnoringCase word s = true := by
  have hw : ∀ d ∈ word.toList, IsPlain d := fun d hd => of_decide_eq_true (List.all_eq_true.mp h d hd)
  have hword : word.toList.map Char.toLower = word.toList := by
    rw [List.map_congr_left fun d hd => toLower_of_plain (hw d hd), List.map_id']
  have hsame : sameIgnoringCase word s = true ↔ s.toList.map Char.toLower = word.toList := by
    unfold sameIgnoringCase
    rw [decide_eq_true_iff, hword, eq_comm]
  have hlower : lowercase s = word ↔ lowerAfter [] s.toList = word.toList := by
    unfold lowercase
    rw [← String.toList_inj, String.toList_ofList]
  rw [hsame, hlower]
  constructor
  · intro h
    rw [← lowerAfter_of_lt (lt_of_lowerAfter_plain (h ▸ hw)) []]
    exact h
  · intro h
    rw [lowerAfter_of_lt fun c hc => ?_]
    · exact h
    · have hd := (hw c.toLower (h ▸ List.mem_map_of_mem hc)).toNat_bounds.2
      have hle := toNat_le_toLower c
      omega

end Resilience.Text
