import Resilience.Proofs.Settings.Validation

/-! The directives of sound logging settings. Trimming a filter takes nothing but blanks away, so it keeps the
    commas; and what the pieces between them say besides blanks can be read off the text without its blanks,
    which trimming does not change (`unblank_trimChars`). -/

namespace Resilience
namespace Text

/-- What a text says besides its blanks. -/
def unblank (cs : List Char) : List Char := cs.filter fun c => !isBlank c

theorem unblank_eq_nil_iff {cs : List Char} : unblank cs = [] ↔ ∀ c ∈ cs, isBlank c = true := by
  simp [unblank, List.filter_eq_nil_iff]

theorem unblank_trimChars (cs : List Char) : unblank (trimChars cs) = unblank cs := by
  obtain ⟨before, after, hbefore, hafter, hcs⟩ := exists_blanks cs
  have hnil {blanks : List Char} (h : isBlankText blanks = true) : unblank blanks = [] :=
    unblank_eq_nil_iff.mpr (List.all_eq_true.mp h)
  calc unblank (trimChars cs)
      = unblank before ++ unblank (trimChars cs) ++ unblank after := by
        rw [hnil hbefore, hnil hafter, List.nil_append, List.append_nil]
    _ = unblank (before ++ trimChars cs ++ after) := by simp only [unblank, List.filter_append]
    _ = unblank cs := by rw [← hcs]

/-- The pieces of a text without its blanks are its pieces without their blanks. -/
theorem splitOn_unblank {separator : Char} (hs : isBlank separator = false) (cs : List Char) :
    (unblank cs).splitOn separator = (cs.splitOn separator).map unblank := by
  induction cs with
  | nil => rfl
  | cons c cs ih =>
    obtain ⟨piece, pieces, hpieces⟩ := List.exists_cons_of_ne_nil (List.splitOn_ne_nil separator cs)
    rw [hpieces] at ih
    rw [List.splitOn_cons_eq_if_modifyHead, hpieces]
    by_cases hc : c = separator
    · subst hc
      have hunblank : unblank (c :: cs) = c :: unblank cs := List.filter_cons_of_pos (by rw [hs]; rfl)
      rw [hunblank, List.splitOn_cons_eq_if_modifyHead, ih]
      simp [unblank]
    · by_cases hb : isBlank c = true
      · have hskip (rest : List Char) : unblank (c :: rest) = unblank rest := by simp [unblank, hb]
        rw [hskip, ih]
        simp [hc, hskip]
      · have hkeep (rest : List Char) : unblank (c :: rest) = c :: unblank rest := by simp [unblank, hb]
        rw [hkeep, List.splitOn_cons_eq_if_modifyHead, ih]
        simp [hc, hkeep]

end Text

namespace Settings

theorem noBlankPiece_iff {filter : String} :
    NoBlankPiece filter ↔ [] ∉ (Text.unblank filter.toList).splitOn ',' := by
  rw [Text.splitOn_unblank (by decide), List.mem_map]
  constructor
  · rintro h ⟨piece, hpiece, hunblank⟩
    obtain ⟨c, hc, hsays⟩ := h piece hpiece
    cases hsays.symm.trans (Text.unblank_eq_nil_iff.mp hunblank c hc)
  · intro h piece hpiece
    have hne : Text.unblank piece ≠ [] := fun hnil => h ⟨piece, hpiece, hnil⟩
    simpa [Text.unblank_eq_nil_iff] using hne

theorem noBlankPiece_trim {filter : String} : NoBlankPiece (Text.trim filter) ↔ NoBlankPiece filter := by
  rw [noBlankPiece_iff, noBlankPiece_iff, Text.trim, String.toList_ofList, Text.unblank_trimChars]

theorem NoBlankPiece.ne_empty {filter : String} (h : NoBlankPiece filter) : filter ≠ "" := by
  rintro rfl
  obtain ⟨c, hc, -⟩ := h [] (List.mem_singleton_self _)
  cases hc

theorem splitOn_levelName (level : Level) : level.name.toList.splitOn ',' = [level.name.toList] :=
  List.splitOn_eq_singleton (by cases level <;> decide)

theorem levelName_says (level : Level) : ∃ ch ∈ level.name.toList, Text.isBlank ch = false := by
  cases level <;> exact ⟨_, List.mem_cons_self .., rfl⟩

theorem Logging.validate_ok_iff (l : Logging) : l.validate = .ok () ↔ l.Sound := by
  rw [validate_eq, report_ok_iff, sound_iff]

theorem Logging.directives_eq {l : Logging} {filter : String} (hfilter : l.filter = some filter)
    (h : NoBlankPiece filter) : l.directives = l.level.name ++ "," ++ Text.trim filter := by
  have hne : (Text.trim filter).isEmpty ≠ true := fun hempty =>
    (noBlankPiece_trim.mpr h).ne_empty (String.isEmpty_iff.mp hempty)
  rw [directives, hfilter]
  exact if_neg hne

/-- The directives of sound settings are the level and the pieces of the trimmed filter, in this order, and none of
    them is blank. With blanks around them these pieces make up the filter, so none is lost, split or added. -/
theorem Logging.directives_law (l : Logging) (h : l.validate = .ok ()) :
    let pieces := l.directives.toList.splitOn ','
    pieces = l.level.name.toList ::
        l.filter.elim [] (fun filter => (Text.trim filter).toList.splitOn ',') ∧
      (∀ piece ∈ pieces, ∃ ch ∈ piece, Text.isBlank ch = false) ∧
      ∀ filter, l.filter = some filter → ∃ before after, Text.isBlankText before = true ∧
        Text.isBlankText after = true ∧ filter.toList = before ++ [','].intercalate pieces.tail ++ after := by
  intro pieces
  have hsound : l.Sound := l.validate_ok_iff.mp h
  have hpieces : pieces = l.level.name.toList ::
      l.filter.elim [] (fun filter => (Text.trim filter).toList.splitOn ',') := by
    cases hfilter : l.filter with
    | none =>
      have hdirectives : l.directives = l.level.name := by rw [directives, hfilter]
      show l.directives.toList.splitOn ',' = _
      rw [hdirectives, splitOn_levelName]
      rfl
    | some filter =>
      have hdirectives := directives_eq hfilter (hsound filter hfilter)
      show l.directives.toList.splitOn ',' = _
      rw [hdirectives, String.toList_append, String.toList_append, List.append_assoc]
      show (l.level.name.toList ++ ',' :: (Text.trim filter).toList).splitOn ',' = _
      rw [List.splitOn_append_cons_self, splitOn_levelName]
      rfl
  refine ⟨hpieces, fun piece hpiece => ?_, fun filter hfilter => ?_⟩
  · rw [hpieces, List.mem_cons] at hpiece
    rcases hpiece with rfl | hpiece
    · exact levelName_says l.level
    · cases hfilter : l.filter with
      | none =>
        rw [hfilter, Option.elim_none] at hpiece
        cases hpiece
      | some filter =>
        rw [hfilter, Option.elim_some] at hpiece
        exact noBlankPiece_trim.mpr (hsound filter hfilter) piece hpiece
  · have hjoined : [','].intercalate pieces.tail = Text.trimChars filter.toList := by
      rw [hpieces, hfilter, List.tail_cons, Option.elim_some, List.intercalate_splitOn, Text.trim,
        String.toList_ofList]
    rw [hjoined]
    exact Text.exists_blanks filter.toList

/-- Blanks may stand around the filter, also ones that are not ASCII, and around its commas. -/
theorem Logging.directives_law_blanks :
    let l : Logging := { level := .warn, filter := some "\u00a0client=debug ,\tbreaker\n" }
    l.validate = .ok () ∧
      l.directives.toList.splitOn ',' = ["warn".toList, "client=debug ".toList, "\tbreaker".toList] := by
  intro l
  have h : l.validate = .ok () := rfl
  obtain ⟨hpieces, -⟩ := l.directives_law h
  exact ⟨h, hpieces.trans (by decide)⟩

end Settings
end Resilience
