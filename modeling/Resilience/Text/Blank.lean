/-! Blank characters, and splitting and trimming text at them. A character is blank if Unicode gives it
    the property `White_Space`. Trimming takes away the blanks at both ends and nothing else
    (`trimChars_eq_iff`). -/

namespace Resilience.Text

/-- The ranges of characters with the Unicode property `White_Space`, first and last. -/
def blankRanges : List (Nat × Nat) :=
  [(0x9, 0xD), (0x20, 0x20), (0x85, 0x85), (0xA0, 0xA0), (0x1680, 0x1680), (0x2000, 0x200A),
   (0x2028, 0x2029), (0x202F, 0x202F), (0x205F, 0x205F), (0x3000, 0x3000)]

def isBlank (c : Char) : Bool := blankRanges.any fun (first, last) => first ≤ c.toNat && c.toNat ≤ last

/-- Drops blank characters at both ends. -/
def trimChars (cs : List Char) : List Char :=
  ((cs.dropWhile isBlank).reverse.dropWhile isBlank).reverse

def trim (s : String) : String := String.ofList (trimChars s.toList)

/-- Whether a text has no character but blank ones. -/
def isBlankText (cs : List Char) : Bool := cs.all isBlank

/-- No blank stands at either end. -/
structure IsTrimmed (cs : List Char) : Prop where
  first : ∀ c ∈ cs.head?, isBlank c = false
  last : ∀ c ∈ cs.getLast?, isBlank c = false

theorem isBlank_of_head?_dropWhile {cs : List Char} {c : Char} (h : c ∈ (cs.dropWhile isBlank).head?) :
    isBlank c = false := by
  have hstop := List.head?_dropWhile_not isBlank cs
  rw [h] at hstop
  exact hstop

theorem isTrimmed_trimChars (cs : List Char) : IsTrimmed (trimChars cs) where
  first c hc := by
    -- What is dropped at the end stands behind what is left, so dropping it does not change what comes first.
    have hsplit : cs.dropWhile isBlank =
        trimChars cs ++ ((cs.dropWhile isBlank).reverse.takeWhile isBlank).reverse := by
      rw [trimChars, ← List.reverse_append, List.takeWhile_append_dropWhile, List.reverse_reverse]
    have hhead : c ∈ (cs.dropWhile isBlank).head? := by
      rw [hsplit, List.head?_append, hc]
      rfl
    exact isBlank_of_head?_dropWhile hhead
  last c hc := by
    rw [trimChars, List.getLast?_reverse] at hc
    exact isBlank_of_head?_dropWhile hc

/-- A text is its trimmed form between blanks. -/
theorem exists_blanks (cs : List Char) :
    ∃ before after, isBlankText before = true ∧ isBlankText after = true ∧
      cs = before ++ trimChars cs ++ after := by
  refine ⟨cs.takeWhile isBlank, ((cs.dropWhile isBlank).reverse.takeWhile isBlank).reverse, ?_, ?_, ?_⟩
  · exact List.all_takeWhile
  · rw [isBlankText, List.all_reverse]
    exact List.all_takeWhile
  · rw [trimChars, List.append_assoc, ← List.reverse_append, List.takeWhile_append_dropWhile,
      List.reverse_reverse, List.takeWhile_append_dropWhile]

theorem dropWhile_blanks_append {before cs : List Char} (hbefore : isBlankText before = true)
    (hcs : ∀ c ∈ cs.head?, isBlank c = false) : (before ++ cs).dropWhile isBlank = cs := by
  rw [List.dropWhile_append_of_pos (List.all_eq_true.mp hbefore)]
  cases cs with
  | nil => rfl
  | cons c cs => exact List.dropWhile_cons_of_neg (by simp [hcs c rfl])

/-- Trimming finds what stands between blanks and has none at its ends; no text has two such parts. -/
theorem trimChars_eq_iff {cs core : List Char} :
    trimChars cs = core ↔
      IsTrimmed core ∧ ∃ before after, isBlankText before = true ∧ isBlankText after = true ∧
        cs = before ++ core ++ after := by
  constructor
  · rintro rfl
    exact ⟨isTrimmed_trimChars cs, exists_blanks cs⟩
  · rintro ⟨hcore, before, after, hbefore, hafter, rfl⟩
    cases core with
    | nil =>
      have hblank : isBlankText (before ++ after) = true := by
        rw [isBlankText, List.all_append, Bool.and_eq_true]
        exact ⟨hbefore, hafter⟩
      have hdrop : (before ++ after ++ []).dropWhile isBlank = [] := dropWhile_blanks_append hblank nofun
      rw [List.append_nil] at hdrop ⊢
      rw [trimChars, hdrop]
      rfl
    | cons c core =>
      have hfirst : ∀ d ∈ (c :: core ++ after).head?, isBlank d = false := hcore.first
      have hlast : ∀ d ∈ (c :: core).reverse.head?, isBlank d = false := by
        rw [List.head?_reverse]
        exact hcore.last
      rw [trimChars, List.append_assoc, dropWhile_blanks_append hbefore hfirst, List.reverse_append,
        dropWhile_blanks_append ((List.all_reverse ..).trans hafter) hlast, List.reverse_reverse]

/-- The pieces between the occurrences of a separator; a text without one is a single piece. -/
def splitAt (separator : Char) : List Char → List (List Char)
  | [] => [[]]
  | c :: cs =>
    if c = separator then [] :: splitAt separator cs
    else
      match splitAt separator cs with
      | [] => [[c]]
      | piece :: pieces => (c :: piece) :: pieces

theorem splitAt_eq_splitOn (separator : Char) (cs : List Char) :
    splitAt separator cs = cs.splitOn separator := by
  induction cs with
  | nil => rfl
  | cons c cs ih =>
    rw [splitAt, ih, List.splitOn_cons_eq_if_modifyHead]
    by_cases h : c = separator
    · simp [h]
    · cases hs : cs.splitOn separator with
      | nil => exact absurd hs (by simp)
      | cons piece pieces => simp [h]

end Resilience.Text
