import Resilience.Time.Notation

/-! Durations are read back from their written form (`read_write`). A written duration is a row of spans,
    longest unit first. A reader takes one span after the other and adds it to its total; the parts below a
    second never come to a whole second, so no sum is carried, and none exceeds the duration itself. -/

namespace Resilience

namespace TimeUnit

/-- A unit in nanoseconds. -/
def nanos : TimeUnit → Nat
  | .nanosecond => 1
  | .microsecond => 1000
  | .millisecond => 1000000
  | .second => 1000000000
  | .minute => 60000000000
  | .hour => 3600000000000
  | .day => 86400000000000
  | .week => 604800000000000
  | .month => 2630016000000000
  | .year => 31557600000000000

theorem nanos_eq_size (u : TimeUnit) : u.nanos = u.size.1 * 1000000000 + u.size.2 := by
  cases u <;> rfl

end TimeUnit

namespace Notation

/-! ### Adding spans -/

theorem ok_bind {ε α β : Type} (a : α) (f : α → Except ε β) : (Except.ok a >>= f) = f a := rfl

theorem ofNanos?_eq {n : Nat} (h : n ≤ maxDurationNanos) : Duration.ofNanos? n = some ⟨n, h⟩ := dif_pos h

theorem count64_eq {n : Nat} (h : n < UInt64.size) : count64 n = .ok n := if_pos h

theorem addSpan_eq {total : Duration} {seconds nanos : Nat}
    (hpart : total.nanos % 1000000000 + nanos < 1000000000)
    (hfit : total.nanos + (seconds * 1000000000 + nanos) ≤ maxDurationNanos) :
    ∃ d, addSpan total seconds nanos = .ok d ∧ d.nanos = total.nanos + (seconds * 1000000000 + nanos) := by
  have hsize : UInt64.size = 18446744073709551616 := rfl
  have hmax : maxDurationNanos = 18446744073709551616 * 1000000000 - 1 := rfl
  have hsum : (total.nanos / 1000000000 + seconds) * 1000000000 + (total.nanos % 1000000000 + nanos) =
      total.nanos + (seconds * 1000000000 + nanos) := by omega
  have hcarry : ¬1000000000 < total.nanos % 1000000000 + nanos := by omega
  have hnanos := count64_eq (n := total.nanos % 1000000000 + nanos) (by omega)
  have hseconds := count64_eq (n := seconds) (by omega)
  have hboth := count64_eq (n := total.nanos / 1000000000 + seconds) (by omega)
  refine ⟨⟨_, hfit⟩, ?_, rfl⟩
  rw [addSpan, hnanos, ok_bind]
  simp only [if_neg hcarry]
  rw [hseconds, ok_bind, hboth, ok_bind]
  simp only [hsum, ofNanos?_eq hfit]

/-- A span that fits is added as it is, if the parts below a second do not make a second. -/
theorem addWhole_eq {total : Duration} {unit : TimeUnit} {n : Nat}
    (hpart : total.nanos % 1000000000 + n * unit.size.2 < 1000000000)
    (hfit : total.nanos + n * unit.nanos ≤ maxDurationNanos) :
    ∃ d, addWhole total unit n = .ok d ∧ d.nanos = total.nanos + n * unit.nanos := by
  have hsize : UInt64.size = 18446744073709551616 := rfl
  have hmax : maxDurationNanos = 18446744073709551616 * 1000000000 - 1 := rfl
  have hnanos : n * unit.nanos = n * unit.size.1 * 1000000000 + n * unit.size.2 := by
    rw [TimeUnit.nanos_eq_size, Nat.mul_add, Nat.mul_assoc]
  rw [hnanos] at hfit ⊢
  rw [addWhole, count64_eq (by omega), ok_bind, count64_eq (by omega), ok_bind]
  exact addSpan_eq hpart hfit

/-! ### Runs of a reader -/

/-- What a row of characters does to the place and the total of a reader, wherever in the text it is. -/
def Reads (place : Place) (total : Duration) (cs : List Char) (place' : Place) (total' : Duration) : Prop :=
  ∀ offset, ∃ offset', cs.foldlM Reader.step ⟨place, total, offset⟩ = .ok ⟨place', total', offset'⟩

theorem Reads.trans {p p' p'' : Place} {t t' t'' : Duration} {cs ds : List Char} (h : Reads p t cs p' t')
    (h' : Reads p' t' ds p'' t'') : Reads p t (cs ++ ds) p'' t'' := by
  intro offset
  obtain ⟨mid, hmid⟩ := h offset
  obtain ⟨last, hlast⟩ := h' mid
  exact ⟨last, by rw [List.foldlM_append, hmid]; exact hlast⟩

theorem Reads.single {p p' : Place} {t t' : Duration} {c : Char}
    (h : ∀ offset, Reader.step ⟨p, t, offset⟩ c = .ok ⟨p', t', offset + c.utf8Size⟩) :
    Reads p t [c] p' t' :=
  fun offset => ⟨offset + c.utf8Size, by rw [List.foldlM_cons, h]; rfl⟩

/-- A place before a number. -/
def Place.Waiting (p : Place) : Prop := p = .start ∨ p = .gap

theorem digitValue_digitChar {n : Nat} (h : n < 10) : digitValue (Nat.digitChar n) = n :=
  Nat.toNat_digitChar_sub_48_of_lt_ten h

/-- Digits are read as the number that they write. -/
theorem reads_digits {p : Place} (hp : p.Waiting) (total : Duration) {n : Nat} (hn : n < UInt64.size) :
    Reads p total (Nat.toDigits 10 n) (.number n) total := by
  induction n using Nat.strongRecOn with
  | ind n ih =>
  rw [Nat.toDigits_eq_if (by decide)]
  by_cases hlt : n < 10
  · rw [if_pos hlt]
    have hdigit : (Nat.digitChar n).isDigit = true := by rw [Nat.isDigit_digitChar]; exact decide_eq_true hlt
    refine Reads.single fun offset => ?_
    rcases hp with rfl | rfl <;> simp only [Reader.step, if_pos hdigit, digitValue_digitChar hlt]
  · rw [if_neg hlt]
    have hlast : n % 10 < 10 := Nat.mod_lt n (by decide)
    have hdigit : (Nat.digitChar (n % 10)).isDigit = true := by
      rw [Nat.isDigit_digitChar]; exact decide_eq_true hlast
    refine (ih (n / 10) (by omega) (by omega)).trans (Reads.single fun offset => ?_)
    simp only [Reader.step, if_pos hdigit, digitValue_digitChar hlast]
    rw [show n / 10 * 10 + n % 10 = n by omega, count64_eq hn]
    rfl

theorem code_of_letter {c : Char} (h : isLetter c = true) :
    65 ≤ c.toNat ∧ c.toNat ≤ 122 ∨ c.toNat = 181 := by
  have hcases : (decide ('A'.val ≤ c.val ∧ c.val ≤ 'Z'.val) ||
      decide ('a'.val ≤ c.val) && decide (c.val ≤ 'z'.val) || decide (c = 'µ')) = true := h
  simp only [Bool.or_eq_true, Bool.and_eq_true, decide_eq_true_eq, UInt32.le_iff_toNat_le] at hcases
  rcases hcases with (⟨hlow, hhigh⟩ | ⟨hlow, hhigh⟩) | rfl
  · exact Or.inl ⟨hlow, Nat.le_trans hhigh (by decide)⟩
  · exact Or.inl ⟨Nat.le_trans (by decide) hlow, hhigh⟩
  · exact Or.inr rfl

theorem digit_of_letter {c : Char} (h : isLetter c = true) : c.isDigit = false := by
  have hcode := code_of_letter h
  cases hc : c.isDigit with
  | false => rfl
  | true =>
    simp only [Char.isDigit, Bool.and_eq_true, decide_eq_true_eq, UInt32.le_iff_toNat_le] at hc
    have hnine : c.toNat ≤ 57 := hc.2
    omega

theorem blank_of_letter {c : Char} (h : isLetter c = true) : Text.isBlank c = false := by
  have hcode := code_of_letter h
  simp [Text.isBlank, Text.blankRanges]
  omega

theorem reads_letters (total : Duration) (n : Nat) (f : Option Fraction) {cs : List Char}
    (hcs : ∀ c ∈ cs, isLetter c = true) (letters : List Char) :
    Reads (.unit n f letters) total cs (.unit n f (cs.reverse ++ letters)) total := by
  induction cs generalizing letters with
  | nil => exact fun offset => ⟨offset, rfl⟩
  | cons c cs ih =>
    have hc : isLetter c = true := hcs c List.mem_cons_self
    rw [List.reverse_cons, List.append_assoc]
    refine (Reads.single (c := c) fun offset => ?_).trans
      (ih (fun d hd => hcs d (List.mem_cons_of_mem c hd)) (c :: letters))
    simp only [Reader.step, if_pos hc]

/-- A name behind a number is taken as the name of a unit. -/
theorem reads_name (total : Duration) (n : Nat) {cs : List Char} (hne : cs ≠ [])
    (hcs : ∀ c ∈ cs, isLetter c = true) : Reads (.number n) total cs (.unit n none cs.reverse) total := by
  cases cs with
  | nil => exact absurd rfl hne
  | cons c cs =>
    have hc : isLetter c = true := hcs c List.mem_cons_self
    rw [List.reverse_cons]
    refine (Reads.single (c := c) fun offset => ?_).trans
      (reads_letters total n none (fun d hd => hcs d (List.mem_cons_of_mem c hd)) [c])
    simp [Reader.step, digit_of_letter hc, blank_of_letter hc, hc]

/-! ### Spans -/

/-- A count of a unit, with one of the names of the unit. -/
structure Span where
  count : Nat
  unit : TimeUnit
  name : String

namespace Span

/-- The name is a name of the unit. -/
def Proper (s : Span) : Prop := TimeUnit.ofName? s.name = some s.unit

def text (s : Span) : String := toString s.count ++ s.name

def nanos (s : Span) : Nat := s.count * s.unit.nanos

/-- The nanoseconds of a unit shorter than a second. -/
def part (s : Span) : Nat := s.count * s.unit.size.2

end Span

theorem letters_of_name (u : TimeUnit) {name : String} (h : name ∈ u.names) :
    name.toList ≠ [] ∧ ∀ c ∈ name.toList, isLetter c = true := by
  have hall : u.names.all (fun name => !name.toList.isEmpty && name.toList.all isLetter) = true := by
    cases u <;> decide
  have hname := List.all_eq_true.mp hall name h
  rw [Bool.and_eq_true, List.all_eq_true] at hname
  exact ⟨fun hnil => by simp [hnil] at hname, hname.2⟩

theorem Span.Proper.letters {s : Span} (h : s.Proper) :
    s.name.toList ≠ [] ∧ ∀ c ∈ s.name.toList, isLetter c = true := by
  have hname : s.unit.names.contains s.name = true := by simpa using List.find?_some h
  exact letters_of_name s.unit (List.contains_iff_mem.1 hname)

/-- The number of a span that fits is a number of 64 bits. -/
theorem Span.count_lt {s : Span} (hpart : s.part < 1000000000) (hfit : s.nanos ≤ maxDurationNanos) :
    s.count < UInt64.size := by
  have hsize : UInt64.size = 18446744073709551616 := rfl
  have hmax : maxDurationNanos = 18446744073709551616 * 1000000000 - 1 := rfl
  unfold Span.part at hpart
  unfold Span.nanos at hfit
  cases hu : s.unit <;> simp only [hu, TimeUnit.size, TimeUnit.nanos] at hpart hfit <;> omega

/-- A reader that waits for a number reads a span up to its end, and then adds it. -/
theorem reads_span {p : Place} (hp : p.Waiting) (total : Duration) {s : Span} (hs : s.Proper)
    (hcount : s.count < UInt64.size) :
    Reads p total s.text.toList (.unit s.count none s.name.toList.reverse) total := by
  rw [Span.text, String.toList_append, Nat.toString_eq_repr, Nat.toList_repr]
  exact (reads_digits hp total hcount).trans (reads_name total s.count hs.letters.1 hs.letters.2)

theorem close_span (total : Duration) {s : Span} (hs : s.Proper)
    (hpart : total.nanos % 1000000000 + s.part < 1000000000)
    (hfit : total.nanos + s.nanos ≤ maxDurationNanos) :
    ∃ d, close total s.count none s.name.toList = .ok d ∧ d.nanos = total.nanos + s.nanos := by
  obtain ⟨d, hadd, hd⟩ := addWhole_eq hpart hfit
  refine ⟨d, ?_, hd⟩
  simp only [close, String.ofList_toList, show TimeUnit.ofName? s.name = some s.unit from hs, hadd]
  rfl

/-- The space behind a span adds it. -/
theorem reads_space {total d : Duration} {s : Span}
    (hclose : close total s.count none s.name.toList = .ok d) :
    Reads (.unit s.count none s.name.toList.reverse) total [' '] .gap d := by
  refine Reads.single fun offset => ?_
  have hletter : isLetter ' ' = false := rfl
  have hdigit : ' '.isDigit = false := rfl
  have hblank : Text.isBlank ' ' = true := rfl
  simp only [Reader.step, hletter, hdigit, hblank, Bool.false_eq_true, if_false, if_true,
    List.reverse_reverse, hclose, ok_bind]

/-! ### Rows of spans -/

/-- All the spans of a row together. -/
def rowNanos : List Span → Nat
  | [] => 0
  | s :: row => s.nanos + rowNanos row

/-- The parts below a second of all the spans of a row together. -/
def rowPart : List Span → Nat
  | [] => 0
  | s :: row => s.part + rowPart row

theorem rowNanos_append (row row' : List Span) : rowNanos (row ++ row') = rowNanos row + rowNanos row' := by
  induction row with
  | nil => simp [rowNanos]
  | cons s row ih => simp only [List.cons_append, rowNanos, ih]; omega

theorem rowPart_append (row row' : List Span) : rowPart (row ++ row') = rowPart row + rowPart row' := by
  induction row with
  | nil => simp [rowPart]
  | cons s row ih => simp only [List.cons_append, rowPart, ih]; omega

/-- The last nine digits of a sum that is not carried. -/
theorem nanos_mod_add (total : Nat) (s : Span) (h : total % 1000000000 + s.part < 1000000000) :
    (total + s.nanos) % 1000000000 = total % 1000000000 + s.part := by
  have hnanos : s.nanos = s.count * s.unit.size.1 * 1000000000 + s.part := by
    rw [Span.nanos, TimeUnit.nanos_eq_size, Nat.mul_add, Nat.mul_assoc, Span.part]
  omega

/-- A row of spans separated by spaces adds all of them to the total. -/
theorem finish_row {row : List Span} (hne : row ≠ []) (hproper : ∀ s ∈ row, s.Proper) {p : Place}
    (hp : p.Waiting) (total : Duration) (hpart : total.nanos % 1000000000 + rowPart row < 1000000000)
    (hfit : total.nanos + rowNanos row ≤ maxDurationNanos) (offset : Nat) :
    ∃ d, ((" ".intercalate (row.map Span.text)).toList.foldlM Reader.step ⟨p, total, offset⟩ >>=
      Reader.finish) = .ok d ∧ d.nanos = total.nanos + rowNanos row := by
  induction row generalizing p total offset with
  | nil => exact absurd rfl hne
  | cons s row ih =>
    have hs : s.Proper := hproper s List.mem_cons_self
    simp only [rowPart, rowNanos] at hpart hfit ⊢
    obtain ⟨d, hclose, hd⟩ := close_span total hs (by omega) (by omega)
    have hspan := reads_span hp total hs (Span.count_lt (by omega) (by omega))
    cases row with
    | nil =>
      obtain ⟨last, hread⟩ := hspan offset
      refine ⟨d, ?_, by rw [hd, rowNanos, Nat.add_zero]⟩
      rw [List.map_cons, List.map_nil, String.intercalate_singleton, hread, ok_bind]
      simp only [Reader.finish, List.reverse_reverse, hclose]
    | cons s' row =>
      obtain ⟨mid, hread⟩ := (hspan.trans (reads_space hclose)) offset
      have hmod := nanos_mod_add total.nanos s (by omega)
      obtain ⟨e, hrest, he⟩ := ih (by simp) (fun x hx => hproper x (List.mem_cons_of_mem s hx))
        (Or.inr rfl) d (by rw [hd, hmod]; omega) (by rw [hd]; omega) mid
      refine ⟨e, ?_, by rw [he, hd]; omega⟩
      rw [List.map_cons, List.map_cons, String.intercalate_cons_cons, String.toList_append,
        String.toList_append, List.foldlM_append]
      rw [show " ".toList = [' '] from rfl, hread, ok_bind]
      exact hrest

/-! ### Written durations -/

/-- A count of a unit, unless it is zero. -/
def span (name : String) (unit : TimeUnit) (n : Nat) : List Span := if n = 0 then [] else [⟨n, unit, name⟩]

/-- A name that takes the ending of the plural if it counts several. -/
def plural (name : String) (n : Nat) : String := name ++ if 1 < n then "s" else ""

/-- The spans that a duration is written with. -/
def spans (d : Duration) : List Span :=
  let seconds := d.nanos / 1000000000
  let nanos := d.nanos % 1000000000
  let inYear := seconds % 31557600
  let inMonth := inYear % 2630016
  let inDay := inMonth % 86400
  span (plural "year" (seconds / 31557600)) .year (seconds / 31557600) ++
    span (plural "month" (inYear / 2630016)) .month (inYear / 2630016) ++
    span (plural "day" (inMonth / 86400)) .day (inMonth / 86400) ++ span "h" .hour (inDay / 3600) ++
    span "m" .minute (inDay % 3600 / 60) ++ span "s" .second (inDay % 60) ++
    span "ms" .millisecond (nanos / 1000000) ++ span "us" .microsecond (nanos / 1000 % 1000) ++
    span "ns" .nanosecond (nanos % 1000)

theorem map_text_span (name : String) (unit : TimeUnit) (n : Nat) :
    (span name unit n).map Span.text = shortItem name n := by
  unfold shortItem span
  split <;> rfl

theorem shortItem_plural (name : String) (n : Nat) : shortItem (plural name n) n = longItem name n := by
  rw [longItem, shortItem, plural, String.append_assoc]

theorem map_text_spans (d : Duration) : (spans d).map Span.text = items d := by
  simp only [items, spans, List.map_append, map_text_span, shortItem_plural]

theorem rowNanos_span (name : String) (unit : TimeUnit) (n : Nat) :
    rowNanos (span name unit n) = n * unit.nanos := by
  unfold span
  split
  · rename_i h
    rw [h, Nat.zero_mul]
    rfl
  · simp [rowNanos, Span.nanos]

theorem rowPart_span (name : String) (unit : TimeUnit) (n : Nat) :
    rowPart (span name unit n) = n * unit.size.2 := by
  unfold span
  split
  · rename_i h
    rw [h, Nat.zero_mul]
    rfl
  · simp [rowPart, Span.part]

/-- The spans of a duration come to the duration. -/
theorem rowNanos_spans (d : Duration) : rowNanos (spans d) = d.nanos := by
  simp only [spans, rowNanos_append, rowNanos_span, TimeUnit.nanos]
  omega

theorem rowPart_spans (d : Duration) : rowPart (spans d) = d.nanos % 1000000000 := by
  simp only [spans, rowPart_append, rowPart_span, TimeUnit.size]
  omega

theorem proper_span {name : String} {unit : TimeUnit} (hname : TimeUnit.ofName? name = some unit) (n : Nat) :
    ∀ s ∈ span name unit n, s.Proper := by
  intro s hs
  unfold span at hs
  split at hs
  · cases hs
  · rw [List.mem_singleton.1 hs]
    exact hname

theorem ofName?_plural {name : String} {unit : TimeUnit} (hone : TimeUnit.ofName? name = some unit)
    (hmany : TimeUnit.ofName? (name ++ "s") = some unit) (n : Nat) :
    TimeUnit.ofName? (plural name n) = some unit := by
  unfold plural
  split
  · exact hmany
  · rwa [String.append_empty]

theorem proper_spans (d : Duration) : ∀ s ∈ spans d, s.Proper := by
  intro s hs
  simp only [spans, List.mem_append, or_assoc] at hs
  rcases hs with h | h | h | h | h | h | h | h | h
  · exact proper_span (ofName?_plural (by decide) (by decide) _) _ s h
  · exact proper_span (ofName?_plural (by decide) (by decide) _) _ s h
  · exact proper_span (ofName?_plural (by decide) (by decide) _) _ s h
  all_goals exact proper_span (by decide) _ s h

/-- What is written is read. -/
theorem read_write (d : Duration) : read (write d) = .ok d := by
  cases hz : d.isZero with
  | true =>
    have hzero : d = Duration.zero := Duration.ext (eq_of_beq hz)
    rw [write, if_pos hz, hzero]
    rfl
  | false =>
    have hpos : d.nanos ≠ 0 := by simpa [Duration.isZero] using hz
    have hne : spans d ≠ [] := by
      intro hnil
      have hsum := rowNanos_spans d
      rw [hnil] at hsum
      exact hpos hsum.symm
    have hpart : 0 % 1000000000 + rowPart (spans d) < 1000000000 := by rw [rowPart_spans]; omega
    have hfit : 0 + rowNanos (spans d) ≤ maxDurationNanos := by
      rw [rowNanos_spans, Nat.zero_add]
      exact d.nanos_le
    obtain ⟨e, hrow, he⟩ :=
      finish_row hne (proper_spans d) (Or.inl rfl) Duration.zero hpart hfit 0
    have hed : e = d := by
      apply Duration.ext
      rw [he, rowNanos_spans]
      exact Nat.zero_add d.nanos
    rw [write, if_neg (by simp [hz]), ← map_text_spans, read, readChars]
    split
    · rename_i hlone
      -- A lone zero has no unit, so it is no row of spans.
      rw [hlone] at hrow
      cases hrow
    · rw [hrow, hed]

end Notation
end Resilience
