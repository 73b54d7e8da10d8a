import Reckon.Token.Scan

/-!
# Character classes that exclude each other

Classes are tables of code ranges. Two tables whose ranges lie apart have no character in common
(`not_inRanges_of_apart`), and that they lie apart is checked range by range. So a blank continues
neither a name nor a unit.
-/

namespace Reckon.Text

/-- No range of the one table meets a range of the other. -/
def Apart (table other : List CodeRange) : Prop :=
  ∀ r ∈ table, ∀ s ∈ other, r.last < s.first ∨ s.last < r.first

instance (table other : List CodeRange) : Decidable (Apart table other) :=
  inferInstanceAs (Decidable (∀ r ∈ table, ∀ s ∈ other, r.last < s.first ∨ s.last < r.first))

theorem exists_range {table : List CodeRange} {code : Nat} (h : inRanges table code = true) :
    ∃ r ∈ table, r.first ≤ code ∧ code ≤ r.last := by
  obtain ⟨r, hr, hcode⟩ := List.any_eq_true.1 h
  simp only [CodeRange.contains, Bool.and_eq_true, decide_eq_true_eq] at hcode
  exact ⟨r, hr, hcode.1⟩

/-- **Tables whose ranges lie apart have nothing in common.** -/
theorem not_inRanges_of_apart {table other : List CodeRange} (h : Apart table other) {code : Nat}
    (hcode : inRanges table code = true) : inRanges other code = false := by
  rw [Bool.eq_false_iff]
  intro hother
  obtain ⟨r, hr, hle, hge⟩ := exists_range hcode
  obtain ⟨s, hs, hle', hge'⟩ := exists_range hother
  rcases h r hr s hs with hlt | hlt <;> omega

/-- The ASCII letters. -/
def asciiLetterRanges : List CodeRange := [⟨0x41, 0x5a, 1⟩, ⟨0x61, 0x7a, 1⟩]

/-- The ASCII digits. -/
def asciiDigitRanges : List CodeRange := [⟨0x30, 0x39, 1⟩]

theorem inRanges_of_isAlpha {c : Char} (h : c.isAlpha = true) :
    inRanges asciiLetterRanges c.toNat = true := by
  have hbounds : (decide (c.val ≥ 'A'.val ∧ c.val ≤ 'Z'.val) ||
      decide (c.val ≥ 'a'.val) && decide (c.val ≤ 'z'.val)) = true := h
  simp only [Bool.or_eq_true, Bool.and_eq_true, decide_eq_true_eq, ge_iff_le,
    UInt32.le_iff_toNat_le] at hbounds
  simp only [inRanges, asciiLetterRanges, List.any_cons, List.any_nil, CodeRange.contains,
    Nat.mod_one, Bool.or_eq_true, Bool.and_eq_true, decide_eq_true_eq, Char.toNat]
  rcases hbounds with hbounds | hbounds <;> simp_all

theorem inRanges_of_isDigit {c : Char} (h : c.isDigit = true) :
    inRanges asciiDigitRanges c.toNat = true := by
  simp only [Char.isDigit, Bool.and_eq_true, decide_eq_true_eq, ge_iff_le,
    UInt32.le_iff_toNat_le] at h
  simp only [inRanges, asciiDigitRanges, List.any_cons, List.any_nil, CodeRange.contains,
    Nat.mod_one, Bool.or_false, Bool.and_eq_true, decide_eq_true_eq, Char.toNat]
  simp_all

/-- A blank is no letter. -/
theorem isLetter_of_isBlank {c : Char} (h : isBlank c = true) : isLetter c = false := by
  unfold isLetter
  split
  · rw [Bool.eq_false_iff]
    intro halpha
    have hletter := inRanges_of_isAlpha halpha
    rw [not_inRanges_of_apart (by decide) h] at hletter
    cases hletter
  · exact not_inRanges_of_apart (by decide +kernel) h

theorem isNumeral_of_isBlank {c : Char} (h : isBlank c = true) : isNumeral c = false := by
  unfold isNumeral
  split
  · rw [Bool.eq_false_iff]
    intro hdigit
    have hdigit := inRanges_of_isDigit hdigit
    rw [not_inRanges_of_apart (by decide) h] at hdigit
    cases hdigit
  · exact not_inRanges_of_apart (by decide +kernel) h

/-- **A blank continues no word.** -/
theorem isWordChar_of_isBlank {c : Char} (h : isBlank c = true) : isWordChar c = false := by
  rw [isWordChar, isLetter_of_isBlank h, isNumeral_of_isBlank h]
  rfl

theorem isWordChar_of_isDigit {c : Char} (h : isDigit c = true) : isWordChar c = true := by
  have hdigit : c.isDigit = true := h
  have hcode : c.toNat < 128 := by
    obtain ⟨r, hr, -, hle⟩ := exists_range (inRanges_of_isDigit hdigit)
    obtain rfl := List.mem_singleton.1 hr
    exact Nat.lt_of_le_of_lt hle (by decide)
  simp [isWordChar, isNumeral, hcode, hdigit]

/-- A digit is no letter. -/
theorem isLetter_of_isDigit {c : Char} (h : isDigit c = true) : isLetter c = false := by
  have hdigit := inRanges_of_isDigit (c := c) h
  unfold isLetter
  split
  · rw [Bool.eq_false_iff]
    intro halpha
    have hletter := inRanges_of_isAlpha halpha
    rw [not_inRanges_of_apart (by decide) hdigit] at hletter
    cases hletter
  · exact not_inRanges_of_apart (by decide +kernel) hdigit

theorem isBlank_of_isWordChar {c : Char} (h : isWordChar c = true) : isBlank c = false := by
  rw [Bool.eq_false_iff]
  intro hblank
  rw [isWordChar_of_isBlank hblank] at h
  cases h

/-- A run of characters of one class ends where the class does. -/
theorem takeWhile_append_stop {p : Char → Bool} {cs rest : List Char} (hcs : cs.all p = true)
    (hrest : ∀ c ∈ rest.head?, p c = false) : (cs ++ rest).takeWhile p = cs := by
  rw [List.takeWhile_append_of_pos (List.all_eq_true.1 hcs)]
  cases rest with
  | nil => simp
  | cons c rest => simp [hrest c (by simp)]

theorem dropWhile_append_stop {p : Char → Bool} {cs rest : List Char} (hcs : cs.all p = true)
    (hrest : ∀ c ∈ rest.head?, p c = false) : (cs ++ rest).dropWhile p = rest := by
  rw [List.dropWhile_append_of_pos (List.all_eq_true.1 hcs)]
  cases rest with
  | nil => rfl
  | cons c rest => simp [hrest c (by simp)]

end Reckon.Text

namespace Reckon

/-! ### The characters of words -/

theorem isBlank_of_isDigit {c : Char} (h : Text.isDigit c = true) : Text.isBlank c = false :=
  Text.isBlank_of_isWordChar (Text.isWordChar_of_isDigit h)

theorem isBlank_of_isNameChar {c : Char} (h : isNameChar c = true) : Text.isBlank c = false := by
  rcases Bool.or_eq_true_iff.1 h with h | h
  · exact Text.isBlank_of_isWordChar h
  · obtain rfl : c = '_' := by simpa using h
    decide

theorem isBlank_of_isUnitChar {c : Char} (h : isUnitChar c = true) : Text.isBlank c = false := by
  simp only [isUnitChar, Bool.or_eq_true, beq_iff_eq] at h
  rcases h with (((h | rfl) | rfl) | rfl) | rfl
  · exact Text.isBlank_of_isWordChar h
  all_goals decide

theorem isNameChar_of_isNameStart {c : Char} (h : isNameStart c = true) : isNameChar c = true := by
  rcases Bool.or_eq_true_iff.1 h with h | h
  · simp [isNameChar, Text.isWordChar, h]
  · simp [isNameChar, h]

theorem isUnitChar_of_isLetter {c : Char} (h : Text.isLetter c = true) : isUnitChar c = true := by
  simp [isUnitChar, Text.isWordChar, h]

end Reckon
