import Reckon.Proofs.Decimal.Literal
import Reckon.Proofs.Token.Cover

/-!
# A word depends on its own characters

To find the end of a word, the scanner looks at characters behind it: a point or an `e` behind the
digits may be part of the number, and a letter behind blanks may be its unit. If they turn out not to
be, they do not matter. What is behind a word may be replaced by another text that is empty or starts
with a blank, and the word stays the same (`scanWord?_swap`), provided that no letter comes within
reach of a number that has no unit.

Each part of a word has a lemma of its own, about the text `a ++ b` in which the part lies within `a`,
and `b` is replaced by `b'`.
-/

namespace Reckon

/-- The text is empty or starts with a blank, so that no word goes on in it. -/
def Detached (cs : List Char) : Prop := ∀ c ∈ cs.head?, Text.isInlineBlank c = true

theorem detached_nil : Detached [] := fun _ hc => nomatch hc

theorem isBlank_of_isInlineBlank {c : Char} (h : Text.isInlineBlank c = true) :
    Text.isBlank c = true :=
  (Bool.and_eq_true_iff.mp h).1

/-- A class without blanks has nothing in common with the start of a detached text. -/
theorem Detached.head {cs : List Char} (h : Detached cs) {p : Char → Bool}
    (hp : ∀ c, p c = true → Text.isBlank c = false) : ∀ c ∈ cs.head?, p c = false := by
  intro c hc
  have hblank := isBlank_of_isInlineBlank (h c hc)
  rw [Bool.eq_false_iff]
  intro hpc
  rw [hp c hpc] at hblank
  cases hblank

theorem Detached.digit {cs : List Char} (h : Detached cs) :
    ∀ c ∈ cs.head?, Text.isDigit c = false := h.head (p := Text.isDigit) fun _ => isBlank_of_isDigit

theorem Detached.ne {cs : List Char} (h : Detached cs) {d : Char} (hd : Text.isBlank d = false) :
    ∀ c ∈ cs.head?, c ≠ d := by
  rintro c hc rfl
  have hblank := isBlank_of_isInlineBlank (h c hc)
  rw [hd] at hblank
  cases hblank

/-- A run of characters that ends within `a`. -/
theorem takeWhile_swap {p : Char → Bool} {b b' : List Char} (hb' : ∀ c ∈ b'.head?, p c = false) :
    ∀ {a : List Char}, ((a ++ b).takeWhile p).length ≤ a.length →
      (a ++ b').takeWhile p = (a ++ b).takeWhile p
  | [], hle => by
    have hnil : b.takeWhile p = [] := List.eq_nil_of_length_eq_zero (Nat.le_zero.mp hle)
    rw [List.nil_append, List.nil_append, hnil]
    cases b' with
    | nil => rfl
    | cons c b' => exact List.takeWhile_cons_of_neg (by simp [hb' c rfl])
  | c :: a, hle => by
    rw [List.cons_append, List.cons_append] at *
    by_cases hc : p c = true
    · rw [List.takeWhile_cons_of_pos hc] at hle ⊢
      rw [List.takeWhile_cons_of_pos hc, takeWhile_swap hb' (Nat.le_of_succ_le_succ hle)]
    · rw [List.takeWhile_cons_of_neg hc, List.takeWhile_cons_of_neg hc]

namespace Decimal

variable {a b b' : List Char}

theorem scanFraction_swap (hb' : Detached b')
    (hle : (fractionText (scanFraction (a ++ b))).length ≤ a.length) :
    scanFraction (a ++ b') = scanFraction (a ++ b) := by
  have hplain : ∀ {cs : List Char}, (∀ c ∈ cs.head?, c ≠ '.') → scanFraction cs = [] := by
    intro cs hcs
    unfold scanFraction
    split
    · exact absurd rfl (hcs '.' rfl)
    · rfl
  cases a with
  | nil =>
    have hnone : scanFraction b = [] := by
      have hempty : fractionText (scanFraction b) = [] :=
        List.eq_nil_of_length_eq_zero (Nat.le_zero.mp hle)
      unfold fractionText at hempty
      split at hempty
      · rename_i hfraction
        exact List.isEmpty_iff.mp hfraction
      · cases hempty
    exact (hplain (hb'.ne (by decide))).trans hnone.symm
  | cons c a =>
    by_cases hc : c = '.'
    · subst hc
      show (a ++ b').takeWhile Text.isDigit = (a ++ b).takeWhile Text.isDigit
      refine takeWhile_swap hb'.digit ?_
      -- if there are digits, the point stands before them
      have hdigits : scanFraction (('.' :: a) ++ b) = (a ++ b).takeWhile Text.isDigit := rfl
      rw [hdigits, fractionText] at hle
      split at hle
      · rename_i hempty
        rw [List.isEmpty_iff.mp hempty]
        exact Nat.zero_le _
      · exact Nat.le_of_succ_le_succ hle
    · have hpoint : ∀ cs : List Char, scanFraction (c :: cs) = [] :=
        fun cs => hplain (by simpa using hc)
      exact (hpoint _).trans (hpoint _).symm

/-- There is no exponent if its letter is missing or nothing can follow it. -/
theorem scanExponent_eq_none {cs : List Char} (h : Detached cs) :
    scanExponent cs = none ∧ ∀ mark, scanExponent (mark :: cs) = none := by
  constructor
  · cases cs with
    | nil => rfl
    | cons c cs =>
      have hmark : ¬(c = 'e' ∨ c = 'E') :=
        not_or.mpr ⟨h.ne (by decide) c rfl, h.ne (by decide) c rfl⟩
      simp only [scanExponent, if_neg hmark]
  · intro mark
    have hsign : (cs.head?.filter fun c => c = '+' ∨ c = '-') = none := by
      rw [Option.filter_eq_none_iff]
      intro c hc
      simp [h.ne (d := '+') (by decide) c hc, h.ne (d := '-') (by decide) c hc]
    have hdigits : cs.takeWhile Text.isDigit = [] := by
      cases cs with
      | nil => rfl
      | cons c cs =>
        have hdigit := h.digit c rfl
        exact List.takeWhile_cons_of_neg (by simp [hdigit])
    simp only [scanExponent]
    split
    · rw [hsign, Option.toList_none, List.length_nil, List.drop_zero, hdigits]
      rfl
    · rfl

theorem scanExponent_swap (hb' : Detached b')
    (hle : (exponentText (scanExponent (a ++ b))).length ≤ a.length) :
    scanExponent (a ++ b') = scanExponent (a ++ b) := by
  -- an exponent has two characters at least
  have hlong : ∀ {cs : List Char} {e : ExponentPart}, scanExponent cs = some e →
      2 ≤ (exponentText (some e)).length := by
    intro cs e he
    have hpos := List.length_pos_iff.mpr (proper_of_scanExponent he).digits_ne
    simp only [exponentText, ExponentPart.text, Option.map_some, Option.getD_some,
      List.length_cons, List.length_append]
    omega
  have hshort : a.length < 2 → scanExponent (a ++ b) = none := by
    intro ha
    rcases he : scanExponent (a ++ b) with _ | e
    · rfl
    · have htwo := hlong he
      rw [he] at hle
      omega
  rcases a with _ | ⟨mark, _ | ⟨c, a⟩⟩
  · exact (scanExponent_eq_none hb').1.trans (hshort (by simp)).symm
  · exact ((scanExponent_eq_none hb').2 mark).trans (hshort (by simp)).symm
  · by_cases hmark : mark = 'e' ∨ mark = 'E'
    · obtain ⟨sign, hsign⟩ : ∃ sign, (some c).filter (fun c => c = '+' ∨ c = '-') = sign := ⟨_, rfl⟩
      have hone : sign.toList.length ≤ (c :: a).length := by
        cases sign <;> simp
      have hscan : ∀ cs : List Char, scanExponent (mark :: c :: a ++ cs) =
          let digits := ((c :: a).drop sign.toList.length ++ cs).takeWhile Text.isDigit
          if digits.isEmpty then none else some ⟨mark, sign, digits⟩ := by
        intro cs
        rw [← List.drop_append_of_le_length hone, ← hsign]
        exact if_pos hmark
      rw [hscan] at hle ⊢
      rw [hscan, takeWhile_swap hb'.digit]
      simp only at hle
      split at hle
      · rename_i hempty
        rw [List.isEmpty_iff.mp hempty]
        exact Nat.zero_le _
      · simp only [exponentText, ExponentPart.text, Option.map_some, Option.getD_some,
          List.length_cons, List.length_append] at hle
        rw [List.length_drop, List.length_cons]
        omega
    · have hnone : ∀ cs : List Char, scanExponent (mark :: cs) = none := fun cs => if_neg hmark
      exact (hnone _).trans (hnone _).symm

/-- **A numeral ends where it ends.** -/
theorem Numeral.scan_swap (hb' : Detached b')
    (hle : (Numeral.scan (a ++ b)).text.length ≤ a.length) :
    Numeral.scan (a ++ b') = Numeral.scan (a ++ b) := by
  have hparts : (Numeral.scan (a ++ b)).text.length = (Numeral.scan (a ++ b)).whole.length +
      (fractionText (Numeral.scan (a ++ b)).fraction).length +
      (exponentText (Numeral.scan (a ++ b)).exponent).length := by
    rw [Numeral.text, List.length_append, List.length_append]
    rfl
  rw [hparts] at hle
  simp only [Numeral.scan] at hle ⊢
  have hwhole : (a ++ b').takeWhile Text.isDigit = (a ++ b).takeWhile Text.isDigit :=
    takeWhile_swap hb'.digit (by omega)
  rw [hwhole]
  generalize (a ++ b).takeWhile Text.isDigit = whole at hle ⊢
  have hdrop : ∀ cs : List Char, (a ++ cs).drop whole.length = a.drop whole.length ++ cs :=
    fun cs => List.drop_append_of_le_length (by omega)
  simp only [hdrop] at hle ⊢
  have hfraction : scanFraction (a.drop whole.length ++ b') =
      scanFraction (a.drop whole.length ++ b) :=
    scanFraction_swap hb' (by rw [List.length_drop]; omega)
  rw [hfraction]
  generalize fractionText (scanFraction (a.drop whole.length ++ b)) = fraction at hle ⊢
  have hdrop : ∀ cs : List Char, (a.drop whole.length ++ cs).drop fraction.length =
      (a.drop whole.length).drop fraction.length ++ cs :=
    fun cs => List.drop_append_of_le_length (by rw [List.length_drop]; omega)
  simp only [hdrop] at hle ⊢
  have hexponent : scanExponent ((a.drop whole.length).drop fraction.length ++ b') =
      scanExponent ((a.drop whole.length).drop fraction.length ++ b) :=
    scanExponent_swap hb' (by rw [List.length_drop, List.length_drop]; omega)
  rw [hexponent]

end Decimal

/-! ### Units -/

theorem drop_length_takeWhile (p : Char → Bool) (cs : List Char) :
    cs.drop (cs.takeWhile p).length = cs.dropWhile p :=
  (congrArg (List.drop _) List.takeWhile_append_dropWhile.symm).trans List.drop_left

/-- There is no unit if what stands behind the blanks is no letter. -/
theorem scanUnit_eq_none_iff {cs : List Char} : scanUnit cs = none ↔
    ∀ c ∈ (cs.dropWhile Text.isInlineBlank).head?, Text.isLetter c = false := by
  simp only [scanUnit, drop_length_takeWhile]
  split
  · rename_i hnil
    simp [hnil]
  · rename_i c rest hcons
    simp [hcons]

/-- A unit is a letter and what goes on behind it; blanks may stand before it. -/
theorem scanUnit_eq_some_iff {cs blanks unit : List Char} : scanUnit cs = some (blanks, unit) ↔
    ∃ c rest, cs = blanks ++ c :: rest ∧ blanks.all Text.isInlineBlank = true ∧
      Text.isLetter c = true ∧ unit = c :: rest.takeWhile isUnitChar := by
  simp only [scanUnit, drop_length_takeWhile]
  constructor
  · intro h
    split at h
    · cases h
    · rename_i c rest hrest
      split at h
      · rename_i hc
        cases h
        refine ⟨c, rest, ?_, List.all_takeWhile, hc, rfl⟩
        rw [← hrest, List.takeWhile_append_dropWhile]
      · cases h
  · rintro ⟨c, rest, rfl, hblanks, hc, rfl⟩
    have hstop : ∀ d ∈ (c :: rest).head?, Text.isInlineBlank d = false := by
      intro d hd
      obtain rfl : c = d := by simpa using hd
      have hblank := isBlank_of_isUnitChar (isUnitChar_of_isLetter hc)
      simp [Text.isInlineBlank, hblank]
    rw [Text.takeWhile_append_stop hblanks hstop, Text.dropWhile_append_stop hblanks hstop]
    exact if_pos hc

variable {a b b' : List Char}

theorem scanUnit_swap_none (hb' : scanUnit b' = none) (h : scanUnit (a ++ b) = none) :
    scanUnit (a ++ b') = none := by
  rw [scanUnit_eq_none_iff] at *
  rw [List.dropWhile_append] at *
  split
  · exact hb'
  · rename_i hne
    rw [if_neg hne] at h
    intro c hc
    refine h c ?_
    obtain ⟨d, rest, hrest⟩ := List.exists_cons_of_ne_nil (mt List.isEmpty_iff.mpr hne)
    rw [hrest] at hc ⊢
    exact hc

theorem scanUnit_swap_some {blanks unit : List Char} (hb' : Detached b')
    (h : scanUnit (a ++ b) = some (blanks, unit)) (hle : (blanks ++ unit).length ≤ a.length) :
    scanUnit (a ++ b') = some (blanks, unit) := by
  obtain ⟨c, rest, hab, hblanks, hc, rfl⟩ := scanUnit_eq_some_iff.mp h
  rw [List.length_append, List.length_cons] at hle
  -- the blanks and the letter lie within `a`
  have hhead : blanks ++ [c] <+: a ++ b := ⟨rest, by rw [hab, List.append_assoc]; rfl⟩
  obtain ⟨more, rfl⟩ : blanks ++ [c] <+: a := by
    refine List.prefix_of_prefix_length_le hhead (List.prefix_append a b) ?_
    rw [List.length_append, List.length_singleton]
    omega
  have hrest : rest = more ++ b := by simpa using hab.symm
  subst hrest
  have hswap : (more ++ b').takeWhile isUnitChar = (more ++ b).takeWhile isUnitChar := by
    refine takeWhile_swap (hb'.head (p := isUnitChar) fun _ => isBlank_of_isUnitChar) ?_
    simp only [List.length_append, List.length_singleton] at hle
    omega
  exact scanUnit_eq_some_iff.mpr ⟨c, more ++ b', by simp, hblanks, hc, by rw [hswap]⟩

/-! ### Words -/

/-- A word starts with the first character and goes on with those behind it. -/
theorem exists_cons_of_scanWord? {c : Char} {cs : List Char} {word : Word}
    (h : scanWord? c cs = some word) :
    ∃ chars behind, word.chars = c :: chars ∧ cs = chars ++ behind := by
  obtain ⟨d, chars, hchars⟩ := List.exists_cons_of_ne_nil (scanWord?_chars_ne_nil h)
  obtain ⟨behind, hbehind⟩ := prefix_scanWord? h
  rw [hchars, List.cons_append] at hbehind
  obtain ⟨rfl, rfl⟩ := List.cons.inj hbehind
  exact ⟨chars, behind, hchars, rfl⟩

theorem isInlineBlank_of_scanWord? {c : Char} {cs : List Char} {word : Word}
    (h : scanWord? c cs = some word) : Text.isInlineBlank c = false := by
  have hblank : Text.isBlank c = false := by
    unfold scanWord? at h
    split at h
    · rename_i hdigit
      exact isBlank_of_isDigit hdigit
    · split at h
      · rename_i hname
        exact isBlank_of_isNameChar (isNameChar_of_isNameStart hname)
      · obtain ⟨s, hs, -⟩ := Option.map_eq_some_iff.mp h
        obtain rfl : s.char = c := by simpa using List.find?_some hs
        cases s <;> decide
  simp [Text.isInlineBlank, hblank]

/-- A scan finds the word at its start and goes on behind it. -/
theorem scanFrom_word (here : Location) {l : Lexeme} {c : Char} {cs rest : List Char}
    (h : scanWord? c (cs ++ rest) = some ⟨l, c :: cs⟩) :
    scanFrom here (c :: cs ++ rest) =
      (scanFrom (here.advance (c :: cs).length) rest).cons (l.tokenAt (c :: cs) here) := by
  have hblank : ¬Text.isInlineBlank c = true := by simp [isInlineBlank_of_scanWord? h]
  rw [List.cons_append, scanFrom.eq_def]
  simp only [if_neg hblank, h, List.length_cons, Nat.add_sub_cancel, List.drop_left]
  rfl

theorem scanNumber_swap (hb' : Detached b') (hle : (scanNumber (a ++ b)).chars.length ≤ a.length)
    (hunit : (∃ x, (scanNumber (a ++ b)).lexeme = .number x none) → scanUnit b' = none) :
    scanNumber (a ++ b') = scanNumber (a ++ b) := by
  have hnumeral : (Decimal.Numeral.scan (a ++ b)).text.length ≤ a.length := by
    refine Nat.le_trans ?_ hle
    unfold scanNumber
    simp only
    split <;> simp
  unfold scanNumber at hle hunit ⊢
  rw [Decimal.Numeral.scan_swap hb' hnumeral]
  generalize Decimal.Numeral.scan (a ++ b) = numeral at *
  simp only [List.drop_append_of_le_length hnumeral] at *
  rcases hfound : scanUnit (a.drop numeral.text.length ++ b) with _ | ⟨blanks, unit⟩
  · simp only [hfound] at hunit
    rw [scanUnit_swap_none (hunit ⟨_, rfl⟩) hfound]
  · simp only [hfound] at hle
    have hle : (blanks ++ unit).length ≤ (a.drop numeral.text.length).length := by
      simp only [List.length_append, List.length_drop] at hle ⊢
      omega
    rw [scanUnit_swap_some hb' hfound hle]

/-- **A word depends on its own characters only.** If it ends within `a`, then what follows `a` may be
replaced by anything that is detached, and in which a number without a unit does not find one. -/
theorem scanWord?_swap {c : Char} {word : Word} (hb' : Detached b')
    (h : scanWord? c (a ++ b) = some word) (hle : word.chars.length ≤ (c :: a).length)
    (hunit : (∃ x, word.lexeme = .number x none) → scanUnit b' = none) :
    scanWord? c (a ++ b') = some word := by
  unfold scanWord? at h ⊢
  split at h
  · rename_i hdigit
    cases h
    rw [if_pos hdigit]
    exact congrArg some (scanNumber_swap (a := c :: a) hb' hle hunit)
  · rename_i hdigit
    rw [if_neg hdigit]
    split at h
    · rename_i hname
      cases h
      rw [if_pos hname, takeWhile_swap (hb'.head (p := isNameChar) fun _ => isBlank_of_isNameChar)]
      exact Nat.le_of_succ_le_succ hle
    · rename_i hname
      rw [if_neg hname]
      exact h

end Reckon
