import Reckon.Proofs.Text.Classes

/-!
# Number literals

A `Literal` is a numeral whose parts are well-formed: digits, a fraction that has digits if there is
a point, an exponent that has digits if there is a letter for it. Its text is scanned as that numeral
where a space or nothing follows (`Literal.scan_text`), and read as its value
(`Literal.read?_text`).
-/

namespace Reckon.Decimal

/-- The exponent is an `e`, an optional sign and at least one digit. -/
structure ExponentPart.Proper (e : ExponentPart) : Prop where
  mark : e.mark = 'e' ∨ e.mark = 'E'
  sign : ∀ c ∈ e.sign, c = '+' ∨ c = '-'
  digits_ne : e.digits ≠ []
  digits : e.digits.all Text.isDigit = true

instance (e : ExponentPart) : Decidable e.Proper :=
  decidable_of_iff
    ((e.mark = 'e' ∨ e.mark = 'E') ∧ e.sign.all (fun c => c = '+' ∨ c = '-') ∧ e.digits ≠ [] ∧
      e.digits.all Text.isDigit = true)
    ⟨fun ⟨mark, sign, ne, digits⟩ => ⟨mark, by simpa [Option.all_eq_true] using sign, ne, digits⟩,
      fun ⟨mark, sign, ne, digits⟩ => ⟨mark, by simpa [Option.all_eq_true] using sign, ne, digits⟩⟩

/-- A number literal: digits, then possibly a point and digits, then possibly an exponent. -/
structure Literal extends Numeral where
  whole_ne : whole ≠ []
  whole_digits : whole.all Text.isDigit = true
  fraction_digits : fraction.all Text.isDigit = true
  exponent_proper : ∀ e ∈ exponent, e.Proper

/-- Where a literal ends: at a space, or with the text. -/
def AtSpace (rest : List Char) : Prop := ∀ c ∈ rest.head?, c = ' '

theorem AtSpace.head {rest : List Char} (h : AtSpace rest) {p : Char → Bool} (hp : p ' ' = false) :
    ∀ c ∈ rest.head?, p c = false := by
  intro c hc
  rw [h c hc]
  exact hp

/-- The characters of an optional exponent. -/
def exponentText (e : Option ExponentPart) : List Char := (e.map ExponentPart.text).getD []

theorem exponentText_head {e : Option ExponentPart} (he : ∀ e' ∈ e, e'.Proper) {rest : List Char}
    (hrest : AtSpace rest) :
    ∀ c ∈ (exponentText e ++ rest).head?, c = 'e' ∨ c = 'E' ∨ c = ' ' := by
  intro c hc
  cases e with
  | none => exact .inr (.inr (hrest c hc))
  | some e =>
    have hmark := (he e rfl).mark
    obtain rfl : e.mark = c := by simpa [exponentText, ExponentPart.text] using hc
    rcases hmark with h | h
    · exact .inl h
    · exact .inr (.inl h)

theorem fractionText_head {fraction tail : List Char}
    (htail : ∀ c ∈ tail.head?, c = 'e' ∨ c = 'E' ∨ c = ' ') :
    ∀ c ∈ (fractionText fraction ++ tail).head?, c = '.' ∨ c = 'e' ∨ c = 'E' ∨ c = ' ' := by
  intro c hc
  unfold fractionText at hc
  split at hc
  · exact .inr (htail c hc)
  · exact .inl (by simpa using hc.symm)

theorem scanFraction_fractionText {fraction tail : List Char}
    (hfraction : fraction.all Text.isDigit = true)
    (htail : ∀ c ∈ tail.head?, c = 'e' ∨ c = 'E' ∨ c = ' ') :
    scanFraction (fractionText fraction ++ tail) = fraction := by
  have hstop : ∀ c ∈ tail.head?, Text.isDigit c = false := by
    intro c hc
    rcases htail c hc with rfl | rfl | rfl <;> decide
  unfold fractionText
  split
  · rename_i hempty
    rw [List.isEmpty_iff.1 hempty, List.nil_append]
    unfold scanFraction
    split
    · rcases htail '.' rfl with h | h | h <;> cases h
    · rfl
  · exact Text.takeWhile_append_stop hfraction hstop

/-- An exponent that is scanned is well-formed. -/
theorem proper_of_scanExponent {cs : List Char} {e : ExponentPart}
    (h : scanExponent cs = some e) : e.Proper := by
  cases cs with
  | nil => cases h
  | cons mark cs =>
    simp only [scanExponent] at h
    split at h
    · rename_i hmark
      split at h
      · cases h
      · rename_i hdigits
        cases h
        refine ⟨hmark, fun c hc => ?_, fun hnil => hdigits (List.isEmpty_iff.mpr hnil),
          List.all_takeWhile⟩
        exact of_decide_eq_true (Option.mem_filter_iff.mp hc).2
    · cases h

/-- An exponent goes on as long as digits follow. -/
theorem scanExponent_text {e : ExponentPart} (he : e.Proper) (rest : List Char) :
    scanExponent (e.text ++ rest) =
      some ⟨e.mark, e.sign, e.digits ++ rest.takeWhile Text.isDigit⟩ := by
  obtain ⟨hmark, hsign, hne, hdigits⟩ := he
  obtain ⟨mark, sign, digits⟩ := e
  obtain ⟨d, ds, rfl⟩ := List.exists_cons_of_ne_nil hne
  have hd : Text.isDigit d = true := (List.all_eq_true.1 hdigits) d List.mem_cons_self
  have htake : (d :: ds ++ rest).takeWhile Text.isDigit =
      d :: ds ++ rest.takeWhile Text.isDigit :=
    List.takeWhile_append_of_pos (List.all_eq_true.1 hdigits)
  -- a digit is no sign, so that the sign that is found is the one that is written
  have hfound : ((sign.toList ++ (d :: ds) ++ rest).head?.filter fun c => c = '+' ∨ c = '-') =
      sign := by
    cases sign with
    | none =>
      have hplain : ¬(d = '+' ∨ d = '-') := by
        rintro (rfl | rfl) <;> exact absurd hd (by decide)
      simp [Option.filter, hplain]
    | some c =>
      have hc := hsign c rfl
      simp [Option.filter, hc]
  have hdrop : (sign.toList ++ (d :: ds) ++ rest).drop sign.toList.length = d :: ds ++ rest := by
    rw [List.append_assoc, List.drop_left]
  show scanExponent (mark :: (sign.toList ++ (d :: ds) ++ rest)) = _
  simp only [scanExponent, if_pos hmark, hfound, hdrop, htake]
  rfl

theorem scanExponent_exponentText {e : Option ExponentPart} (he : ∀ e' ∈ e, e'.Proper)
    {rest : List Char} (hrest : AtSpace rest) : scanExponent (exponentText e ++ rest) = e := by
  cases e with
  | none =>
    show scanExponent rest = none
    cases rest with
    | nil => rfl
    | cons c rest =>
      obtain rfl := hrest c rfl
      rfl
  | some e =>
    have hnone : ([] : List Char).all Text.isDigit = true := rfl
    have hstop : rest.takeWhile Text.isDigit = [] :=
      Text.takeWhile_append_stop hnone (hrest.head (by decide))
    show scanExponent (e.text ++ rest) = _
    rw [scanExponent_text (he e rfl), hstop, List.append_nil]

namespace Literal

/-- The literal as it is written. -/
def text (l : Literal) : String := String.ofList l.toNumeral.text

theorem chars_eq (l : Literal) :
    l.toNumeral.text = l.whole ++ (fractionText l.fraction ++ exponentText l.exponent) :=
  List.append_assoc ..

theorem whole_head_isDigit (l : Literal) :
    ∃ c cs, l.whole = c :: cs ∧ Text.isDigit c = true := by
  obtain ⟨c, cs, h⟩ := List.exists_cons_of_ne_nil l.whole_ne
  exact ⟨c, cs, h, List.all_eq_true.1 l.whole_digits c (by simp [h])⟩

theorem takeWhile_whole (l : Literal) {rest : List Char} (hrest : AtSpace rest) :
    (l.whole ++ (fractionText l.fraction ++ (exponentText l.exponent ++ rest))).takeWhile
      Text.isDigit = l.whole := by
  apply Text.takeWhile_append_stop l.whole_digits
  intro c hc
  rcases fractionText_head (exponentText_head l.exponent_proper hrest) c hc with
    rfl | rfl | rfl | rfl <;> decide

/-- **A literal is scanned as it was composed.** -/
theorem scan_text (l : Literal) {rest : List Char} (hrest : AtSpace rest) :
    Numeral.scan (l.toNumeral.text ++ rest) = l.toNumeral := by
  have hfraction := scanFraction_fractionText l.fraction_digits
    (exponentText_head l.exponent_proper hrest)
  have hexponent := scanExponent_exponentText l.exponent_proper hrest
  have hall : l.toNumeral.text ++ rest =
      l.whole ++ (fractionText l.fraction ++ (exponentText l.exponent ++ rest)) := by
    rw [l.chars_eq, List.append_assoc, List.append_assoc]
  simp only [hall, Numeral.scan, l.takeWhile_whole hrest, List.drop_left, hfraction, hexponent]

theorem readUnsigned?_text (l : Literal) :
    readUnsigned? l.toNumeral.text = some l.toNumeral.value := by
  have hend : AtSpace [] := by simp [AtSpace]
  have hwhole := l.takeWhile_whole hend
  have hhead := exponentText_head l.exponent_proper hend
  have hexponent := scanExponent_exponentText l.exponent_proper hend
  rw [List.append_nil] at hwhole hhead hexponent
  have hstop : ∀ c ∈ (exponentText l.exponent).head?, Text.isDigit c = false := by
    intro c hc
    rcases hhead c hc with rfl | rfl | rfl <;> decide
  have hdone : (if ((l.whole ++ l.fraction).isEmpty || exponentText l.exponent !=
      (((scanExponent (exponentText l.exponent)).map ExponentPart.text).getD [])) = true then none
      else some (Numeral.value ⟨l.whole, l.fraction, scanExponent (exponentText l.exponent)⟩)) =
      some l.toNumeral.value := by
    rw [hexponent, if_neg (by simp [l.whole_ne, exponentText])]
  unfold readUnsigned?
  rw [l.chars_eq]
  simp only [hwhole, List.drop_left]
  by_cases hfraction : l.fraction = []
  · -- without a fraction there is no point, as an exponent starts with its letter
    have htext : fractionText l.fraction ++ exponentText l.exponent = exponentText l.exponent := by
      rw [hfraction]
      rfl
    rw [hfraction] at hdone
    simp only [htext]
    split
    · rename_i rest hrest
      rw [hrest] at hhead
      rcases hhead '.' rfl with h | h | h <;> cases h
    · exact hdone
  · have htext : fractionText l.fraction ++ exponentText l.exponent =
        '.' :: (l.fraction ++ exponentText l.exponent) := by
      simp [fractionText, hfraction]
    have hdrop : (l.fraction ++ exponentText l.exponent).dropWhile Text.isDigit =
        exponentText l.exponent := Text.dropWhile_append_stop l.fraction_digits hstop
    simp only [htext, Text.takeWhile_append_stop l.fraction_digits hstop, hdrop]
    exact hdone

theorem toLower_of_isDigit {c : Char} (h : Text.isDigit c = true) : c.toLower = c := by
  have hle : c.val.toNat ≤ 57 := by
    simp only [Text.isDigit, Bool.and_eq_true, decide_eq_true_eq, Char.le_def,
      UInt32.le_iff_toNat_le] at h
    exact h.2
  unfold Char.toLower
  rw [dif_neg]
  intro hupper
  have hge := UInt32.le_iff_toNat_le.1 hupper.1
  exact absurd (Nat.le_trans hge hle) (by decide)

/-- **A literal is read as the number that it denotes.** -/
theorem read?_text (l : Literal) : read? l.text = some l.toNumeral.value := by
  obtain ⟨c, cs, hwhole, hc⟩ := l.whole_head_isDigit
  have hlist : l.text.toList = c :: (cs ++ (fractionText l.fraction ++ exponentText l.exponent)) := by
    rw [text, String.toList_ofList, l.chars_eq, hwhole]
    rfl
  have hsigns : c ≠ '-' ∧ c ≠ '+' := by
    constructor <;> rintro rfl <;> exact absurd hc (by decide)
  -- the words for infinity and NaN start with letters
  have hword : ∀ word : String, word.toList.head?.any Text.isDigit = false →
      String.ofList (l.text.toList.map Char.toLower) ≠ word := by
    rintro _ hletter rfl
    rw [String.toList_ofList, hlist, List.map_cons, toLower_of_isDigit hc] at hletter
    simp [hc] at hletter
  unfold read?
  split
  rename_i negative rest hsign
  obtain ⟨rfl, rfl⟩ : negative = false ∧ rest = l.text.toList := by
    split at hsign
    · rename_i h
      exact absurd (List.cons.inj (hlist.symm.trans h)).1 hsigns.1
    · rename_i h
      exact absurd (List.cons.inj (hlist.symm.trans h)).1 hsigns.2
    · cases hsign
      exact ⟨rfl, rfl⟩
  have hinf := hword "inf" (by decide)
  have hinfinity := hword "infinity" (by decide)
  have hnan := hword "nan" (by decide)
  simp only
  rw [if_neg Bool.false_ne_true, if_neg (by simp [hinf, hinfinity]), if_neg hnan, text,
    String.toList_ofList]
  exact l.readUnsigned?_text

/-- The number that a literal is read as. -/
def value (l : Literal) : Float := (read? l.text).get (by rw [read?_text]; rfl)

end Literal

end Reckon.Decimal
