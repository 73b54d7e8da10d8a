import Reckon.Token.Scan

/-!
# Words are cut off the text

The word that is found at a place is what stands there: it has at least one character, and its
characters are the first ones of the text (`prefix_scanWord?`).
-/

namespace Reckon

/-- What is cut off after a start of the text makes the start longer. -/
theorem prefix_append_of_drop {a b cs : List Char} (ha : a <+: cs) (hb : b <+: cs.drop a.length) :
    a ++ b <+: cs := by
  obtain ⟨rest, rfl⟩ := ha
  rw [List.drop_left] at hb
  exact (List.prefix_append_right_inj a).mpr hb

namespace Decimal

theorem prefix_fractionText (cs : List Char) : fractionText (scanFraction cs) <+: cs := by
  unfold scanFraction
  split
  · rename_i cs
    unfold fractionText
    split
    · exact List.nil_prefix
    · exact List.cons_prefix_cons.mpr ⟨rfl, List.takeWhile_prefix _⟩
  · exact List.nil_prefix

/-- A sign is a first character. -/
theorem prefix_sign (p : Char → Bool) (cs : List Char) : (cs.head?.filter p).toList <+: cs := by
  cases cs with
  | nil => exact List.nil_prefix
  | cons c cs =>
    simp only [List.head?_cons, Option.filter]
    cases p c with
    | true => exact List.cons_prefix_cons.mpr ⟨rfl, List.nil_prefix⟩
    | false => exact List.nil_prefix

theorem prefix_exponentText {cs : List Char} {e : ExponentPart} (h : scanExponent cs = some e) :
    e.text <+: cs := by
  cases cs with
  | nil => cases h
  | cons mark cs =>
    simp only [scanExponent] at h
    split at h
    · split at h
      · cases h
      · cases h
        refine List.cons_prefix_cons.mpr ⟨rfl, ?_⟩
        exact prefix_append_of_drop (prefix_sign _ cs) (List.takeWhile_prefix _)
    · cases h

theorem prefix_numeralText (cs : List Char) : (Numeral.scan cs).text <+: cs := by
  have hwhole : (Numeral.scan cs).whole <+: cs := List.takeWhile_prefix _
  have hfraction : fractionText (Numeral.scan cs).fraction <+: cs.drop (Numeral.scan cs).whole.length :=
    prefix_fractionText _
  refine prefix_append_of_drop (prefix_append_of_drop hwhole hfraction) ?_
  rw [List.length_append, ← List.drop_drop]
  cases hexponent : (Numeral.scan cs).exponent with
  | none => exact List.nil_prefix
  | some e => exact prefix_exponentText hexponent

end Decimal

theorem prefix_scanUnit {cs blanks unit : List Char} (h : scanUnit cs = some (blanks, unit)) :
    blanks ++ unit <+: cs := by
  simp only [scanUnit] at h
  split at h
  · cases h
  · rename_i c rest hrest
    split at h
    · cases h
      refine prefix_append_of_drop (List.takeWhile_prefix _) ?_
      rw [hrest]
      exact List.cons_prefix_cons.mpr ⟨rfl, List.takeWhile_prefix _⟩
    · cases h

theorem prefix_scanNumber (cs : List Char) : (scanNumber cs).chars <+: cs := by
  have hnumeral := Decimal.prefix_numeralText cs
  unfold scanNumber
  simp only
  split
  · rename_i blanks unit hunit
    rw [List.append_assoc]
    exact prefix_append_of_drop hnumeral (prefix_scanUnit hunit)
  · exact hnumeral

/-- **A word is what stands at its place.** -/
theorem prefix_scanWord? {c : Char} {cs : List Char} {word : Word}
    (h : scanWord? c cs = some word) : word.chars <+: c :: cs := by
  unfold scanWord? at h
  split at h
  · cases h
    exact prefix_scanNumber _
  · split at h
    · cases h
      exact List.cons_prefix_cons.mpr ⟨rfl, List.takeWhile_prefix _⟩
    · obtain ⟨s, -, rfl⟩ := Option.map_eq_some_iff.mp h
      exact List.cons_prefix_cons.mpr ⟨rfl, List.nil_prefix⟩

theorem scanNumber_chars_ne_nil {c : Char} {cs : List Char} (hc : Text.isDigit c = true) :
    (scanNumber (c :: cs)).chars ≠ [] := by
  have hwhole : (Decimal.Numeral.scan (c :: cs)).whole = c :: cs.takeWhile Text.isDigit :=
    List.takeWhile_cons_of_pos hc
  unfold scanNumber
  simp only
  split <;> simp [Decimal.Numeral.text, hwhole]

theorem scanWord?_chars_ne_nil {c : Char} {cs : List Char} {word : Word}
    (h : scanWord? c cs = some word) : word.chars ≠ [] := by
  unfold scanWord? at h
  split at h
  · rename_i hc
    cases h
    exact scanNumber_chars_ne_nil hc
  · split at h
    · cases h
      exact List.cons_ne_nil _ _
    · obtain ⟨s, -, rfl⟩ := Option.map_eq_some_iff.1 h
      exact List.cons_ne_nil _ _

end Reckon
