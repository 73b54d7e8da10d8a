import Mathlib.Data.List.Chain
import Reckon.Proofs.Grammar.Sound
import Reckon.Proofs.Print
import Reckon.Proofs.Token.Locality

/-!
# Printed words are scanned one by one

A symbol is scanned whatever follows it. A name ends at the space behind it, and so does a number,
unless a letter follows the space: then the letter starts a unit. In print a name or a number is
followed by a symbol or by nothing (`Separated`), so the words that are scanned are the words that
were printed (`scanFrom_spaced`). Print starts and ends with characters that are not blank, so that
nothing is trimmed (`Text.trim_of_solid`).
-/

namespace Reckon

/-! ### Texts that are not trimmed -/

/-- The text has characters, and the first and the last one are not blank. -/
structure Solid (cs : List Char) : Prop where
  head : ∃ c, cs.head? = some c ∧ Text.isBlank c = false
  last : ∃ c, cs.getLast? = some c ∧ Text.isBlank c = false

theorem solid_of_all {cs : List Char} (hne : cs ≠ []) (h : ∀ c ∈ cs, Text.isBlank c = false) :
    Solid cs where
  head := ⟨cs.head hne, List.head?_eq_some_head hne, h _ (List.head_mem hne)⟩
  last := ⟨cs.getLast hne, List.getLast?_eq_some_getLast hne, h _ (List.getLast_mem hne)⟩

theorem Solid.append {a b : List Char} (ha : Solid a) (hb : Solid b) (between : List Char) :
    Solid (a ++ (between ++ b)) where
  head := by
    obtain ⟨c, hc, hblank⟩ := ha.head
    exact ⟨c, by rw [List.head?_append, hc]; rfl, hblank⟩
  last := by
    obtain ⟨c, hc, hblank⟩ := hb.last
    refine ⟨c, ?_, hblank⟩
    rw [List.getLast?_append, List.getLast?_append, hc]
    rfl

theorem trimStart_of_head {cs : List Char} {c : Char} (hc : cs.head? = some c)
    (hblank : Text.isBlank c = false) : Text.trimStart cs = cs := by
  obtain ⟨rest, rfl⟩ := List.head?_eq_some_iff.1 hc
  exact List.dropWhile_cons_of_neg (by simp [hblank])

theorem trim_of_solid {cs : List Char} (h : Solid cs) :
    Text.trim (String.ofList cs) = String.ofList cs := by
  obtain ⟨c, hc, hblank⟩ := h.head
  obtain ⟨d, hd, hblank'⟩ := h.last
  have hstart := trimStart_of_head hc hblank
  have hend : Text.trimStart cs.reverse = cs.reverse :=
    trimStart_of_head (by rw [List.head?_reverse, hd]) hblank'
  rw [Text.trim, String.toList_ofList, hstart, Text.trimEnd, hend, List.reverse_reverse]

theorem indentation_of_solid {cs : List Char} (h : Solid cs) : indentation (String.ofList cs) = 0 := by
  obtain ⟨c, hc, hblank⟩ := h.head
  obtain ⟨rest, rfl⟩ := List.head?_eq_some_iff.1 hc
  rw [indentation, String.toList_ofList, List.takeWhile_cons_of_neg (by simp [hblank])]
  rfl

/-! ### The characters of words -/

/-- A name starts with a character of its own class and goes on with others. -/
theorem Identifier.exists_cons (n : Identifier) :
    ∃ c cs, n.text.toList = c :: cs ∧ isNameStart c = true ∧ cs.all isNameChar = true := by
  have h := n.isName_text
  unfold isName at h
  split at h
  · cases h
  · rename_i c cs hcs
    obtain ⟨hc, hall⟩ := Bool.and_eq_true_iff.1 h
    exact ⟨c, cs, hcs, hc, hall⟩

theorem UnitName.exists_cons (u : UnitName) :
    ∃ c cs, u.text.toList = c :: cs ∧ Text.isLetter c = true ∧ cs.all isUnitChar = true := by
  have h := u.isUnitText_text
  unfold isUnitText at h
  split at h
  · cases h
  · rename_i c cs hcs
    obtain ⟨hc, hall⟩ := Bool.and_eq_true_iff.1 h
    exact ⟨c, cs, hcs, hc, hall⟩

theorem Identifier.solid (n : Identifier) : Solid n.text.toList := by
  obtain ⟨c, cs, hcs, hc, hall⟩ := n.exists_cons
  rw [hcs]
  refine solid_of_all (List.cons_ne_nil c cs) fun d hd => isBlank_of_isNameChar ?_
  rcases List.mem_cons.1 hd with rfl | hd
  · exact isNameChar_of_isNameStart hc
  · exact List.all_eq_true.1 hall d hd

theorem UnitName.solid (u : UnitName) : Solid u.text.toList := by
  obtain ⟨c, cs, hcs, hc, hall⟩ := u.exists_cons
  rw [hcs]
  refine solid_of_all (List.cons_ne_nil c cs) fun d hd => isBlank_of_isUnitChar ?_
  rcases List.mem_cons.1 hd with rfl | hd
  · exact isUnitChar_of_isLetter hc
  · exact List.all_eq_true.1 hall d hd

theorem literal_solid (l : Decimal.Literal) : Solid l.text.toList := by
  have hdigits : ∀ {cs : List Char}, cs.all Text.isDigit = true →
      ∀ c ∈ cs, Text.isBlank c = false :=
    fun h c hc => isBlank_of_isDigit (List.all_eq_true.1 h c hc)
  rw [Decimal.Literal.text, String.toList_ofList, l.chars_eq]
  refine solid_of_all (by simp [l.whole_ne]) fun c hc => ?_
  simp only [List.mem_append] at hc
  rcases hc with hc | hc | hc
  · exact hdigits l.whole_digits c hc
  · unfold Decimal.fractionText at hc
    split at hc
    · cases hc
    · rcases List.mem_cons.1 hc with rfl | hc
      · decide
      · exact hdigits l.fraction_digits c hc
  · cases he : l.exponent with
    | none => simp [he, Decimal.exponentText] at hc
    | some e =>
      have hproper := l.exponent_proper e he
      simp only [he, Decimal.exponentText, Decimal.ExponentPart.text, Option.map_some,
        Option.getD_some, List.mem_cons, List.mem_append, Option.mem_toList] at hc
      rcases hc with rfl | hc | hc
      · rcases hproper.mark with h | h <;> rw [h] <;> decide
      · rcases hproper.sign c hc with rfl | rfl <;> decide
      · exact hdigits hproper.digits c hc

theorem Piece.solid (p : Piece) : Solid p.chars := by
  match p with
  | .symbol s =>
    have hblank : Text.isBlank s.char = false := by cases s <;> decide
    exact solid_of_all (List.cons_ne_nil _ _) (List.forall_mem_singleton.mpr hblank)
  | .name n => exact n.solid
  | .number l none => exact literal_solid l
  | .number l (some u) => exact (literal_solid l).append u.solid [' ']

/-! ### Scanning words -/

/-- What follows a name or a number in print: nothing, or a space and a symbol. -/
def Clear (rest : List Char) : Prop := rest = [] ∨ ∃ s more, rest = ' ' :: Symbol.char s :: more

theorem Clear.atSpace {rest : List Char} (h : Clear rest) : Decimal.AtSpace rest := by
  rcases h with rfl | ⟨s, more, rfl⟩ <;> simp [Decimal.AtSpace]

/-- Before a symbol there is no unit. -/
theorem Clear.scanUnit_eq {rest : List Char} (h : Clear rest) : scanUnit rest = none := by
  rcases h with rfl | ⟨s, more, rfl⟩
  · rfl
  · have hblank : Text.isInlineBlank s.char = false := by cases s <;> decide
    have hletter : Text.isLetter s.char = false := by cases s <;> decide
    have hspace : Text.isInlineBlank ' ' = true := by decide
    have hblanks : (' ' :: s.char :: more).takeWhile Text.isInlineBlank = [' '] := by
      simp [hblank, hspace]
    simp only [scanUnit, hblanks]
    simp [hletter]

theorem scanUnit_unit (u : UnitName) {rest : List Char} (h : Decimal.AtSpace rest) :
    scanUnit (' ' :: u.text.toList ++ rest) = some ([' '], u.text.toList) := by
  obtain ⟨c, cs, hcs, hc, hall⟩ := u.exists_cons
  have hblank : Text.isInlineBlank c = false := by
    have hletter := isBlank_of_isUnitChar (isUnitChar_of_isLetter hc)
    simp [Text.isInlineBlank, hletter]
  have hspace : Text.isInlineBlank ' ' = true := by decide
  have hblanks : (' ' :: (c :: cs) ++ rest).takeWhile Text.isInlineBlank = [' '] := by
    simp [hblank, hspace]
  have hunit := Text.takeWhile_append_stop hall (h.head (p := isUnitChar) (by decide))
  simp only [hcs, scanUnit, hblanks]
  simp [hc, hunit]

/-- The number of a literal, and the text behind it. -/
theorem scanNumber_literal (l : Decimal.Literal) {rest : List Char} (h : Decimal.AtSpace rest) :
    scanNumber (l.text.toList ++ rest) =
      match scanUnit rest with
      | some (blanks, unit) =>
        ⟨.number l.value (some (String.ofList unit)), l.text.toList ++ blanks ++ unit⟩
      | none => ⟨.number l.value none, l.text.toList⟩ := by
  have hvalue : l.value = l.toNumeral.value := by
    simp [Decimal.Literal.value, l.read?_text]
  have htext : l.text.toList = l.toNumeral.text := String.toList_ofList
  cases hunit : scanUnit rest with
  | none => simp only [scanNumber, htext, l.scan_text h, List.drop_left, hvalue, hunit]
  | some unit => simp only [scanNumber, htext, l.scan_text h, List.drop_left, hvalue, hunit]

theorem scanNumber_piece (l : Decimal.Literal) (unit : Option UnitName) {rest : List Char}
    (h : Clear rest) : scanNumber ((Piece.number l unit).chars ++ rest) =
      ⟨(Piece.number l unit).lexeme, (Piece.number l unit).chars⟩ := by
  cases unit with
  | none =>
    rw [Piece.chars, scanNumber_literal l h.atSpace, h.scanUnit_eq]
    rfl
  | some u =>
    have hspace : Decimal.AtSpace (' ' :: u.text.toList ++ rest) := by simp [Decimal.AtSpace]
    rw [Piece.chars, List.append_assoc, scanNumber_literal l hspace, scanUnit_unit u h.atSpace]
    simp [Piece.lexeme]

/-- **A printed word is scanned as it was printed**, if it is a symbol or no letter can be taken for
its unit. -/
theorem scanWord?_piece (p : Piece) {rest : List Char} (h : p.isSymbol = true ∨ Clear rest) :
    ∃ c cs, p.chars = c :: cs ∧ scanWord? c (cs ++ rest) = some ⟨p.lexeme, p.chars⟩ := by
  cases p with
  | symbol s =>
    refine ⟨s.char, [], rfl, ?_⟩
    rw [List.nil_append]
    cases s <;> rfl
  | name n =>
    have hclear : Clear rest := h.resolve_left (by simp [Piece.isSymbol])
    obtain ⟨c, cs, hcs, hc, hall⟩ := n.exists_cons
    have hdigit : Text.isDigit c = false := by
      rw [Bool.eq_false_iff]
      intro hdigit
      rcases Bool.or_eq_true_iff.1 hc with hletter | hletter
      · rw [Text.isLetter_of_isDigit hdigit] at hletter
        cases hletter
      · obtain rfl : c = '_' := by simpa using hletter
        exact absurd hdigit (by decide)
    -- the word goes on up to the space, which is part of no name
    have hname := Text.takeWhile_append_stop hall (hclear.atSpace.head (p := isNameChar) (by decide))
    refine ⟨c, cs, hcs, ?_⟩
    simp [scanWord?, hdigit, hc, hname, Piece.lexeme, Piece.chars, ← hcs]
  | number l unit =>
    have hclear : Clear rest := h.resolve_left (by simp [Piece.isSymbol])
    obtain ⟨d, ds, hwhole, hd⟩ := l.whole_head_isDigit
    obtain ⟨cs, hcs⟩ : ∃ cs, (Piece.number l unit).chars = d :: cs := by
      cases unit <;> simp [Piece.chars, Decimal.Literal.text, l.chars_eq, hwhole]
    have hnumber := scanNumber_piece l unit hclear
    rw [hcs, List.cons_append, ← hcs] at hnumber
    refine ⟨d, cs, hcs, ?_⟩
    simp [scanWord?, hd, hnumber]

theorem scanFrom_piece (here : Location) (p : Piece) {rest : List Char}
    (h : p.isSymbol = true ∨ Clear rest) :
    scanFrom here (p.chars ++ rest) =
      (scanFrom (here.advance p.chars.length) rest).cons
        ⟨p.lexeme, String.ofList p.chars, ⟨here, here.advance p.chars.length⟩⟩ := by
  obtain ⟨c, cs, hcs, hword⟩ := scanWord?_piece p h
  rw [hcs] at hword ⊢
  exact scanFrom_word here hword

/-- No two neighbours are both names or numbers. -/
def Separated (ps : List Piece) : Prop :=
  ps.IsChain fun p q => p.isSymbol = true ∨ q.isSymbol = true

/-- Words around a symbol. -/
theorem Separated.around {ps qs : List Piece} (s : Symbol) (hps : Separated ps)
    (hqs : Separated qs) : Separated (ps ++ .symbol s :: qs) := by
  refine List.isChain_append.2 ⟨hps, List.isChain_cons.2 ⟨fun _ _ => .inl rfl, hqs⟩, ?_⟩
  rintro p - q hq
  obtain rfl : Piece.symbol s = q := by simpa using hq
  exact .inr rfl

theorem spaced_cons_cons (p q : Piece) (ps : List Piece) :
    spaced (p :: q :: ps) = p.chars ++ ' ' :: spaced (q :: ps) := by
  simp [spaced, List.intercalate]

theorem exists_spaced_cons (p : Piece) (ps : List Piece) :
    ∃ more, spaced (p :: ps) = p.chars ++ more := by
  cases ps with
  | nil => exact ⟨[], by simp [spaced, List.intercalate]⟩
  | cons q ps => exact ⟨_, spaced_cons_cons p q ps⟩

theorem spaced_solid : ∀ {ps : List Piece}, ps ≠ [] → Solid (spaced ps)
  | [p], _ => by simpa [spaced, List.intercalate] using p.solid
  | p :: q :: ps, _ => by
    rw [spaced_cons_cons]
    exact p.solid.append (spaced_solid (List.cons_ne_nil q ps)) [' ']

/-- **The words that are scanned are the words that were printed.** -/
theorem scanFrom_spaced : ∀ {ps : List Piece}, Separated ps → ∀ here : Location,
    lexemes (scanFrom here (spaced ps)).tokens = ps.map Piece.lexeme ∧
      (scanFrom here (spaced ps)).unexpected = none
  | [], _, here => by
    rw [spaced, scanFrom.eq_def]
    exact ⟨rfl, rfl⟩
  | [p], _, here => by
    have hlast : spaced [p] = p.chars ++ [] := by simp [spaced, List.intercalate]
    rw [hlast, scanFrom_piece here p (.inr (.inl rfl)), scanFrom.eq_def]
    exact ⟨rfl, rfl⟩
  | p :: q :: ps, h, here => by
    -- after a name or number comes a symbol, so that nothing is read as a unit
    have hnext : p.isSymbol = true ∨ Clear (' ' :: spaced (q :: ps)) := by
      rcases (List.isChain_cons_cons.1 h).1 with hp | hq
      · exact .inl hp
      · match q, hq with
        | .symbol s, _ =>
          obtain ⟨more, hmore⟩ := exists_spaced_cons (.symbol s) ps
          exact .inr (.inr ⟨s, more, congrArg (' ' :: ·) hmore⟩)
    have hspace : Text.isInlineBlank ' ' = true := by decide
    obtain ⟨htokens, hexpected⟩ := scanFrom_spaced (List.isChain_cons_cons.1 h).2
      ((here.advance p.chars.length).advance 1)
    rw [spaced_cons_cons, scanFrom_piece here p hnext, scanFrom.eq_def _ (' ' :: _)]
    simp only [if_pos hspace]
    exact ⟨congrArg (p.lexeme :: ·) htokens, hexpected⟩

end Reckon
