import Mathlib.Computability.Language
import Reckon.Proofs.Token.Locality

/-!
# A number is as long as possible

The texts of numbers are a regular language (`numerals`). At a place that holds a digit, the numeral
that is scanned is the longest start of the text in this language (`Numeral.scan_longest`), although
the scanner looks ahead by no more than the sign and the digit of an exponent: where a point or an
`e` has no digit behind it, nothing longer is a number either.

Behind the numeral there may be blanks and a unit. Without a unit the scan goes on right behind the
numeral, before the blanks (`scanFrom_longest_number`).
-/

namespace Reckon

namespace Decimal

/-- ASCII digits, at least one: `D+`. -/
def digits : Language Char := {cs : List Char | cs ≠ [] ∧ cs.all Text.isDigit = true}

/-- An optional fraction: `(.D+)?`. -/
def fractions : Language Char := 1 + {['.']} * digits

/-- An optional exponent: `([eE][+-]?D+)?`. -/
def exponents : Language Char := 1 + {['e'], ['E']} * (1 + {['+'], ['-']}) * digits

/-- The texts of numbers: `D+(.D+)?([eE][+-]?D+)?`. -/
def numerals : Language Char := digits * fractions * exponents

theorem mem_fractions_iff {cs : List Char} :
    cs ∈ fractions ↔ ∃ f : List Char, f.all Text.isDigit = true ∧ fractionText f = cs := by
  unfold fractions
  rw [Language.mem_add, Language.mem_one, Language.mem_mul]
  constructor
  · rintro (rfl | ⟨_, rfl, f, ⟨hne, hf⟩, rfl⟩)
    · exact ⟨[], rfl, rfl⟩
    · exact ⟨f, hf, by simp [fractionText, hne]⟩
  · rintro ⟨f, hf, rfl⟩
    unfold fractionText
    split
    · exact .inl rfl
    · rename_i hne
      exact .inr ⟨['.'], rfl, f, ⟨fun hnil => hne (List.isEmpty_iff.mpr hnil), hf⟩, rfl⟩

theorem mem_exponents_iff {cs : List Char} :
    cs ∈ exponents ↔ ∃ e : Option ExponentPart, (∀ e' ∈ e, e'.Proper) ∧ exponentText e = cs := by
  unfold exponents
  simp only [Language.mem_add, Language.mem_one, Language.mem_mul]
  constructor
  · rintro (rfl | ⟨_, ⟨mark, hmark, sign, hsign, rfl⟩, ds, ⟨hne, hds⟩, rfl⟩)
    · exact ⟨none, (fun _ h => nomatch h), rfl⟩
    · obtain ⟨m, rfl, hm⟩ : ∃ m, mark = [m] ∧ (m = 'e' ∨ m = 'E') := by
        rcases hmark with rfl | rfl
        · exact ⟨'e', rfl, .inl rfl⟩
        · exact ⟨'E', rfl, .inr rfl⟩
      obtain ⟨s, rfl, hs⟩ : ∃ s : Option Char, sign = s.toList ∧ ∀ c ∈ s, c = '+' ∨ c = '-' := by
        rcases hsign with rfl | rfl | rfl
        · exact ⟨none, rfl, fun _ h => nomatch h⟩
        · exact ⟨some '+', rfl, by simp⟩
        · exact ⟨some '-', rfl, by simp⟩
      refine ⟨some ⟨m, s, ds⟩, ?_, by simp [exponentText, ExponentPart.text]⟩
      rintro _ ⟨⟩
      exact ⟨hm, hs, hne, hds⟩
  · rintro ⟨e, he, rfl⟩
    cases e with
    | none => exact .inl rfl
    | some e =>
      obtain ⟨hmark, hsign, hne, hds⟩ := he e rfl
      refine .inr ⟨e.mark :: e.sign.toList, ⟨[e.mark], ?_, e.sign.toList, ?_, rfl⟩, e.digits,
        ⟨hne, hds⟩, rfl⟩
      · rcases hmark with h | h
        · exact .inl (by rw [h])
        · exact .inr (by rw [h]; rfl)
      · cases hs : e.sign with
        | none => exact .inl rfl
        | some c =>
          rcases hsign c hs with rfl | rfl
          · exact .inr (.inl rfl)
          · exact .inr (.inr rfl)

/-- **The texts of numbers are those of number literals.** -/
theorem mem_numerals_iff {cs : List Char} :
    cs ∈ numerals ↔ ∃ l : Literal, l.toNumeral.text = cs := by
  unfold numerals
  simp only [Language.mem_mul, mem_fractions_iff, mem_exponents_iff]
  constructor
  · rintro ⟨_, ⟨whole, ⟨hne, hwhole⟩, _, ⟨f, hf, rfl⟩, rfl⟩, _, ⟨e, he, rfl⟩, rfl⟩
    exact ⟨⟨⟨whole, f, e⟩, hne, hwhole, hf, he⟩, rfl⟩
  · rintro ⟨l, rfl⟩
    exact ⟨_, ⟨l.whole, ⟨l.whole_ne, l.whole_digits⟩, _, ⟨l.fraction, l.fraction_digits, rfl⟩, rfl⟩,
      _, ⟨l.exponent, l.exponent_proper, rfl⟩, rfl⟩

/-- Where a digit stands, a literal is scanned. -/
theorem exists_literal {c : Char} (hc : Text.isDigit c = true) (cs : List Char) :
    ∃ l : Literal, l.toNumeral = Numeral.scan (c :: cs) := by
  have hwhole : (Numeral.scan (c :: cs)).whole = c :: cs.takeWhile Text.isDigit :=
    List.takeWhile_cons_of_pos hc
  have hfraction : ∀ ds, (scanFraction ds).all Text.isDigit = true := by
    intro ds
    unfold scanFraction
    split
    · exact List.all_takeWhile
    · rfl
  refine ⟨⟨Numeral.scan (c :: cs), ?_, List.all_takeWhile, hfraction _, fun e he => ?_⟩, rfl⟩
  · rw [hwhole]
    exact List.cons_ne_nil _ _
  · exact proper_of_scanExponent he

/-- The digits in front end where no digit follows. -/
theorem scan_of_stop {whole tail : List Char} (hwhole : whole.all Text.isDigit = true)
    (htail : ∀ c ∈ tail.head?, Text.isDigit c = false) :
    Numeral.scan (whole ++ tail) = ⟨whole, scanFraction tail,
      scanExponent (tail.drop (fractionText (scanFraction tail)).length)⟩ := by
  simp only [Numeral.scan, Text.takeWhile_append_stop hwhole htail, List.drop_left]

theorem length_text (n : Numeral) : n.text.length =
    n.whole.length + (fractionText n.fraction).length + (exponentText n.exponent).length := by
  rw [Numeral.text, List.length_append, List.length_append]
  rfl

/-- **No literal at the start of a text is longer than what is scanned.** -/
theorem Literal.length_le_scan (l : Literal) (rest : List Char) :
    l.toNumeral.text.length ≤ (Numeral.scan (l.toNumeral.text ++ rest)).text.length := by
  rw [length_text, length_text, l.chars_eq, List.append_assoc, List.append_assoc]
  obtain ⟨⟨whole, fraction, exponent⟩, hne, hwhole, hfraction, hexponent⟩ := l
  simp only at hwhole hfraction hexponent ⊢
  cases exponent with
  | some e =>
    -- the letter of the exponent ends the digits before it, be they those of a fraction or not
    have hhead : ∀ c ∈ (e.text ++ rest).head?, c = 'e' ∨ c = 'E' ∨ c = ' ' := by
      rcases (hexponent e rfl).mark with h | h <;> simp [ExponentPart.text, h]
    have hstop : ∀ c ∈ (fractionText fraction ++ (e.text ++ rest)).head?, Text.isDigit c = false := by
      intro c hc
      rcases fractionText_head hhead c hc with rfl | rfl | rfl | rfl <;> decide
    rw [show exponentText (some e) = e.text from rfl, scan_of_stop hwhole hstop,
      scanFraction_fractionText hfraction hhead, List.drop_left, scanExponent_text (hexponent e rfl)]
    simp [exponentText, ExponentPart.text]
  | none =>
    rw [show exponentText none ++ rest = rest from rfl]
    by_cases hnone : fraction = []
    · subst hnone
      have htake : (Numeral.scan (whole ++ rest)).whole = whole ++ rest.takeWhile Text.isDigit :=
        List.takeWhile_append_of_pos (List.all_eq_true.1 hwhole)
      rw [show fractionText [] ++ rest = rest from rfl, htake, List.length_append]
      simp [exponentText, fractionText]
      omega
    · have hpoint : ∀ c ∈ ('.' :: (fraction ++ rest)).head?, Text.isDigit c = false := by
        rintro _ ⟨⟩
        decide
      have htake : scanFraction ('.' :: (fraction ++ rest)) =
          fraction ++ rest.takeWhile Text.isDigit :=
        List.takeWhile_append_of_pos (List.all_eq_true.1 hfraction)
      have htext : fractionText fraction ++ rest = '.' :: (fraction ++ rest) := by
        simp [fractionText, hnone]
      rw [htext, scan_of_stop hwhole hpoint, htake]
      simp [exponentText, fractionText, hnone]
      omega

/-- **What is scanned is the longest number at the start of a text.** -/
theorem Numeral.scan_longest {c : Char} (hc : Text.isDigit c = true) (cs : List Char) :
    (scan (c :: cs)).text ∈ numerals ∧
      ∀ other ∈ numerals, other <+: c :: cs → other <+: (scan (c :: cs)).text := by
  refine ⟨?_, fun other hother hprefix => ?_⟩
  · obtain ⟨l, hl⟩ := exists_literal hc cs
    exact mem_numerals_iff.mpr ⟨l, congrArg text hl⟩
  · obtain ⟨l, rfl⟩ := mem_numerals_iff.mp hother
    refine List.prefix_of_prefix_length_le hprefix (prefix_numeralText _) ?_
    obtain ⟨rest, hrest⟩ := hprefix
    rw [← hrest]
    exact l.length_le_scan rest

end Decimal

/-- A scan finds a number and goes on behind it. -/
theorem scanFrom_number (here : Location) {c : Char} {cs behind : List Char} {word : Word}
    (hc : Text.isDigit c = true) (hword : scanNumber (c :: cs) = word)
    (hbehind : word.chars ++ behind = c :: cs) :
    scanFrom here (c :: cs) = (scanFrom (here.advance word.chars.length) behind).cons
      (word.lexeme.tokenAt word.chars here) := by
  have hfound : scanWord? c cs = some word := by
    rw [scanWord?, if_pos hc, hword]
  obtain ⟨chars, rest, hchars, rfl⟩ := exists_cons_of_scanWord? hfound
  obtain rfl : behind = rest := by simpa [hchars] using hbehind
  have hfound : scanWord? c (chars ++ behind) = some ⟨word.lexeme, c :: chars⟩ := by
    rw [hfound, ← hchars]
  rw [hchars]
  exact scanFrom_word here hfound

/-- **Numbers are scanned as long as possible.** At a place that holds a digit, the numeral is the
longest start of what is left that is the text of a number, and the token has the value that this
text is read as. If blanks and then a letter follow, the letter and all characters that may go on in
a unit are the unit of the token, and the scan goes on behind them. If no letter follows, the token
has no unit and is the numeral alone, and the scan goes on right behind it. -/
theorem scanFrom_longest_number (here : Location) {c : Char} (hc : Text.isDigit c = true)
    (cs : List Char) :
    let numeral := Decimal.Numeral.scan (c :: cs)
    let after := (c :: cs).drop numeral.text.length
    (c :: cs = numeral.text ++ after ∧ numeral.text ∈ Decimal.numerals ∧
      ∀ other ∈ Decimal.numerals, other <+: c :: cs → other <+: numeral.text) ∧
    Decimal.read? (String.ofList numeral.text) = some numeral.value ∧
    (∀ blanks letter rest, after = blanks ++ letter :: rest → Blanks blanks →
      Text.isLetter letter = true →
      let unit := letter :: rest.takeWhile isUnitChar
      let chars := numeral.text ++ blanks ++ unit
      scanFrom here (c :: cs) =
        (scanFrom (here.advance chars.length) (rest.dropWhile isUnitChar)).cons
          ((Lexeme.number numeral.value (some (String.ofList unit))).tokenAt chars here)) ∧
    ((∀ blanks letter rest, after = blanks ++ letter :: rest → Blanks blanks →
      Text.isLetter letter = false) →
      scanFrom here (c :: cs) = (scanFrom (here.advance numeral.text.length) after).cons
        ((Lexeme.number numeral.value none).tokenAt numeral.text here)) := by
  intro numeral after
  have hsplit : c :: cs = numeral.text ++ after := by
    obtain ⟨rest, hrest⟩ := Decimal.prefix_numeralText (c :: cs)
    have hafter : after = rest := by
      show (c :: cs).drop numeral.text.length = rest
      rw [← hrest, List.drop_left]
    rw [hafter]
    exact hrest.symm
  refine ⟨⟨hsplit, Decimal.Numeral.scan_longest hc cs⟩, ?_, ?_, ?_⟩
  · obtain ⟨l, hl⟩ := Decimal.exists_literal hc cs
    rw [show numeral = l.toNumeral from hl.symm]
    exact l.read?_text
  · intro blanks letter rest hafter hblanks hletter unit chars
    have hunit : scanUnit after = some (blanks, unit) :=
      scanUnit_eq_some_iff.mpr ⟨letter, rest, hafter, List.all_eq_true.mpr hblanks, hletter, rfl⟩
    have hword : scanNumber (c :: cs) =
        ⟨.number numeral.value (some (String.ofList unit)), chars⟩ := by
      simp only [scanNumber]
      rw [show scanUnit ((c :: cs).drop _) = _ from hunit]
    refine scanFrom_number here hc hword ?_
    rw [hsplit, hafter]
    simp [chars, unit]
  · intro hnone
    have hunit : scanUnit after = none := by
      rw [scanUnit_eq_none_iff]
      intro letter hletter
      obtain ⟨rest, hrest⟩ := List.head?_eq_some_iff.mp hletter
      refine hnone (after.takeWhile Text.isInlineBlank) letter rest ?_ fun c hc =>
        List.mem_takeWhile_imp hc
      rw [← hrest, List.takeWhile_append_dropWhile]
    have hword : scanNumber (c :: cs) = ⟨.number numeral.value none, numeral.text⟩ := by
      simp only [scanNumber]
      rw [show scanUnit ((c :: cs).drop _) = _ from hunit]
    exact scanFrom_number here hc hword hsplit.symm

/-- In `1e5e6^2 /x` the first `e` starts an exponent and the second one a unit; nothing longer than
`1e5` is a number there. -/
theorem scanFrom_longest_number_of_two_letters :
    let cs := "e5e6^2 /x".toList
    let numeral := Decimal.Numeral.scan ('1' :: cs)
    numeral.text = ['1', 'e', '5'] ∧
      (∀ other ∈ Decimal.numerals, other <+: '1' :: cs → other <+: ['1', 'e', '5']) ∧
      Decimal.read? "1e5" = some numeral.value ∧
      scanFrom ⟨3, 7, 2⟩ ('1' :: cs) = (scanFrom ⟨3, 14, 9⟩ [' ', '/', 'x']).cons
        ⟨.number numeral.value (some "e6^2"), "1e5e6^2", ⟨⟨3, 7, 2⟩, ⟨3, 14, 9⟩⟩⟩ := by
  intro cs numeral
  have htext : numeral.text = ['1', 'e', '5'] := by decide
  obtain ⟨⟨-, -, hlongest⟩, hread, hunit, -⟩ :=
    scanFrom_longest_number ⟨3, 7, 2⟩ (show Text.isDigit '1' = true by decide) cs
  have hlongest : ∀ other ∈ Decimal.numerals, other <+: '1' :: cs → other <+: numeral.text := hlongest
  have hread : Decimal.read? (String.ofList numeral.text) = some numeral.value := hread
  rw [htext] at hlongest hread
  refine ⟨htext, hlongest, hread, ?_⟩
  exact hunit [] 'e' ['6', '^', '2', ' ', '/', 'x'] (by decide) (by simp [Blanks]) (by decide)

end Reckon
