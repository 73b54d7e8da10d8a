import Reckon.Proofs.Grammar.Fault
import Reckon.Proofs.Text.Rows
import Reckon.Proofs.Token.Unexpected

/-!
# Carets under the offending text

A message about a line shows the line and, in the row below it, carets. What is wrong with a line is
a character, a token, or its end (`Marks`), so the carets stand under characters of the line, or there
is one caret behind it.

The line stands behind its number, which takes up three columns or as many as it has digits, while
the row below leaves three columns for it in any case. So the carets stand under the offending text as
long as the number of the line has at most three digits, and from line 1000 on they stand too far to
the left (`parseText_carets`).
-/

namespace Reckon

open Text

/-! ### Rows of a message -/

theorem Fault.isRow_code (fault : Fault) : IsRow fault.code := by
  cases fault <;> simp only [code] <;> decide

theorem Diagnostic.isRow_hintLines (fault : Fault) (span : Span) (source : Option String) :
    ∀ l ∈ (ofFault fault span source).hintLines, IsRow l := by
  cases fault with
  | trailing found =>
    intro l hl
    obtain rfl := List.mem_singleton.mp hl
    decide
  | _ => exact fun _ h => nomatch h

theorem Token.isRow_describe {t : Token} (h : IsRow t.text) : IsRow t.describe := by
  have hquoted : ∀ before, IsRow before → IsRow (before ++ t.text ++ "'") := by
    intro before hbefore
    simp only [isRow_append]
    exact ⟨⟨hbefore, h⟩, by decide⟩
  unfold describe
  split
  · exact hquoted "number '" (by decide)
  · exact hquoted "identifier '" (by decide)
  · exact hquoted "'" (by decide)

theorem Expected.isRow_text (what : Expected) : IsRow what.text := by
  cases what <;> decide

theorem Diagnostic.isRow_headline {d : Diagnostic} (hcode : IsRow d.code)
    (hmessage : IsRow d.message) : IsRow d.headline := by
  show IsRow (d.span.start.text ++ ": error[" ++ d.code ++ "]: " ++ d.message)
  have hplace : IsRow (toString d.span.start.line ++ ":" ++ toString d.span.start.column) := by
    simp only [isRow_append, isRow_toString]
    exact ⟨⟨trivial, by decide⟩, trivial⟩
  simp only [isRow_append]
  exact ⟨⟨⟨⟨hplace, by decide⟩, hcode⟩, by decide⟩, hmessage⟩

/-! ### What is wrong with a line -/

/-- The span marks characters of a line of the given length, at least one, or the end of the line. -/
inductive Marks (start : Location) (length : Nat) : Span → Prop where
  | characters {m n : Nat} (hn : 0 < n) (hle : m + n ≤ length) :
      Marks start length ⟨start.advance m, start.advance (m + n)⟩
  | finish : Marks start length ⟨start.advance length, start.advance length⟩

/-- What is wrong with tokens is about one of them or about the end of the line. -/
theorem ParseError.marks {start stop : Location} {cs : List Char} {ts used : List Token}
    {e : ParseError} (hlaid : Laid start cs ts stop) (hts : ts = used ++ e.rest)
    (hdeep : e.reason ≠ .tooDeep) (hrow : '\n' ∉ cs) :
    Marks start cs.length (e.fault ts stop).2 ∧ IsRow (e.fault ts stop).1.message := by
  have htoken : ∀ t ∈ e.rest, Marks start cs.length t.span ∧ IsRow t.describe := by
    intro t ht
    obtain ⟨before, chars, after, hcs, hne, htext, hspan⟩ :=
      hlaid.place t (hts ▸ List.mem_append_right used ht)
    have hle : before.length + chars.length ≤ cs.length := by
      rw [hcs, List.length_append, List.length_append]
      omega
    refine ⟨hspan ▸ .characters (List.length_pos_iff.mpr hne) hle, Token.isRow_describe ?_⟩
    rw [IsRow, htext]
    exact fun hmem => hrow (by simp [hcs, hmem])
  have hstop : Marks start cs.length ⟨stop, stop⟩ := hlaid.stop_eq ▸ .finish
  obtain ⟨reason, rest⟩ := e
  rcases reason with what | _ | _
  · cases rest with
    | nil =>
      refine ⟨hstop, ?_⟩
      show IsRow ("unexpected end of input, expected " ++ what.text)
      exact isRow_append.mpr ⟨by decide, what.isRow_text⟩
    | cons t rest =>
      obtain ⟨hmarks, hdescribe⟩ := htoken t List.mem_cons_self
      refine ⟨hmarks, ?_⟩
      show IsRow ("expected " ++ what.text ++ ", found " ++ t.describe)
      simp only [isRow_append]
      exact ⟨⟨⟨by decide, what.isRow_text⟩, by decide⟩, hdescribe⟩
  · cases rest with
    | nil =>
      refine ⟨hstop, ?_⟩
      show IsRow ("unexpected " ++ "end of input" ++ " after end of statement")
      decide
    | cons t rest =>
      obtain ⟨hmarks, hdescribe⟩ := htoken t List.mem_cons_self
      refine ⟨hmarks, ?_⟩
      show IsRow ("unexpected " ++ t.describe ++ " after end of statement")
      simp only [isRow_append]
      exact ⟨⟨by decide, hdescribe⟩, by decide⟩
  · exact absurd rfl hdeep

/-- **A failure is about characters of the line or about its end.** -/
theorem parseText_marks {text : String} {line column : Int} {d : Diagnostic} (hrow : IsRow text)
    (h : parseText text line column true = .error d) (hdeep : d.code ≠ Fault.tooDeep.code) :
    ∃ fault span, d = .ofFault fault span (some text) ∧ IsRow fault.message ∧
      Marks ⟨line, column, 0⟩ text.length span := by
  unfold parseText at h
  simp only at h
  split at h
  · rename_i d' hd
    cases h
    obtain ⟨c, hunexpected, rfl⟩ := Option.map_eq_some_iff.mp hd
    obtain ⟨before, behind, htext, -, -, hstop, -⟩ := scanFrom_unexpected hunexpected
    have hle : before.length + 1 ≤ text.length := by
      rw [← String.length_toList, htext, List.length_append, List.length_cons]
      omega
    refine ⟨_, _, rfl, ?_, ?_⟩
    · show IsRow ("unexpected character '" ++ c.toString ++ "'")
      have hc : IsRow c.toString := by
        rintro hmem
        obtain rfl : '\n' = c := by simpa using hmem
        exact hrow (by simp [htext])
      simp only [isRow_append]
      exact ⟨⟨by decide, hc⟩, by decide⟩
    · rw [show (scan text line column).stop = _ from hstop, Location.advance_advance]
      exact .characters Nat.one_pos hle
  · rename_i hd
    split at h
    · cases h
    · rename_i e he
      cases h
      have hreason : e.reason ≠ .tooDeep := by
        intro hreason
        refine hdeep ?_
        simp only [ParseError.fault, hreason]
        rfl
      -- the offending token is one of the line, as the error keeps the tokens from there on
      obtain ⟨hmem, -⟩ := parseStatement_eq_error he hreason
      obtain ⟨used, hts, -⟩ := forms_opens hmem
      have hlaid := laid_scan (Option.map_eq_none_iff.mp hd)
      obtain ⟨hmarks, hmessage⟩ := ParseError.marks hlaid hts hreason hrow
      refine ⟨_, _, rfl, hmessage, ?_⟩
      rw [← String.length_toList]
      exact hmarks

/-! ### The row of carets -/

theorem getElem?_append_replicate {row : List Char} {c : Char} (hc : c ∉ row) {n i : Nat} :
    (row ++ List.replicate n c)[i]? = some c ↔ row.length ≤ i ∧ i < row.length + n := by
  rw [List.getElem?_append]
  split
  · rename_i hlt
    refine ⟨fun h => absurd (List.mem_of_getElem? h) hc, fun h => ?_⟩
    omega
  · rename_i hle
    rw [List.getElem?_replicate]
    split <;> simp <;> omega

/-- The number of a line fits into the three columns that are left for it up to 999. -/
theorem length_toString_le_iff {line : Int} (hline : 1 ≤ line) :
    (toString line).length ≤ 3 ↔ line < 1000 := by
  obtain ⟨n, rfl⟩ := Int.eq_ofNat_of_zero_le (show 0 ≤ line by omega)
  have hlength : (toString (n : Int)).length = (Nat.toDigits 10 n).length := by
    show n.repr.length = _
    rw [← String.length_toList, Nat.toList_repr]
  rw [hlength, Nat.length_toDigits_le_iff (by decide) (by decide)]
  omega

namespace Diagnostic

/-- The row that shows a line. -/
def sourceRow (line : Int) (source : String) : String := gutter line ++ " | " ++ source

/-- The row below it. -/
def caretRow (d : Diagnostic) (source : String) : String := "    | " ++ d.carets source

theorem length_sourceRow (line : Int) (source : String) :
    (sourceRow line source).length = max 3 (toString line).length + 3 + source.length := by
  have hgutter : (gutter line).length = max 3 (toString line).length := by
    unfold gutter
    rw [String.length_append, String.length_ofList, List.length_replicate]
    omega
  rw [sourceRow, String.length_append, String.length_append, hgutter]
  rfl

theorem isRow_sourceRow (line : Int) {source : String} (h : IsRow source) :
    IsRow (sourceRow line source) := by
  have hgutter : IsRow (gutter line) := by
    unfold gutter
    exact isRow_append.mpr ⟨by simp [List.mem_replicate], isRow_toString line⟩
  exact isRow_append.mpr ⟨isRow_append.mpr ⟨hgutter, by decide⟩, h⟩

theorem isRow_caretRow (d : Diagnostic) (source : String) : IsRow (d.caretRow source) := by
  refine isRow_append.mpr ⟨by decide, ?_⟩
  simp [carets, List.mem_replicate]

/-- **The rows of a diagnostic that knows its line.** -/
theorem rows_text {d : Diagnostic} {source : String} (hd : d.source = some source)
    (hsource : IsRow source) (hheadline : IsRow d.headline)
    (hhints : ∀ l ∈ d.hintLines, IsRow l) :
    rows d.text = d.headline.toList :: "  |".toList :: (sourceRow d.span.start.line source).toList ::
      (d.caretRow source).toList :: d.hintLines.map String.toList := by
  have htext : d.text = "\n".intercalate (d.headline :: "  |" ::
      sourceRow d.span.start.line source :: d.caretRow source :: d.hintLines) := by
    unfold text excerpt
    rw [hd]
    rfl
  rw [htext, rows_intercalate (List.cons_ne_nil _ _)]
  · rfl
  · simp only [List.forall_mem_cons]
    exact ⟨hheadline, by decide, isRow_sourceRow _ hsource, d.isRow_caretRow source, hhints⟩

/-- Which columns of the row of carets hold one. -/
theorem getElem?_caretRow {d : Diagnostic} {source : String} {line : Int} {m n i : Nat}
    (hspan : d.span = ⟨(⟨line, 1, 0⟩ : Location).advance m, (⟨line, 1, 0⟩ : Location).advance (m + n)⟩) :
    (d.caretRow source).toList[i]? = some '^' ↔ 6 + m ≤ i ∧ i < 6 + m + max 1 n := by
  have hcount : d.caretCount source = max 1 n := by
    simp only [caretCount, endColumn, hspan, Location.advance, if_true]
    omega
  have hpad : (d.span.start.column - 1).toNat = m := by
    simp only [hspan, Location.advance]
    omega
  have hrow : (d.caretRow source).toList =
      ("    | ".toList ++ List.replicate m ' ') ++ List.replicate (max 1 n) '^' := by
    rw [caretRow, carets, hcount, hpad]
    simp
  have hnone : '^' ∉ "    | ".toList ++ List.replicate m ' ' := by
    rw [List.mem_append, List.mem_replicate]
    rintro (h | ⟨-, h⟩)
    · exact absurd h (by decide)
    · cases h
  have hlength : ("    | ".toList ++ List.replicate m ' ').length = 6 + m := by
    rw [List.length_append, List.length_replicate]
    rfl
  rw [hrow, getElem?_append_replicate hnone, hlength]

end Diagnostic

/-! ### Under the offending text -/

/-- The character with that many characters before it belongs to the span. To an empty span belongs
the place where it is. -/
def Span.Holds (s : Span) (o : Nat) : Prop :=
  (s.start.offset ≤ o ∧ o < s.stop.offset) ∨ (s.start = s.stop ∧ o = s.start.offset)

theorem Span.holds_advance {line : Int} {m n o : Nat} :
    Holds ⟨(⟨line, 1, 0⟩ : Location).advance m, (⟨line, 1, 0⟩ : Location).advance (m + n)⟩ o ↔
      m ≤ o ∧ o < m + max 1 n := by
  simp only [Holds, Location.advance, Location.mk.injEq, true_and]
  omega

/-- Marks are a stretch of characters that has a length, or no length and the end of the line. -/
theorem Marks.eq_advance {start : Location} {length : Nat} {span : Span}
    (h : Marks start length span) :
    ∃ m n, span = ⟨start.advance m, start.advance (m + n)⟩ ∧
      (0 < n ∧ m + n ≤ length ∨ n = 0 ∧ m = length) := by
  cases h with
  | characters hn hle => exact ⟨_, _, rfl, .inl ⟨hn, hle⟩⟩
  | finish => exact ⟨length, 0, rfl, .inr ⟨rfl, rfl⟩⟩

/-- **The carets stand under the offending text, or a number of digits too far to the left.** The
message about a line shows the line, and below it carets. What is wrong is a part of the line or its
end. There are carets for all of its characters, for the end of the line there is one, and there are
no others. Up to line 999 they stand below what they mark. The row of carets leaves three columns for
the number of the line, so each further digit of it moves the line, but not the carets. -/
theorem parseText_carets {text : String} {line : Int} {d : Diagnostic} (hline : 1 ≤ line)
    (hbreaks : ∀ c ∈ text.toList, isLineBreak c = false)
    (h : parseText text line 1 true = .error d) (hdeep : d.code ≠ Fault.tooDeep.code) :
    ∃ number carets : List Char, (rows d.text)[2]? = some (number ++ text.toList) ∧
      (rows d.text)[3]? = some carets ∧
      (0 ≤ d.span.start.offset ∧ d.span.start.offset < d.span.stop.offset ∧
          d.span.stop.offset ≤ text.length ∨
        d.span.start = d.span.stop ∧ d.span.start.offset = text.length) ∧
      (∀ i, carets[i]? = some '^' ↔
        ∃ o, d.span.Holds o ∧ i + ((toString line).length - 3) = number.length + o) ∧
      ((toString line).length - 3 = 0 ↔ line < 1000) := by
  have hrow : IsRow text := fun hmem => absurd (hbreaks _ hmem) (by decide)
  obtain ⟨fault, span, hd, hmessage, hmarks⟩ := parseText_marks hrow h hdeep
  obtain ⟨m, n, hspan, hplace⟩ := hmarks.eq_advance
  have hspan : d.span = ⟨(⟨line, 1, 0⟩ : Location).advance m,
      (⟨line, 1, 0⟩ : Location).advance (m + n)⟩ := by
    rw [← hspan, hd]
    rfl
  have hknown : d.source = some text := by rw [hd]; rfl
  have hrows := Diagnostic.rows_text hknown hrow
    (Diagnostic.isRow_headline (hd ▸ fault.isRow_code) (hd ▸ hmessage))
    (hd ▸ Diagnostic.isRow_hintLines fault span (some text))
  have hfirst : d.span.start.line = line := by rw [hspan]; rfl
  have hsource : (Diagnostic.sourceRow line text).toList =
      (Diagnostic.gutter line ++ " | ").toList ++ text.toList := String.toList_append ..
  have hnumber : (Diagnostic.gutter line ++ " | ").toList.length =
      max 3 (toString line).length + 3 := by
    have hlength := Diagnostic.length_sourceRow line text
    rw [← String.length_toList, hsource, List.length_append, String.length_toList] at hlength
    rw [String.length_toList] at hlength ⊢
    omega
  refine ⟨_, _, by rw [hrows, hfirst, ← hsource]; rfl, by rw [hrows]; rfl, ?_, fun i => ?_, ?_⟩
  · simp only [hspan, Location.advance, Location.mk.injEq, true_and]
    omega
  · rw [Diagnostic.getElem?_caretRow hspan, hspan, hnumber]
    simp only [Span.holds_advance]
    constructor
    · rintro ⟨hle, hlt⟩
      exact ⟨i - 6, ⟨by omega, by omega⟩, by omega⟩
    · rintro ⟨o, ⟨hle, hlt⟩, hi⟩
      omega
  · rw [Nat.sub_eq_zero_iff_le, length_toString_le_iff hline]

/-- In line 12, the only caret under `x = 5 $ 2` stands under the `$`. -/
theorem parseText_carets_of_sign :
    let text := "x = 5 $ 2"
    ∃ d, parseText text 12 1 true = .error d ∧ (1 : Int) ≤ 12 ∧
      (∀ c ∈ text.toList, isLineBreak c = false) ∧ d.code ≠ Fault.tooDeep.code ∧
      ∃ number carets : List Char, (rows d.text)[2]? = some (number ++ text.toList) ∧
        (rows d.text)[3]? = some carets ∧ ∀ i, carets[i]? = some '^' ↔ i = number.length + 6 := by
  intro text
  have hunexpected : (scan text 12 1).unexpected = some '$' := by decide +kernel
  have hstop : (scan text 12 1).stop = ⟨12, 7, 6⟩ := by decide +kernel
  have h : parseText text 12 1 true = .error (.ofFault (.unexpectedCharacter "$")
      ⟨⟨12, 7, 6⟩, ⟨12, 8, 7⟩⟩ (some text)) := by
    simp only [parseText, Scan.diagnostic?, hunexpected, hstop]
    rfl
  have hall : text.toList.all (! isLineBreak ·) = true := by decide
  have hbreaks : ∀ c ∈ text.toList, isLineBreak c = false := by simpa using hall
  have hcode : Fault.code (.unexpectedCharacter "$") ≠ Fault.tooDeep.code := by decide
  obtain ⟨number, carets, hsource, hcarets, -, hmarked, hwidth⟩ :=
    parseText_carets (by decide) hbreaks h hcode
  refine ⟨_, h, by decide, hbreaks, hcode, number, carets, hsource, hcarets, fun i => ?_⟩
  rw [hmarked, hwidth.mpr (by decide)]
  simp only [Diagnostic.ofFault, Span.Holds, Location.mk.injEq]
  constructor
  · rintro ⟨o, ho, hi⟩
    omega
  · rintro rfl
    exact ⟨6, by omega, rfl⟩

/-- From line 1000 on the carets are not below the offending text: below `1000 | 1 @ 2` stands a caret
in the column before the `@`. -/
theorem carets_left_of_text :
    ¬ ∀ (text : String) (line : Int) (d : Diagnostic), 1 ≤ line →
      (∀ c ∈ text.toList, isLineBreak c = false) → parseText text line 1 true = .error d →
      d.code ≠ Fault.tooDeep.code →
      ∃ number carets : List Char, (rows d.text)[2]? = some (number ++ text.toList) ∧
        (rows d.text)[3]? = some carets ∧
        ∀ i, carets[i]? = some '^' ↔ ∃ o, d.span.Holds o ∧ i = number.length + o := by
  intro haligned
  have hunexpected : (scan "1 @ 2" 1000 1).unexpected = some '@' := by decide +kernel
  have hstop : (scan "1 @ 2" 1000 1).stop = ⟨1000, 3, 2⟩ := by decide +kernel
  have h : parseText "1 @ 2" 1000 1 true = .error (.ofFault (.unexpectedCharacter "@")
      ⟨⟨1000, 3, 2⟩, ⟨1000, 4, 3⟩⟩ (some "1 @ 2")) := by
    simp only [parseText, Scan.diagnostic?, hunexpected, hstop]
    rfl
  have hall : "1 @ 2".toList.all (! isLineBreak ·) = true := by decide
  have hbreaks : ∀ c ∈ "1 @ 2".toList, isLineBreak c = false := by simpa using hall
  obtain ⟨number, carets, hsource, hcarets, hbelow⟩ :=
    haligned _ _ _ (by decide) hbreaks h (by decide)
  have hrows : rows (Diagnostic.text (.ofFault (.unexpectedCharacter "@")
      ⟨⟨1000, 3, 2⟩, ⟨1000, 4, 3⟩⟩ (some "1 @ 2"))) =
        ["1000:3: error[E001]: unexpected character '@'".toList, "  |".toList,
          "1000 | 1 @ 2".toList, "    |   ^".toList] := by
    decide +kernel
  rw [hrows] at hsource hcarets
  obtain rfl : "1000 | ".toList = number :=
    List.append_cancel_right (Option.some.inj hsource)
  obtain rfl : "    |   ^".toList = carets := Option.some.inj hcarets
  obtain ⟨o, ho, hcolumn⟩ := (hbelow 8).mp rfl
  have hcolumn : 8 = 7 + o := hcolumn
  simp only [Diagnostic.ofFault, Span.Holds, Location.mk.injEq] at ho
  omega

end Reckon
