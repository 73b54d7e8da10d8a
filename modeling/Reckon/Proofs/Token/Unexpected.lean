import Reckon.Line
import Reckon.Proofs.Token.Locality

/-!
# The first character that starts no token

A scan that fails has found tokens before the character that it fails at. To find their ends it may
have looked at that character, and behind it: at the point in `3.`, or at all of `e+.` in `2e+.`. That
makes no difference. If the line ended before the character, the scan would find the same tokens and
then the end (`scanFrom_unexpected`), since a word depends on its own characters only.
-/

namespace Reckon

/-- A character starts no token if it is no digit, starts no name and is no symbol. -/
theorem scanWord?_eq_none_iff {c : Char} {cs : List Char} : scanWord? c cs = none ↔
    Text.isDigit c = false ∧ Text.isLetter c = false ∧ c ≠ '_' ∧
      c ∉ ['+', '-', '*', '/', '^', '=', '(', ')', ','] := by
  have hname : isNameStart c = false ↔ Text.isLetter c = false ∧ c ≠ '_' := by
    simp [isNameStart]
  have hsymbol : Symbol.ofChar? c = none ↔ c ∉ ['+', '-', '*', '/', '^', '=', '(', ')', ','] := by
    rw [show ['+', '-', '*', '/', '^', '=', '(', ')', ','] =
      [Symbol.plus, .minus, .star, .slash, .caret, .assign, .lparen, .rparen, .comma].map
        Symbol.char from rfl]
    simp only [Symbol.ofChar?, List.find?_eq_none, beq_iff_eq, List.mem_map, not_exists, not_and]
  rw [← hsymbol, ← and_assoc (b := c ≠ '_'), ← hname]
  unfold scanWord?
  split
  · rename_i hdigit
    simp [hdigit]
  · rename_i hdigit
    split
    · rename_i hstart
      simp [hstart]
    · rename_i hstart
      simp [hdigit, hstart]

/-- **A scan that fails finds what it would find if the line ended there.** -/
theorem scanFrom_unexpected {here : Location} {cs : List Char} {c : Char}
    (h : (scanFrom here cs).unexpected = some c) :
    ∃ before behind, cs = before ++ c :: behind ∧ Text.isInlineBlank c = false ∧
      scanWord? c behind = none ∧ (scanFrom here cs).stop = here.advance before.length ∧
      scanFrom here before = ⟨(scanFrom here cs).tokens, none, here.advance before.length⟩ := by
  fun_induction scanFrom here cs with
  | case1 => cases h
  | case2 here d rest hblank ih =>
    obtain ⟨before, behind, rfl, hc, hword, hstop, hbefore⟩ := ih h
    rw [Location.advance_advance, Nat.add_comm] at hstop hbefore
    refine ⟨d :: before, behind, rfl, hc, hword, hstop, ?_⟩
    rw [scanFrom.eq_def]
    simp only [if_pos hblank]
    exact hbefore
  | case3 here d rest hblank hword =>
    cases h
    refine ⟨[], rest, rfl, by simpa using hblank, hword, by simp, ?_⟩
    rw [scanFrom.eq_def]
    simp
  | case4 here d rest hblank word hword next token ih =>
    obtain ⟨before, behind, hrest, hc, hnone, hstop, hbefore⟩ := ih h
    obtain ⟨chars, after, hchars, rfl⟩ := exists_cons_of_scanWord? hword
    have hlength : word.chars.length - 1 = chars.length := by rw [hchars]; rfl
    rw [hlength, List.drop_left] at hrest hstop hbefore ⊢
    -- the word is found as well if the line ends before the unexpected character
    have hcut : scanWord? d (chars ++ before) = some word := by
      have hword : scanWord? d ((chars ++ before) ++ c :: behind) = some word := by
        rw [List.append_assoc, ← hrest]
        exact hword
      have hle : word.chars.length ≤ (d :: (chars ++ before)).length := by simp [hchars]
      have hswap := scanWord?_swap detached_nil hword hle fun _ => rfl
      rwa [List.append_nil] at hswap
    have hword : word = ⟨word.lexeme, d :: chars⟩ := by rw [← hchars]
    rw [hword] at hcut
    refine ⟨d :: chars ++ before, behind, by rw [hrest]; simp, hc, hnone, ?_, ?_⟩
    · show (scanFrom next after).stop = _
      rw [hstop, List.length_append, ← hchars]
      exact Location.advance_advance ..
    · rw [scanFrom_word here hcut, ← hchars]
      show (scanFrom next before).cons token = _
      rw [hbefore, List.length_append, ← Location.advance_advance]
      rfl

/-- **A scan fails at the first character that starts no token, and finds what is before it.** If a
scan is reported to fail, then the report is about one character, which is no blank, starts no number
and no name, and is no symbol. A scan of the line up to there succeeds; it finds the same tokens and
ends there. The reader stands behind the character. -/
theorem scan_fails_at_first (text : String) (line column : Int) {d : Diagnostic}
    (h : (scan text line column).diagnostic? text = some d) :
    let s := scan text line column
    ∃ (p : Nat) (c : Char), text.toList[p]? = some c ∧
      d = .ofFault (.unexpectedCharacter c.toString)
        ⟨⟨line, column + p, p⟩, ⟨line, column + p + 1, p + 1⟩⟩ (some text) ∧
      Text.isInlineBlank c = false ∧ Text.isDigit c = false ∧ Text.isLetter c = false ∧ c ≠ '_' ∧
      c ∉ ['+', '-', '*', '/', '^', '=', '(', ')', ','] ∧
      scan (String.ofList (text.toList.take p)) line column =
        ⟨s.tokens, none, ⟨line, column + p, p⟩⟩ ∧
      s.position = ⟨line, column + p + 1, p + 1⟩ := by
  intro s
  obtain ⟨c, hunexpected, rfl⟩ := Option.map_eq_some_iff.mp h
  have hfrom : (scanFrom ⟨line, column, 0⟩ text.toList).unexpected = some c := hunexpected
  obtain ⟨before, behind, htext, hblank, hnone, hstop, hbefore⟩ := scanFrom_unexpected hfrom
  have hstop : s.stop = ⟨line, column + before.length, before.length⟩ := by
    show (scanFrom _ _).stop = _
    rw [hstop]
    simp [Location.advance]
  obtain ⟨hdigit, hletter, hline, hsymbol⟩ := scanWord?_eq_none_iff.mp hnone
  refine ⟨before.length, c, by simp [htext], ?_, hblank, hdigit, hletter, hline, hsymbol, ?_, ?_⟩
  · rw [show (scan text line column).stop = _ from hstop]
    rfl
  · have htake : text.toList.take before.length = before := by rw [htext, List.take_left]
    rw [htake, scan, String.toList_ofList, hbefore]
    simp [Location.advance, s, scan]
  · unfold Scan.position
    rw [if_pos (Option.isSome_of_mem hunexpected), hstop]
    rfl

/-- In `2e+.5` the point is unexpected: the number ends before the sign, as no digit follows it. -/
theorem scan_fails_at_first_of_sign :
    let s := scan "2e+.5" 1 4
    ∃ d, s.diagnostic? "2e+.5" = some d ∧ d.span = ⟨⟨1, 7, 3⟩, ⟨1, 8, 4⟩⟩ ∧
      s.tokens.map (·.text) = ["2e", "+"] ∧
      scan "2e+" 1 4 = ⟨s.tokens, none, ⟨1, 7, 3⟩⟩ ∧ s.position = ⟨1, 8, 4⟩ := by
  intro s
  have hunexpected : s.unexpected = some '.' := by decide +kernel
  have hstop : s.stop = ⟨1, 7, 3⟩ := by decide +kernel
  have hfails : s.diagnostic? "2e+.5" = some (.ofFault (.unexpectedCharacter ".")
      ⟨⟨1, 7, 3⟩, ⟨1, 8, 4⟩⟩ (some "2e+.5")) := by
    unfold Scan.diagnostic?
    rw [hunexpected, hstop]
    rfl
  obtain ⟨p, c, -, hd, -, -, -, -, -, hscan, hposition⟩ := scan_fails_at_first "2e+.5" 1 4 hfails
  obtain rfl : p = 3 := by
    have hoffset := congrArg (·.span.start.offset) hd
    have hp : (3 : Int) = p := hoffset
    omega
  have htake : String.ofList ("2e+.5".toList.take 3) = "2e+" := by decide
  rw [htake] at hscan
  exact ⟨_, hfails, rfl, by decide +kernel, hscan, hposition⟩

end Reckon
