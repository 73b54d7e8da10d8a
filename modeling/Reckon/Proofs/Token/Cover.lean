import Mathlib.Data.List.TakeWhile
import Reckon.Proofs.Token.Word

/-!
# Tokens and blanks make up the line

A scan calls for one finding after the other: the next token, or the end of the line. A call passes
over blanks and then over one token (`Cursor.next_passes`), so a scan that succeeds lays its tokens
out in the line with nothing but blanks around them (`laid_scanFrom`). Whatever is said about the
tokens of a line afterwards is read off this layout.

* The calls, up to the first one that finds no token, are the scan (`Cursor.findings_eq`).
* Nothing gets lost: the tokens are slices of the line, in order and apart from each other, and
  together with the blanks between them they are the line (`scan_covers_text`).
-/

namespace Reckon

/-! ### One call -/

/-- A place in a line, and the characters from there on. -/
structure Cursor where
  /-- The place before the first of the characters. -/
  here : Location
  /-- The characters that are left. -/
  rest : List Char

/-- What a call of the scanner finds. -/
inductive Finding where
  /-- A token. -/
  | token (t : Token)
  /-- The end of the line. -/
  | finish (place : Location)
  /-- A character that starts no token. -/
  | unexpected (c : Char) (place : Location)

namespace Cursor

/-- The start of a line. -/
def start (text : String) (line column : Int) : Cursor := ⟨⟨line, column, 0⟩, text.toList⟩

/-- The cursor behind the next `n` characters. -/
def skip (k : Cursor) (n : Nat) : Cursor := ⟨k.here.advance n, k.rest.drop n⟩

/-- One call of the scanner: what is found behind the blanks, and the cursor behind it. -/
def next (k : Cursor) : Finding × Cursor :=
  let k := k.skip (k.rest.takeWhile Text.isInlineBlank).length
  match k.rest with
  | [] => (.finish k.here, k)
  | c :: rest =>
    match scanWord? c rest with
    | none => (.unexpected c k.here, k.skip 1)
    | some word =>
      let behind := k.skip word.chars.length
      (.token ⟨word.lexeme, String.ofList word.chars, ⟨k.here, behind.here⟩⟩, behind)

end Cursor

/-- All characters are blanks that may stand between two tokens. -/
def Blanks (cs : List Char) : Prop := ∀ c ∈ cs, Text.isInlineBlank c = true

/-- The token of the given characters, at the given place. -/
def Lexeme.tokenAt (l : Lexeme) (chars : List Char) (here : Location) : Token :=
  ⟨l, String.ofList chars, ⟨here, here.advance chars.length⟩⟩

/-- `k.Passes f k'`: between the cursors `k` and `k'` there are blanks, and what is found behind
them. -/
inductive Cursor.Passes : Cursor → Finding → Cursor → Prop where
  | finish {here : Location} {gap : List Char} (hgap : Blanks gap) :
      Passes ⟨here, gap⟩ (.finish (here.advance gap.length)) ⟨here.advance gap.length, []⟩
  | unexpected {here : Location} {gap rest : List Char} {c : Char} (hgap : Blanks gap) :
      Passes ⟨here, gap ++ c :: rest⟩ (.unexpected c (here.advance gap.length))
        ⟨(here.advance gap.length).advance 1, rest⟩
  | token {here : Location} {gap chars rest : List Char} {l : Lexeme} (hgap : Blanks gap)
      (hchars : chars ≠ []) :
      Passes ⟨here, gap ++ (chars ++ rest)⟩ (.token (l.tokenAt chars (here.advance gap.length)))
        ⟨(here.advance gap.length).advance chars.length, rest⟩

/-- The blanks at the start of a text, and the rest. -/
theorem exists_blanks (cs : List Char) :
    ∃ gap rest, cs = gap ++ rest ∧ Blanks gap ∧ gap = cs.takeWhile Text.isInlineBlank ∧
      ∀ c ∈ rest.head?, Text.isInlineBlank c = false := by
  refine ⟨_, cs.dropWhile Text.isInlineBlank, List.takeWhile_append_dropWhile.symm,
    fun c hc => List.mem_takeWhile_imp hc, rfl, fun c hc => ?_⟩
  obtain ⟨rest, hrest⟩ := List.head?_eq_some_iff.mp hc
  have hne : cs.dropWhile Text.isInlineBlank ≠ [] := by simp [hrest]
  have hhead := List.head_dropWhile_not Text.isInlineBlank hne
  simpa [hrest] using hhead

/-- **A call passes over blanks and over what it finds.** -/
theorem Cursor.next_passes (k : Cursor) : k.Passes k.next.1 k.next.2 := by
  obtain ⟨here, cs⟩ := k
  obtain ⟨gap, rest, hcs, hgap, htake, -⟩ := exists_blanks cs
  unfold next skip
  simp only [← htake]
  rw [hcs, List.drop_left]
  cases rest with
  | nil =>
    rw [List.append_nil]
    exact .finish hgap
  | cons c rest =>
    simp only
    split
    · exact .unexpected hgap
    · rename_i word hword
      obtain ⟨behind, hbehind⟩ := prefix_scanWord? hword
      rw [← hbehind, List.drop_left]
      exact .token hgap (scanWord?_chars_ne_nil hword)

/-- **A call consumes a character or finds the end of the line.** -/
theorem Cursor.Passes.consumes {k k' : Cursor} {f : Finding} (h : k.Passes f k') :
    ∃ passed, k.rest = passed ++ k'.rest ∧ k'.here = k.here.advance passed.length ∧
      (passed ≠ [] ∨ f = .finish k'.here ∧ k'.rest = []) := by
  cases h with
  | @finish here gap => exact ⟨gap, by simp, rfl, .inr ⟨rfl, rfl⟩⟩
  | @unexpected here gap rest c =>
    refine ⟨gap ++ [c], by simp, ?_, .inl (by simp)⟩
    rw [Location.advance_advance, List.length_append]
    rfl
  | @token here gap chars rest l _ hchars =>
    refine ⟨gap ++ chars, by simp, ?_, .inl (by simp [hchars])⟩
    rw [Location.advance_advance, List.length_append]

theorem Cursor.next_length_lt {k k' : Cursor} {t : Token} (h : k.next = (.token t, k')) :
    k'.rest.length < k.rest.length := by
  have hpasses := k.next_passes
  rw [h] at hpasses
  obtain ⟨passed, hrest, -, hne | ⟨hfinish, -⟩⟩ := hpasses.consumes
  · rw [hrest, List.length_append]
    exact Nat.lt_add_of_pos_left (List.length_pos_iff.mpr hne)
  · cases hfinish

/-! ### All calls -/

/-- What is found by calling up to the first time that it is no token. -/
def Cursor.findings (k : Cursor) : List Finding :=
  match _h : k.next with
  | (.token t, behind) => .token t :: behind.findings
  | (finding, _) => [finding]
termination_by k.rest.length
decreasing_by exact next_length_lt _h

/-- What a scan found, one after the other. -/
def Scan.findings (s : Scan) : List Finding :=
  s.tokens.map .token ++
    [match s.unexpected with
      | none => .finish s.stop
      | some c => .unexpected c s.stop]

/-- Blanks at the start are skipped. -/
theorem scanFrom_blanks (here : Location) {gap : List Char} (hgap : Blanks gap) (rest : List Char) :
    scanFrom here (gap ++ rest) = scanFrom (here.advance gap.length) rest := by
  induction gap generalizing here with
  | nil => simp
  | cons c gap ih =>
    obtain ⟨hc, hgap⟩ := List.forall_mem_cons.mp hgap
    rw [List.cons_append, scanFrom.eq_def]
    simp only [if_pos hc]
    rw [ih _ hgap, Location.advance_advance, List.length_cons, Nat.add_comm]

/-- A scan goes on where a call has left the cursor. -/
theorem scanFrom_eq_next (k : Cursor) :
    scanFrom k.here k.rest =
      match k.next with
      | (.token t, behind) => (scanFrom behind.here behind.rest).cons t
      | (.finish place, _) => ⟨[], none, place⟩
      | (.unexpected c place, _) => ⟨[], some c, place⟩ := by
  obtain ⟨here, cs⟩ := k
  obtain ⟨gap, rest, hcs, hgap, htake, hhead⟩ := exists_blanks cs
  unfold Cursor.next Cursor.skip
  simp only [← htake]
  rw [hcs, scanFrom_blanks here hgap, List.drop_left]
  cases rest with
  | nil => rw [scanFrom.eq_def]
  | cons c rest =>
    have hc : ¬Text.isInlineBlank c = true := by simp [hhead c rfl]
    rw [scanFrom.eq_def]
    simp only [if_neg hc]
    cases hword : scanWord? c rest with
    | none => rfl
    | some word =>
      obtain ⟨d, chars, hchars⟩ := List.exists_cons_of_ne_nil (scanWord?_chars_ne_nil hword)
      simp [hchars]

/-- **The calls find what the scan finds.** -/
theorem Cursor.findings_eq (k : Cursor) : k.findings = (scanFrom k.here k.rest).findings := by
  fun_induction Cursor.findings k with
  | case1 k t behind hnext ih =>
    rw [scanFrom_eq_next k, hnext, ih]
    rfl
  | case2 k found behind hnone hnext =>
    rw [scanFrom_eq_next k, hnext]
    cases found with
    | token t => exact (hnone t rfl).elim
    | finish place => rfl
    | unexpected c place => rfl

/-! ### The layout of a line -/

/-- `Laid here cs ts stop`: the characters `cs`, which stand at `here`, are the tokens `ts` one behind
the other with nothing but blanks around them, and they end at `stop`. -/
inductive Laid : Location → List Char → List Token → Location → Prop where
  | finish {here : Location} {gap : List Char} (hgap : Blanks gap) :
      Laid here gap [] (here.advance gap.length)
  | token {here stop : Location} {gap chars rest : List Char} {l : Lexeme} {ts : List Token}
      (hgap : Blanks gap) (hchars : chars ≠ []) :
      Laid ((here.advance gap.length).advance chars.length) rest ts stop →
      Laid here (gap ++ (chars ++ rest)) (l.tokenAt chars (here.advance gap.length) :: ts) stop

/-- **Calls that find tokens up to the end lay them out.** -/
theorem laid_of_findings {k : Cursor} {ts : List Token} {stop : Location}
    (h : k.findings = ts.map .token ++ [.finish stop]) : Laid k.here k.rest ts stop := by
  fun_induction Cursor.findings k generalizing ts with
  | case1 k t behind hnext ih =>
    have hpasses := k.next_passes
    rw [hnext] at hpasses
    cases ts with
    | nil => simp at h
    | cons u ts =>
      obtain ⟨ht, hrest⟩ := List.cons.inj h
      cases ht
      have hlaid := ih hrest
      cases hpasses with
      | token hgap hchars => exact .token hgap hchars hlaid
  | case2 k found behind hnone hnext =>
    have hpasses := k.next_passes
    rw [hnext] at hpasses
    cases ts with
    | cons u ts =>
      obtain ⟨hu, -⟩ := List.cons.inj h
      exact (hnone u hu).elim
    | nil =>
      obtain ⟨hfound, -⟩ := List.cons.inj h
      subst hfound
      cases hpasses with
      | finish hgap => exact .finish hgap

/-- **A scan that succeeds lays its tokens out in the line.** -/
theorem laid_scan {text : String} {line column : Int}
    (h : (scan text line column).unexpected = none) :
    Laid ⟨line, column, 0⟩ text.toList (scan text line column).tokens
      (scan text line column).stop := by
  refine laid_of_findings (k := .start text line column) ?_
  rw [Cursor.findings_eq]
  show (scan text line column).findings = _
  unfold Scan.findings
  rw [h]

namespace Laid

variable {here stop : Location} {cs : List Char} {ts : List Token}

theorem stop_eq (h : Laid here cs ts stop) : stop = here.advance cs.length := by
  induction h with
  | finish => rfl
  | token _ _ _ ih =>
    rw [ih, Location.advance_advance, Location.advance_advance, List.length_append,
      List.length_append]

/-- Every token is a part of the text, and it knows where it stands. -/
theorem place (h : Laid here cs ts stop) : ∀ t ∈ ts, ∃ before chars after,
    cs = before ++ (chars ++ after) ∧ chars ≠ [] ∧ t.text.toList = chars ∧
      t.span = ⟨here.advance before.length, here.advance (before.length + chars.length)⟩ := by
  induction h with
  | finish => exact fun t ht => nomatch ht
  | @token here stop gap chars rest l ts _ hchars _ ih =>
    intro t ht
    rcases List.mem_cons.mp ht with rfl | ht
    · refine ⟨gap, chars, rest, rfl, hchars, String.toList_ofList, ?_⟩
      rw [← Location.advance_advance]
      rfl
    · obtain ⟨before, chars', after, rfl, hne, htext, hspan⟩ := ih t ht
      refine ⟨gap ++ (chars ++ before), chars', after, by simp, hne, htext, ?_⟩
      rw [hspan]
      simp [Location.advance_advance, Nat.add_assoc]

/-- **Tokens are apart from each other and in order.** -/
theorem pairwise (h : Laid here cs ts stop) :
    ts.Pairwise fun t u => t.span.stop.offset ≤ u.span.start.offset := by
  induction h with
  | finish => exact .nil
  | @token here stop gap chars rest l ts _ _ hrest ih =>
    refine .cons (fun u hu => ?_) ih
    obtain ⟨before, _, _, -, -, -, hspan⟩ := hrest.place u hu
    rw [hspan]
    show _ ≤ _ + (before.length : Int)
    exact Int.le_add_of_nonneg_right (Int.natCast_nonneg _)

end Laid

/-! ### Slices and gaps -/

/-- The characters of a text from one offset up to another. -/
def slice (cs : List Char) (start stop : Int) : List Char := (cs.take stop.toNat).drop start.toNat

/-- The parts of a text outside of tokens: from the given offset up to the first token, between two
neighbours, and from the last one to the end. -/
def gaps (cs : List Char) (offset : Int) : List Token → List (List Char)
  | [] => [slice cs offset cs.length]
  | t :: ts => slice cs offset t.span.start.offset :: gaps cs t.span.stop.offset ts

/-- Gaps and words in turn. -/
def weave : List (List Char) → List (List Char) → List Char
  | gap :: gaps, word :: words => gap ++ (word ++ weave gaps words)
  | gaps, _ => gaps.flatten

theorem slice_middle (before chars after : List Char) :
    slice (before ++ (chars ++ after)) before.length (before.length + chars.length : Nat) = chars := by
  unfold slice
  rw [Int.toNat_natCast, Int.toNat_natCast, ← List.append_assoc, ← List.length_append,
    List.take_left, List.drop_left]

/-- **The gaps between tokens are blank, and gaps and tokens in turn are the text.** -/
theorem Laid.gaps_spec {here stop : Location} {cs : List Char} {ts : List Token}
    (h : Laid here cs ts stop) : ∀ before : List Char, here.offset = before.length →
      (∀ gap ∈ gaps (before ++ cs) here.offset ts, Blanks gap) ∧
        weave (gaps (before ++ cs) here.offset ts) (ts.map (·.text.toList)) = cs := by
  induction h with
  | @finish here gap hgap =>
    intro before hoffset
    have hslice := slice_middle before gap []
    rw [List.append_nil, ← List.length_append] at hslice
    rw [gaps, hoffset, hslice]
    exact ⟨List.forall_mem_singleton.mpr hgap, by simp [weave]⟩
  | @token here stop gap chars rest l ts hgap _ _ ih =>
    intro before hoffset
    -- before the rest there is what was there before, the gap and the token
    have hassoc : before ++ (gap ++ (chars ++ rest)) = before ++ (gap ++ chars) ++ rest := by simp
    have hnext : ((here.advance gap.length).advance chars.length).offset =
        ((before ++ (gap ++ chars)).length : Nat) := by
      simp [Location.advance, hoffset, Int.add_assoc]
    have hstart : (here.advance gap.length).offset = (before.length + gap.length : Nat) := by
      simp [Location.advance, hoffset]
    have hslice : slice (before ++ (gap ++ (chars ++ rest))) here.offset
        (here.advance gap.length).offset = gap := by
      rw [hstart, hoffset]
      exact slice_middle before gap (chars ++ rest)
    obtain ⟨hblanks, hweave⟩ := ih (before ++ (gap ++ chars)) hnext
    rw [← hassoc] at hblanks hweave
    rw [gaps, List.map_cons, weave]
    refine ⟨List.forall_mem_cons.mpr ⟨?_, hblanks⟩, ?_⟩
    · exact hslice.symm ▸ hgap
    · exact congrArg₂ _ hslice (congrArg₂ _ String.toList_ofList hweave)

/-! ### The whole line -/

/-- All places that a scan reports. -/
def Scan.locations (s : Scan) : List Location :=
  s.tokens.flatMap (fun t => [t.span.start, t.span.stop]) ++ [s.stop]

/-- **Scanning loses nothing.** The calls of the scanner for a line, one after the other, are the
scan. If the scan finds no unexpected character, they find tokens and then, once, the end of the
line, which is behind its last character. A token has at least one character and is the slice of the
line between its offsets; the tokens are in order and do not overlap; what lies outside of them is
white space without line breaks, and gaps and tokens in turn are the line. All places are in the
given line, and their columns are their offsets counted from the first column.

At any place of any text, a call consumes a character or finds the end. -/
theorem scan_covers_text (text : String) (line column : Int) :
    let s := scan text line column
    (Cursor.start text line column).findings = s.findings ∧
    (s.unexpected = none →
      s.findings = s.tokens.map .token ++ [.finish ⟨line, column + text.length, text.length⟩] ∧
      (∀ t ∈ s.tokens, t.span.start.offset < t.span.stop.offset ∧ t.text ≠ "" ∧
        t.text.toList = slice text.toList t.span.start.offset t.span.stop.offset) ∧
      s.tokens.Pairwise (fun t u => t.span.stop.offset ≤ u.span.start.offset) ∧
      (∀ gap ∈ gaps text.toList 0 s.tokens, ∀ c ∈ gap,
        Text.isBlank c = true ∧ Text.isLineBreak c = false) ∧
      weave (gaps text.toList 0 s.tokens) (s.tokens.map (·.text.toList)) = text.toList ∧
      ∀ l ∈ s.locations, l.line = line ∧ l.column = column + l.offset) ∧
    ∀ k : Cursor, ∃ passed, k.rest = passed ++ k.next.2.rest ∧
      k.next.2.here = k.here.advance passed.length ∧
      (passed ≠ [] ∨ k.next.1 = .finish k.next.2.here ∧ k.next.2.rest = []) := by
  intro s
  refine ⟨Cursor.findings_eq _, fun hs => ?_, fun k => k.next_passes.consumes⟩
  have hlaid : Laid ⟨line, column, 0⟩ text.toList s.tokens s.stop := laid_scan hs
  have hstop : s.stop = ⟨line, column + text.length, text.length⟩ := by
    rw [hlaid.stop_eq, String.length_toList]
    simp [Location.advance]
  obtain ⟨hblanks, hweave⟩ := hlaid.gaps_spec [] rfl
  refine ⟨?_, fun t ht => ?_, hlaid.pairwise, fun gap hgap c hc => ?_, hweave, fun l hl => ?_⟩
  · unfold Scan.findings
    rw [hs, hstop]
  · obtain ⟨before, chars, after, hcs, hne, htext, hspan⟩ := hlaid.place t ht
    have hpos := List.length_pos_iff.mpr hne
    rw [hspan, htext, hcs]
    refine ⟨?_, ?_, ?_⟩
    · simp only [Location.advance]
      omega
    · rintro hempty
      rw [hempty] at htext
      exact hne htext.symm
    · simp only [Location.advance, Int.zero_add]
      exact (slice_middle before chars after).symm
  · have hinline := hblanks gap hgap c hc
    simpa [Text.isInlineBlank] using hinline
  · have hadvance : ∀ n : Nat, ((⟨line, column, 0⟩ : Location).advance n).line = line ∧
        ((⟨line, column, 0⟩ : Location).advance n).column =
          column + ((⟨line, column, 0⟩ : Location).advance n).offset := by
      intro n
      simp [Location.advance]
    rcases List.mem_append.mp hl with hl | hl
    · obtain ⟨t, ht, hl⟩ := List.mem_flatMap.mp hl
      obtain ⟨before, chars, -, -, -, -, hspan⟩ := hlaid.place t ht
      rw [hspan] at hl
      simp only [List.mem_cons, List.not_mem_nil, or_false] at hl
      rcases hl with rfl | rfl
      · exact hadvance _
      · exact hadvance _
    · obtain rfl := List.mem_singleton.mp hl
      rw [hlaid.stop_eq]
      exact hadvance _

/-- A blank between a number and its unit belongs to the token, all others lie in gaps. -/
theorem scan_covers_text_of_product :
    let text := " 2 km *(a\t/ 3)"
    let s := scan text 4 7
    s.unexpected = none ∧ s.tokens.map (·.text) = ["2 km", "*", "(", "a", "/", "3", ")"] ∧
      gaps text.toList 0 s.tokens = [[' '], [' '], [], [], ['\t'], [' '], [], []] ∧
      weave (gaps text.toList 0 s.tokens) (s.tokens.map (·.text.toList)) = text.toList := by
  intro text s
  have hs : s.unexpected = none := by decide +kernel
  obtain ⟨-, -, -, -, hweave, -⟩ := (scan_covers_text text 4 7).2.1 hs
  exact ⟨hs, by decide +kernel, by decide +kernel, hweave⟩

end Reckon
