import Mathlib.Data.List.Chain
import Reckon.Proofs.Token.Locality

/-!
# Spacing between tokens is immaterial

The text of a token, scanned on its own, is that token (`Token.IsWord`). It is found again in any text
in which a blank or nothing follows it, with one exception: a number takes a letter behind blanks for
the start of its unit. But the token behind a number without a unit never starts with a letter
(`Token.Precedes`), or the number would have had a unit in the first place. So the tokens of a line,
written down with other blanks between them, are scanned again (`scan_respaced`).
-/

namespace Reckon

/-! ### Words on their own -/

/-- A scan of the token's own text finds the token. -/
def Token.IsWord (t : Token) : Prop :=
  ∃ c cs, t.text.toList = c :: cs ∧ scanWord? c cs = some ⟨t.lexeme, c :: cs⟩

/-- The second token is not taken for the unit of the first one. -/
def Token.Precedes (t u : Token) : Prop :=
  (∃ x, t.lexeme = .number x none) → ∀ c ∈ u.text.toList.head?, Text.isLetter c = false

/-- A word is the same if the text ends with it. -/
theorem scanWord?_alone {c : Char} {cs : List Char} {word : Word}
    (h : scanWord? c cs = some word) :
    ∃ chars, word.chars = c :: chars ∧ scanWord? c chars = some word := by
  obtain ⟨chars, behind, hchars, rfl⟩ := exists_cons_of_scanWord? h
  refine ⟨chars, hchars, ?_⟩
  have halone : scanWord? c (chars ++ []) = some word :=
    scanWord?_swap detached_nil h (Nat.le_of_eq (congrArg List.length hchars)) fun _ => rfl
  rwa [List.append_nil] at halone

/-- No unit follows a number that has none. -/
theorem scanUnit_behind {c : Char} {cs : List Char} {word : Word}
    (h : scanWord? c cs = some word) {x : Float} (hword : word.lexeme = .number x none) :
    scanUnit ((c :: cs).drop word.chars.length) = none := by
  unfold scanWord? at h
  split at h
  · cases h
    unfold scanNumber at hword ⊢
    simp only at hword ⊢
    split at hword
    · cases hword
    · rename_i hunit
      simp only [hunit]
  · split at h
    · cases h
      cases hword
    · obtain ⟨s, -, rfl⟩ := Option.map_eq_some_iff.mp h
      cases hword

/-- The first token starts where the blanks end. -/
theorem scanFrom_head (here : Location) (cs : List Char) :
    ∀ t ∈ (scanFrom here cs).tokens.head?,
      t.text.toList.head? = (cs.dropWhile Text.isInlineBlank).head? := by
  fun_induction scanFrom here cs with
  | case1 => exact fun _ ht => nomatch ht
  | case2 here c rest hblank ih => rwa [List.dropWhile_cons_of_pos hblank]
  | case3 => exact fun _ ht => nomatch ht
  | case4 here c rest hblank word hword next token ih =>
    intro t ht
    obtain rfl : token = t := by simpa [Scan.cons] using ht
    obtain ⟨chars, hchars, -⟩ := scanWord?_alone hword
    rw [List.dropWhile_cons_of_neg hblank]
    simp [token, hchars]

/-- **The tokens of a scan are words on their own**, and none is taken for the unit of the one before
it. -/
theorem scanFrom_words (here : Location) (cs : List Char) :
    (∀ t ∈ (scanFrom here cs).tokens, t.IsWord) ∧
      (scanFrom here cs).tokens.IsChain Token.Precedes := by
  fun_induction scanFrom here cs with
  | case1 => exact ⟨fun _ ht => (nomatch ht), .nil⟩
  | case2 here c rest hblank ih => exact ih
  | case3 => exact ⟨fun _ ht => (nomatch ht), .nil⟩
  | case4 here c rest hblank word hword next token ih =>
    obtain ⟨hwords, hchain⟩ := ih
    obtain ⟨chars, hchars, halone⟩ := scanWord?_alone hword
    refine ⟨List.forall_mem_cons.mpr ⟨?_, hwords⟩, List.isChain_cons.mpr ⟨?_, hchain⟩⟩
    · refine ⟨c, chars, by simp [token, hchars], ?_⟩
      rw [halone, ← hchars]
    · rintro u hu ⟨x, hx⟩ d hd
      rw [scanFrom_head _ _ u hu] at hd
      have hunit := scanUnit_behind hword hx
      rw [hchars, List.length_cons, List.drop_succ_cons] at hunit
      refine scanUnit_eq_none_iff.mp hunit d ?_
      rwa [hchars, List.length_cons, Nat.add_sub_cancel] at hd

/-! ### Other blanks -/

/-- What follows a word when the tokens `ts` are written down behind it: blanks, unless there are no
tokens, and then the first token. -/
theorem weave_follows {ts : List Token} (hwords : ∀ t ∈ ts, t.IsWord) {gaps : List (List Char)}
    (hlength : gaps.length = ts.length + 1) (hblanks : ∀ gap ∈ gaps, Blanks gap)
    (hinner : ∀ gap ∈ gaps.dropLast, gap ≠ []) :
    let behind := weave gaps (ts.map (·.text.toList))
    Detached behind ∧ ∀ c ∈ (behind.dropWhile Text.isInlineBlank).head?,
      ∃ t ∈ ts.head?, c ∈ t.text.toList.head? := by
  match ts, gaps with
  | [], [gap] =>
    have hgap := hblanks gap List.mem_cons_self
    have hweave : weave [gap] [] = gap := List.append_nil gap
    simp only [List.map_nil, hweave]
    refine ⟨fun c hc => hgap c (List.mem_of_mem_head? hc), fun c hc => ?_⟩
    rw [List.dropWhile_eq_nil_iff.mpr hgap] at hc
    cases hc
  | t :: ts, gap :: gap' :: gaps =>
    have hgap := hblanks gap List.mem_cons_self
    have hne : gap ≠ [] := hinner gap (by simp)
    obtain ⟨c, cs, htext, hword⟩ := hwords t List.mem_cons_self
    -- the first token starts with no blank, so the blanks in front of it end there
    have hblank : ¬Text.isInlineBlank c = true := by simp [isInlineBlank_of_scanWord? hword]
    simp only [List.map_cons, weave, htext]
    refine ⟨fun d hd => ?_, fun d hd => ⟨t, rfl, ?_⟩⟩
    · rw [List.head?_append_of_ne_nil _ hne] at hd
      exact hgap d (List.mem_of_mem_head? hd)
    · rw [List.dropWhile_append_of_pos hgap, List.cons_append,
        List.dropWhile_cons_of_neg hblank] at hd
      rw [htext]
      exact hd

/-- **Words that are written down with blanks between them are scanned again.** -/
theorem scanFrom_weave {ts : List Token} (hwords : ∀ t ∈ ts, t.IsWord)
    (hchain : ts.IsChain Token.Precedes) {gaps : List (List Char)} (here : Location)
    (hlength : gaps.length = ts.length + 1) (hblanks : ∀ gap ∈ gaps, Blanks gap)
    (hinner : ∀ gap ∈ gaps.tail.dropLast, gap ≠ []) :
    let s := scanFrom here (weave gaps (ts.map (·.text.toList)))
    s.unexpected = none ∧ s.tokens.map (·.lexeme) = ts.map (·.lexeme) ∧
      s.tokens.map (·.text) = ts.map (·.text) := by
  induction ts generalizing gaps here with
  | nil =>
    obtain ⟨gap, rfl⟩ := List.length_eq_one_iff.mp hlength
    have hscan := scanFrom_blanks here (hblanks gap List.mem_cons_self) []
    have hweave : weave [gap] [] = gap ++ [] := rfl
    simp only [List.map_nil, hweave, hscan]
    rw [scanFrom.eq_def]
    exact ⟨rfl, rfl, rfl⟩
  | cons t ts ih =>
    match gaps with
    | gap :: gaps =>
      obtain ⟨hgap, hblanks⟩ := List.forall_mem_cons.mp hblanks
      obtain ⟨ht, hwords⟩ := List.forall_mem_cons.mp hwords
      obtain ⟨hprecedes, hchain⟩ := List.isChain_cons.mp hchain
      obtain ⟨c, cs, htext, hword⟩ := ht
      have hlength : gaps.length = ts.length + 1 := Nat.succ.inj hlength
      obtain ⟨hdetached, hhead⟩ := weave_follows hwords hlength hblanks hinner
      have htail : ∀ gap ∈ gaps.tail.dropLast, gap ≠ [] := by
        intro gap hgap
        refine hinner gap ?_
        rw [← List.tail_dropLast] at hgap
        exact List.mem_of_mem_tail hgap
      -- the word does not depend on the tokens behind it
      have hagain : scanWord? c (cs ++ weave gaps (ts.map (·.text.toList))) =
          some ⟨t.lexeme, c :: cs⟩ := by
        have halone : scanWord? c (cs ++ []) = some ⟨t.lexeme, c :: cs⟩ := by
          rw [List.append_nil]
          exact hword
        refine scanWord?_swap hdetached halone (Nat.le_refl _) fun hnumber => ?_
        rw [scanUnit_eq_none_iff]
        intro d hd
        obtain ⟨u, hu, hd⟩ := hhead d hd
        exact hprecedes u hu hnumber d hd
      obtain ⟨hexpected, hlexemes, htexts⟩ :=
        ih hwords hchain ((here.advance gap.length).advance (c :: cs).length) hlength hblanks htail
      have hweave : weave (gap :: gaps) ((t :: ts).map (·.text.toList)) =
          gap ++ (c :: cs ++ weave gaps (ts.map (·.text.toList))) := by
        rw [List.map_cons, weave, htext]
      have htoken : String.ofList (c :: cs) = t.text := by rw [← htext, String.ofList_toList]
      simp only [hweave, scanFrom_blanks here hgap, scanFrom_word _ hagain]
      refine ⟨hexpected, ?_, ?_⟩
      · exact congrArg (t.lexeme :: ·) hlexemes
      · exact congrArg₂ List.cons htoken htexts

/-- **Spacing between tokens is immaterial.** Take the tokens that a scan finds in a text, as they are
written there, and write them down one after the other with any blanks between them, at least one
between two tokens, and any blanks before the first and after the last one. A scan of the new text
finds tokens that say the same and are written in the same way, in the same order, and nothing
else. -/
theorem scan_respaced (text : String) (line column line' column' : Int) {gaps : List (List Char)}
    (hlength : gaps.length = (scan text line column).tokens.length + 1)
    (hblanks : ∀ gap ∈ gaps, Blanks gap) (hinner : ∀ gap ∈ gaps.tail.dropLast, gap ≠ []) :
    let s := scan text line column
    let respaced := String.ofList (weave gaps (s.tokens.map (·.text.toList)))
    let s' := scan respaced line' column'
    s'.unexpected = none ∧ s'.tokens.map (·.lexeme) = s.tokens.map (·.lexeme) ∧
      s'.tokens.map (·.text) = s.tokens.map (·.text) := by
  intro s respaced s'
  obtain ⟨hwords, hchain⟩ := scanFrom_words ⟨line, column, 0⟩ text.toList
  have hscan := scanFrom_weave hwords hchain ⟨line', column', 0⟩ hlength hblanks hinner
  have hs' : s' = scanFrom ⟨line', column', 0⟩ (weave gaps (s.tokens.map (·.text.toList))) := by
    show scan _ _ _ = _
    rw [scan, String.toList_ofList]
  rw [hs']
  exact hscan

/-- The unit `e3` is part of its token with the blank before it; the unit `e` does not take the sign
behind it for that of an exponent. -/
theorem scan_respaced_of_definition :
    let s := scan "f(2 e3)=4e +y" 1 1
    let gaps := [['\t'], [' '], [' '], [' ', ' '], [' '], [' '], ['\t'], [' '], []]
    let respaced := String.ofList (weave gaps (s.tokens.map (·.text.toList)))
    s.tokens.map (·.text) = ["f", "(", "2 e3", ")", "=", "4e", "+", "y"] ∧
      respaced = "\tf ( 2 e3  ) = 4e\t+ y" ∧
      (scan respaced 2 1).unexpected = none ∧
      (scan respaced 2 1).tokens.map (·.lexeme) = s.tokens.map (·.lexeme) := by
  intro s gaps respaced
  have htexts : s.tokens.map (·.text) = ["f", "(", "2 e3", ")", "=", "4e", "+", "y"] := by
    decide +kernel
  have hlength : gaps.length = s.tokens.length + 1 := by
    have hcount := congrArg List.length htexts
    rw [List.length_map] at hcount
    rw [hcount]
    rfl
  have hall : gaps.all (·.all Text.isInlineBlank) = true := by decide
  have hblanks : ∀ gap ∈ gaps, Blanks gap := fun gap hgap c hc =>
    List.all_eq_true.mp (List.all_eq_true.mp hall gap hgap) c hc
  obtain ⟨hexpected, hlexemes, -⟩ :=
    scan_respaced "f(2 e3)=4e +y" 1 1 2 1 hlength hblanks (by decide)
  exact ⟨htexts, by decide +kernel, hexpected, hlexemes⟩

end Reckon
