import Mathlib.Algebra.Group.Nat.Defs
import Reckon.Proofs.Text.Rows
import Reckon.Text.Quoted

/-!
# Quoted texts can be read back

A quoted text has no line feed (`isRow_quote`), and it tells where it ends: whatever stands behind two
quoted texts, they agree only if the texts do (`quote_append_inj`). The quote in front is the quote that
ends the text. In between, each character is written so that it can be read again (`unescape_append`),
and never starts with that quote.
-/

namespace Reckon.Text

/-! ### Hexadecimal numbers -/

/-- The value of a hexadecimal digit. -/
def hexadecimalDigit (c : Char) : Nat :=
  if c.isDigit then c.toNat - '0'.toNat else c.toNat - 'a'.toNat + 10

/-- The number that hexadecimal digits stand for. -/
def readHexadecimal (cs : List Char) : Nat :=
  cs.foldl (fun n c => 16 * n + hexadecimalDigit c) 0

theorem hexadecimalDigit_digitChar : ∀ d < 16, hexadecimalDigit (Nat.digitChar d) = d := by decide

theorem readHexadecimal_concat (cs : List Char) (c : Char) :
    readHexadecimal (cs ++ [c]) = 16 * readHexadecimal cs + hexadecimalDigit c := by
  simp [readHexadecimal]

theorem readHexadecimal_toDigits (n : Nat) : readHexadecimal (Nat.toDigits 16 n) = n := by
  induction n using Nat.strongRecOn with
  | _ n ih =>
    rw [Nat.toDigits_eq_if (by decide)]
    split
    · rename_i hlt
      show 16 * 0 + hexadecimalDigit n.digitChar = n
      rw [hexadecimalDigit_digitChar n hlt]
      omega
    · rename_i hle
      rw [readHexadecimal_concat, ih (n / 16) (by omega),
        hexadecimalDigit_digitChar _ (Nat.mod_lt n (by decide))]
      omega

theorem readHexadecimal_hexadecimal (width n : Nat) :
    readHexadecimal (hexadecimal width n) = n := by
  have hzeros : ∀ k, readHexadecimal (List.replicate k '0') = 0 := by
    intro k
    induction k with
    | zero => rfl
    | succ k ih => rw [List.replicate_succ', readHexadecimal_concat, ih]; rfl
  have hfront := hzeros (width - (Nat.toDigits 16 n).length)
  unfold readHexadecimal at hfront
  rw [hexadecimal, readHexadecimal, List.foldl_append, hfront]
  exact readHexadecimal_toDigits n

theorem length_hexadecimal {width n : Nat} (hwidth : 0 < width) (h : n < 16 ^ width) :
    (hexadecimal width n).length = width := by
  have hle := (Nat.length_toDigits_le_iff (b := 16) (by decide) hwidth).mpr h
  rw [hexadecimal, List.length_append, List.length_replicate]
  omega

theorem notMem_hexadecimal (width n : Nat) : '\n' ∉ hexadecimal width n := by
  rw [hexadecimal, List.mem_append, List.mem_replicate]
  rintro (⟨-, h⟩ | h)
  · exact absurd h (by decide)
  · exact notMem_toDigits (by decide) n h

/-! ### Characters between quotes -/

/-- Reads the character of that many hexadecimal digits. -/
def readCode (width : Nat) (cs : List Char) : Char × List Char :=
  (Char.ofNat (readHexadecimal (cs.take width)), cs.drop width)

/-- Reads a character that is written between quotes, and what stands behind it. -/
def unescape : List Char → Char × List Char
  | '\\' :: 'n' :: rest => ('\n', rest)
  | '\\' :: 'r' :: rest => ('\r', rest)
  | '\\' :: 't' :: rest => ('\t', rest)
  | '\\' :: 'x' :: rest => readCode 2 rest
  | '\\' :: 'u' :: rest => readCode 4 rest
  | '\\' :: 'U' :: rest => readCode 8 rest
  | '\\' :: c :: rest => (c, rest)
  | c :: rest => (c, rest)
  | [] => default

theorem readCode_append {width : Nat} {c : Char} (hwidth : 0 < width) (h : c.toNat < 16 ^ width)
    (rest : List Char) : readCode width (hexadecimal width c.toNat ++ rest) = (c, rest) := by
  have hlength := length_hexadecimal hwidth h
  rw [readCode, List.take_left' hlength, List.drop_left' hlength, readHexadecimal_hexadecimal,
    Char.ofNat_toNat]

/-- A quote that can surround a text. -/
def IsMark (mark : Char) : Prop := mark = '\x27' ∨ mark = '\x22'

instance (mark : Char) : Decidable (IsMark mark) :=
  inferInstanceAs (Decidable (mark = '\x27' ∨ mark = '\x22'))

theorem isMark_quoteMark (cs : List Char) : IsMark (quoteMark cs) := by
  unfold quoteMark
  split
  · exact .inr rfl
  · exact .inl rfl

theorem IsMark.ne {mark c : Char} (hmark : IsMark mark) (hc : ¬ IsMark c) : c ≠ mark := by
  rintro rfl
  exact hc hmark

section

variable {mark : Char} (hmark : IsMark mark)

include hmark

/-- **A character between quotes can be read again**, whatever stands behind it. -/
theorem unescape_append (c : Char) (rest : List Char) :
    unescape (escapeChar mark c ++ rest) = (c, rest) := by
  fun_cases escapeChar mark c with
  | case1 hc =>
    obtain rfl | rfl | rfl : c = '\\' ∨ c = '\x27' ∨ c = '\x22' :=
      hc.imp_right fun hc => by rwa [hc]
    · rfl
    · rfl
    · rfl
  | case2 _ hc => rw [hc]; rfl
  | case3 _ _ hc => rw [hc]; rfl
  | case4 _ _ _ hc => rw [hc]; rfl
  | case5 hplain =>
    show unescape (c :: rest) = (c, rest)
    unfold unescape
    split <;> simp_all
  | case6 _ _ _ _ _ hlt => exact readCode_append (by decide) hlt rest
  | case7 _ _ _ _ _ _ hlt => exact readCode_append (by decide) hlt rest
  | case8 =>
    have hvalid : c.toNat < 16 ^ 8 := c.val.toNat_lt
    exact readCode_append (by decide) hvalid rest

/-- No character between quotes starts with the quote itself. -/
theorem head_escapeChar (c : Char) : ∃ d cs, escapeChar mark c = d :: cs ∧ d ≠ mark := by
  have hbackslash : '\\' ≠ mark := hmark.ne (by decide)
  fun_cases escapeChar mark c with
  | case5 hplain => exact ⟨c, [], rfl, fun hc => hplain (.inr hc)⟩
  | _ => exact ⟨_, _, rfl, hbackslash⟩

theorem notMem_escapeChar (c : Char) : '\n' ∉ escapeChar mark c := by
  have hcode : ∀ letter width, letter ≠ '\n' →
      '\n' ∉ ['\\', letter] ++ hexadecimal width c.toNat := by
    intro letter width hletter hmem
    rcases List.mem_append.mp hmem with h | h
    · simp [hletter.symm] at h
    · exact notMem_hexadecimal width c.toNat h
  fun_cases escapeChar mark c with
  | case1 hc =>
    have hline : '\n' ≠ c := by
      rcases hc with rfl | rfl
      · decide
      · exact hmark.ne (by decide)
    simp [hline]
  | case2 => decide
  | case3 => decide
  | case4 => decide
  | case5 _ hline => exact fun h => hline (List.mem_singleton.mp h).symm
  | case6 => exact hcode 'x' 2 (by decide)
  | case7 => exact hcode 'u' 4 (by decide)
  | case8 => exact hcode 'U' 8 (by decide)

/-- **What stands between two quotes is determined**, and so is what stands behind the second one. -/
theorem escape_append_inj {cs ds rest rest' : List Char}
    (h : cs.flatMap (escapeChar mark) ++ mark :: rest =
      ds.flatMap (escapeChar mark) ++ mark :: rest') : cs = ds ∧ rest = rest' := by
  induction cs generalizing ds with
  | nil =>
    cases ds with
    | nil => exact ⟨rfl, (List.cons.inj h).2⟩
    | cons d ds =>
      obtain ⟨e, es, hd, hne⟩ := head_escapeChar hmark d
      rw [List.flatMap_cons, hd] at h
      exact absurd (List.cons.inj h).1.symm hne
  | cons c cs ih =>
    cases ds with
    | nil =>
      obtain ⟨e, es, hc, hne⟩ := head_escapeChar hmark c
      rw [List.flatMap_cons, hc] at h
      exact absurd (List.cons.inj h).1 hne
    | cons d ds =>
      rw [List.flatMap_cons, List.flatMap_cons, List.append_assoc, List.append_assoc] at h
      have hread := congrArg unescape h
      rw [unescape_append hmark, unescape_append hmark, Prod.mk.injEq] at hread
      obtain ⟨rfl, hbehind⟩ := hread
      obtain ⟨rfl, hrest⟩ := ih hbehind
      exact ⟨rfl, hrest⟩

end

/-! ### Quoted texts -/

theorem toList_quote (s : String) :
    (quote s).toList = quoteMark s.toList ::
      (s.toList.flatMap (escapeChar (quoteMark s.toList)) ++ [quoteMark s.toList]) :=
  String.toList_ofList

/-- **A quoted text tells where it ends.** -/
theorem quote_append_inj {s t : String} {rest rest' : List Char}
    (h : (quote s).toList ++ rest = (quote t).toList ++ rest') : s = t ∧ rest = rest' := by
  rw [toList_quote, toList_quote] at h
  rw [List.cons_append, List.cons_append, List.append_assoc, List.append_assoc] at h
  obtain ⟨hmark, hbehind⟩ := List.cons.inj h
  rw [hmark] at hbehind
  obtain ⟨hs, hrest⟩ := escape_append_inj (isMark_quoteMark t.toList) hbehind
  exact ⟨String.toList_inj.mp hs, hrest⟩

@[simp] theorem quote_append {s t rest rest' : String} :
    quote s ++ rest = quote t ++ rest' ↔ s = t ∧ rest = rest' := by
  constructor
  · intro h
    have hlist := congrArg String.toList h
    rw [String.toList_append, String.toList_append] at hlist
    exact (quote_append_inj hlist).imp_right String.toList_inj.mp
  · rintro ⟨rfl, rfl⟩
    rfl

@[simp] theorem quote_inj {s t : String} : quote s = quote t ↔ s = t := by
  simpa using @quote_append s t "" ""

/-- A text that does not start with a quote does not start with a quoted text. -/
theorem ne_quote_append {t : String} {c : Char} (ht : t.toList.head? = some c) (hc : ¬ IsMark c)
    (s rest : String) : t ≠ quote s ++ rest := by
  rintro rfl
  rw [String.toList_append, toList_quote] at ht
  obtain rfl : quoteMark s.toList = c := Option.some.inj ht
  exact hc (isMark_quoteMark s.toList)

@[simp] theorem isRow_quote (s : String) : IsRow (quote s) := by
  have hmark := isMark_quoteMark s.toList
  have hline : '\n' ≠ quoteMark s.toList := hmark.ne (by decide)
  have hescaped : '\n' ∉ s.toList.flatMap (escapeChar (quoteMark s.toList)) := by
    intro hmem
    obtain ⟨c, -, hc⟩ := List.mem_flatMap.mp hmem
    exact notMem_escapeChar hmark c hc
  rw [IsRow, toList_quote]
  simp [hline, hescaped]

end Reckon.Text
