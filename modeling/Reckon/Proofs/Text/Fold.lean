import Mathlib.Data.List.DropRight
import Reckon.Text.Blank
import Reckon.Text.Fold

/-!
# Folding once is enough

A text that has been folded is not changed by folding it again (`fold_fold`), and folding neither
makes nor removes a blank (`isBlank_of_mem_foldChar`). So it does not matter whether a text is
trimmed before it is folded or afterwards (`trim_fold`).

All characters that fold to something else are listed with their folded forms (`foldPairs`). That no
folded form is in the list again is checked on the bits of one number.
-/

namespace Reckon.Text

/-! ### Sets of codes as numbers -/

/-- The number with the given bits. -/
def bitSet : List Nat → Nat
  | [] => 0
  | n :: rest => 1 <<< n ||| bitSet rest

theorem testBit_bitSet {codes : List Nat} {code : Nat} :
    (bitSet codes).testBit code = true ↔ code ∈ codes := by
  induction codes with
  | nil => simp [bitSet]
  | cons n rest ih =>
    rw [bitSet, Nat.testBit_or, Bool.or_eq_true, ih, List.mem_cons, Nat.one_shiftLeft,
      Nat.testBit_two_pow, decide_eq_true_eq, eq_comm]

/-- The codes of a progression in order. -/
def CodeRange.codes (r : CodeRange) : List Nat :=
  (List.range ((r.last - r.first) / r.step + 1)).map fun i => r.first + r.step * i

theorem CodeRange.mem_codes {r : CodeRange} {code : Nat} (h : r.contains code = true) :
    code ∈ r.codes := by
  simp only [contains, Bool.and_eq_true, decide_eq_true_eq, beq_iff_eq] at h
  obtain ⟨⟨hfirst, hlast⟩, hstep⟩ := h
  have hle : (code - r.first) / r.step ≤ (r.last - r.first) / r.step :=
    Nat.div_le_div_right (Nat.sub_le_sub_right hlast _)
  have hmul : r.step * ((code - r.first) / r.step) = code - r.first :=
    Nat.mul_div_cancel' (Nat.dvd_of_mod_eq_zero hstep)
  exact List.mem_map.mpr ⟨_, List.mem_range.mpr (Nat.lt_succ_of_le hle), by omega⟩

/-- The codes of the blank characters. -/
def blankCodes : List Nat := blankRanges.flatMap CodeRange.codes

theorem mem_blankCodes {c : Char} (h : isBlank c = true) : c.toNat ∈ blankCodes := by
  obtain ⟨r, hr, hcode⟩ := List.any_eq_true.mp h
  exact List.mem_flatMap.mpr ⟨r, hr, CodeRange.mem_codes hcode⟩

/-! ### Single characters -/

/-- The characters that fold to something else, with their folded forms. -/
def foldPairs : List (Nat × List Char) :=
  (List.range 26).map (fun i => (0x41 + i, [Char.ofNat (0x61 + i)])) ++
    foldRuns.flatMap (fun run =>
      run.codes.codes.map fun (code : Nat) => (code, [Char.ofNat (code + run.shift).toNat])) ++
    foldExpansions.map fun e => (e.1, e.2.map Char.ofNat)

/-- The codes of the characters that fold to something else. -/
def foldableCodes : List Nat := foldPairs.map (·.1)

theorem toLower_cases (c : Char) :
    c.toLower = c ∨ ∃ i < 26, c.toNat = 0x41 + i ∧ c.toLower = Char.ofNat (0x61 + i) := by
  have hcapitals : ∀ i < 26, (Char.ofNat (0x41 + i)).toLower = Char.ofNat (0x61 + i) := by decide
  by_cases h : 0x41 ≤ c.toNat ∧ c.toNat ≤ 0x5a
  · have hcode : c.toNat = 0x41 + (c.toNat - 0x41) := by omega
    refine .inr ⟨c.toNat - 0x41, by omega, hcode, ?_⟩
    rw [← hcapitals _ (by omega), ← hcode, Char.ofNat_toNat]
  · left
    unfold Char.toLower
    rw [dif_neg]
    exact h

theorem foldChar_cases (c : Char) :
    foldChar c = [c] ∨ (c.toNat, foldChar c) ∈ foldPairs := by
  unfold foldPairs
  rw [List.mem_append, List.mem_append]
  unfold foldChar
  split
  · rcases toLower_cases c with h | ⟨i, hi, hcode, hlower⟩
    · exact .inl (by rw [h])
    · exact .inr (.inl (.inl (List.mem_map.mpr ⟨i, List.mem_range.mpr hi, by rw [hcode, hlower]⟩)))
  · split
    · rename_i run hrun
      have hcode := List.find?_some (p := fun run : FoldRun => run.codes.contains c.toNat) hrun
      refine .inr (.inl (.inr (List.mem_flatMap.mpr ⟨run, List.mem_of_find?_eq_some hrun, ?_⟩)))
      exact List.mem_map.mpr ⟨c.toNat, CodeRange.mem_codes hcode, rfl⟩
    · split
      · rename_i codes hlookup
        obtain ⟨before, after, hsplit, -⟩ := List.lookup_eq_some_iff.mp hlookup
        refine .inr (.inr (List.mem_map.mpr ⟨(c.toNat, codes), ?_, rfl⟩))
        rw [hsplit]
        simp
      · exact .inl rfl

/-- Whether a folded form has characters, all of which are neither blank nor fold any further. -/
def isFinal (cs : List Char) : Bool :=
  !cs.isEmpty && cs.all fun d => !(bitSet (foldableCodes ++ blankCodes)).testBit d.toNat

theorem isFinal_foldPairs : (foldPairs.all fun p => isFinal p.2) = true := by
  decide +kernel

theorem not_foldable_blank :
    (blankCodes.all fun code => !(bitSet foldableCodes).testBit code) = true := by
  decide +kernel

section Char

variable {c d : Char}

theorem foldChar_of_not_foldable (h : c.toNat ∉ foldableCodes) : foldChar c = [c] :=
  (foldChar_cases c).resolve_right fun hpair => h (List.mem_map.mpr ⟨_, hpair, rfl⟩)

theorem isFinal_foldChar (h : (c.toNat, foldChar c) ∈ foldPairs) :
    foldChar c ≠ [] ∧ ∀ d ∈ foldChar c, d.toNat ∉ foldableCodes ∧ isBlank d = false := by
  have hfinal := List.all_eq_true.mp isFinal_foldPairs _ h
  unfold isFinal at hfinal
  rw [Bool.and_eq_true, Bool.not_eq_true', List.isEmpty_eq_false_iff, List.all_eq_true] at hfinal
  refine ⟨hfinal.1, fun d hd => ?_⟩
  have hcode : d.toNat ∉ foldableCodes ++ blankCodes := by
    rw [← testBit_bitSet, Bool.not_eq_true, ← Bool.not_eq_true']
    exact hfinal.2 d hd
  rw [List.mem_append, not_or] at hcode
  exact ⟨hcode.1, Bool.eq_false_iff.mpr fun hblank => hcode.2 (mem_blankCodes hblank)⟩

theorem foldChar_ne_nil (c : Char) : foldChar c ≠ [] := by
  rcases foldChar_cases c with h | h
  · simp [h]
  · exact (isFinal_foldChar h).1

/-- **A folded character does not fold any further.** -/
theorem foldChar_of_mem (h : d ∈ foldChar c) : foldChar d = [d] := by
  rcases foldChar_cases c with hc | hc
  · rw [hc, List.mem_singleton] at h
    rw [h, hc]
  · exact foldChar_of_not_foldable ((isFinal_foldChar hc).2 d h).1

/-- **Folding neither makes nor removes a blank.** -/
theorem isBlank_of_mem_foldChar (h : d ∈ foldChar c) : isBlank d = isBlank c := by
  rcases foldChar_cases c with hc | hc
  · rw [hc, List.mem_singleton] at h
    rw [h]
  · rw [((isFinal_foldChar hc).2 d h).2, eq_comm, Bool.eq_false_iff]
    intro hblank
    have hcode := List.all_eq_true.mp not_foldable_blank _ (mem_blankCodes hblank)
    rw [Bool.not_eq_true', ← Bool.not_eq_true, testBit_bitSet] at hcode
    exact hcode (List.mem_map.mpr ⟨_, hc, rfl⟩)

end Char

/-! ### Texts -/

theorem toList_fold (s : String) : (fold s).toList = s.toList.flatMap foldChar :=
  String.toList_ofList

/-- **Folding twice is folding once.** -/
theorem fold_fold (s : String) : fold (fold s) = fold s := by
  have hfold : ∀ cs : List Char, (cs.flatMap foldChar).flatMap foldChar = cs.flatMap foldChar := by
    intro cs
    rw [List.flatMap_assoc]
    refine List.flatMap_congr fun c _ => ?_
    rw [List.flatMap_congr fun d hd => foldChar_of_mem hd, List.flatMap_singleton']
  rw [← String.toList_inj, toList_fold, toList_fold, hfold]

/-- Where every element is replaced by some of its kind, a run of a kind ends where it did. -/
theorem dropWhile_flatMap {α : Type} {p : α → Bool} {f : α → List α} (hne : ∀ a, f a ≠ [])
    (hkind : ∀ a, ∀ b ∈ f a, p b = p a) (l : List α) :
    (l.flatMap f).dropWhile p = (l.dropWhile p).flatMap f := by
  induction l with
  | nil => rfl
  | cons a l ih =>
    rw [List.flatMap_cons]
    cases ha : p a with
    | true =>
      rw [List.dropWhile_append_of_pos fun b hb => (hkind a b hb).trans ha, ih,
        List.dropWhile_cons_of_pos ha]
    | false =>
      obtain ⟨b, rest, hb⟩ := List.exists_cons_of_ne_nil (hne a)
      have hfirst : p b = false := (hkind a b (by simp [hb])).trans ha
      rw [List.dropWhile_cons_of_neg (by simp [ha]), List.flatMap_cons, hb, List.cons_append,
        List.dropWhile_cons_of_neg (by simp [hfirst])]

/-- A text can be trimmed before or after folding. -/
theorem trim_fold (s : String) : trim (fold s) = fold (trim s) := by
  have hstart : ∀ {f : Char → List Char}, (∀ c, f c ≠ []) →
      (∀ c, ∀ d ∈ f c, isBlank d = isBlank c) → ∀ cs : List Char,
      trimStart (cs.flatMap f) = (trimStart cs).flatMap f :=
    fun hne hkind cs => dropWhile_flatMap hne hkind cs
  have hend : ∀ cs : List Char, trimEnd (cs.flatMap foldChar) = (trimEnd cs).flatMap foldChar := by
    intro cs
    have hne : ∀ c, (List.reverse ∘ foldChar) c ≠ [] := fun c h =>
      foldChar_ne_nil c (List.reverse_eq_nil_iff.mp h)
    have hkind : ∀ c, ∀ d ∈ (List.reverse ∘ foldChar) c, isBlank d = isBlank c := fun c d hd =>
      isBlank_of_mem_foldChar (List.mem_reverse.mp hd)
    unfold trimEnd
    rw [List.reverse_flatMap, hstart hne hkind, List.flatMap_reverse]
  unfold trim
  rw [← String.toList_inj, toList_fold, toList_fold, String.toList_ofList, String.toList_ofList,
    hstart foldChar_ne_nil fun _ _ => isBlank_of_mem_foldChar, hend]

/-- A trimmed text has no blanks at its ends to be trimmed. -/
theorem trim_trim (s : String) : trim (trim s) = trim s := by
  have hstart : trimStart (trimEnd (trimStart s.toList)) = trimEnd (trimStart s.toList) := by
    obtain ⟨after, hafter⟩ := List.rdropWhile_prefix isBlank (trimStart s.toList)
    cases hends : trimEnd (trimStart s.toList) with
    | nil => rfl
    | cons c cs =>
      -- the first character was left by trimming the start
      have hcs : trimStart s.toList = c :: (cs ++ after) := by
        rw [← List.cons_append, ← hends]
        exact hafter.symm
      have hagain : trimStart (c :: (cs ++ after)) = c :: (cs ++ after) := by
        rw [← hcs]
        exact List.dropWhile_idempotent isBlank s.toList
      have hblank : isBlank c = false := by
        have hfirst := List.dropWhile_eq_self_iff.mp hagain (by simp)
        simpa using hfirst
      exact List.dropWhile_cons_of_neg (by simp [hblank])
  unfold trim
  rw [String.toList_ofList, hstart]
  exact congrArg String.ofList (List.rdropWhile_idempotent isBlank _)

end Reckon.Text
