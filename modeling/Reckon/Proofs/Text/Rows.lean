/-!
# Rows of printed texts

A text that is printed is cut at its line feeds into rows. Texts without line feeds that are joined by
line feeds are the rows of the whole (`rows_intercalate`), so the whole determines them. Digits and
whole numbers have no line feeds.
-/

namespace Reckon.Text

/-- The rows of a text. -/
def rows (s : String) : List (List Char) := s.toList.splitOn '\n'

/-- The text has no line feed, so that it can be a row. -/
def IsRow (s : String) : Prop := '\n' ∉ s.toList

instance (s : String) : Decidable (IsRow s) := inferInstanceAs (Decidable ('\n' ∉ s.toList))

@[simp] theorem isRow_append {s t : String} : IsRow (s ++ t) ↔ IsRow s ∧ IsRow t := by
  simp [IsRow]

@[simp] theorem isRow_ofList {cs : List Char} : IsRow (String.ofList cs) ↔ '\n' ∉ cs := by
  simp [IsRow]

/-- **Rows that are joined are the rows of the whole.** -/
theorem rows_intercalate {ls : List String} (hne : ls ≠ []) (h : ∀ l ∈ ls, IsRow l) :
    rows ("\n".intercalate ls) = ls.map String.toList := by
  unfold rows
  rw [String.toList_intercalate]
  refine List.splitOn_intercalate '\n' (fun row hrow => ?_) (by simpa using hne)
  obtain ⟨l, hl, rfl⟩ := List.mem_map.mp hrow
  exact h l hl

theorem notMem_toDigits {b : Nat} (hb : 1 < b) (n : Nat) : '\n' ∉ Nat.toDigits b n := by
  induction n using Nat.strongRecOn with
  | _ n ih =>
    rw [Nat.toDigits_eq_if hb]
    split
    · simp
    · rename_i hle
      have hpos : 0 < n := by omega
      have hfront := ih (n / b) (Nat.div_lt_self hpos hb)
      simp [hfront]

@[simp] theorem isRow_toString (n : Int) : IsRow (toString n) := by
  have hnat : ∀ m : Nat, IsRow m.repr := fun m => by
    rw [IsRow, Nat.toList_repr]
    exact notMem_toDigits (by decide) m
  cases n with
  | ofNat m => exact hnat m
  | negSucc m => exact isRow_append.mpr ⟨by decide, hnat _⟩

end Reckon.Text
