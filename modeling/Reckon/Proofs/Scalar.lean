import Reckon.Proofs.Decimal.Bits
import Reckon.Scalar

/-!
# Numbers and their forms

A number can be held as an exact integer and as a double. Scalars that are the same number have one
`canonical` form, so numbers can be compared with `=` there. The number NaN, which is not equal to
itself, is not equal to anything else either (`beq_self_of_beq`).

An integer other than zero has at most two forms, itself and one double (`eq_or_eq_of_beq_exact`).
-/

namespace Reckon

deriving instance DecidableEq for Scalar

namespace Scalar

/-- A double that is an integer, as that integer. -/
def canonical : Scalar → Scalar
  | exact n => exact n
  | float x =>
    if x.isFinite then
      match (Decimal.decode x).toInt? with
      | some n => exact n
      | none => float x
    else float x

@[simp]
theorem canonical_exact (n : Int) : (exact n).canonical = exact n := rfl

theorem canonical_float_eq {x : Float} {n : Int} (hfinite : x.isFinite = true)
    (hn : (Decimal.decode x).toInt? = some n) : (float x).canonical = exact n := by
  simp only [canonical, hfinite, hn, if_true]

theorem beq_exact_float (n : Int) (x : Float) :
    ((exact n == float x) = true ↔
      x.isFinite = true ∧ (Decimal.decode x).toInt? = some n) := by
  show (x.isFinite && (Decimal.decode x).toInt? == some n) = true ↔ _
  rw [Bool.and_eq_true, beq_iff_eq]

theorem beq_float_exact (n : Int) (x : Float) :
    ((float x == exact n) = true ↔
      x.isFinite = true ∧ (Decimal.decode x).toInt? = some n) :=
  beq_exact_float n x

theorem beq_exact_exact (m n : Int) : ((exact m == exact n) = true ↔ m = n) := by
  show (m == n) = true ↔ m = n
  exact beq_iff_eq

theorem toInt?_of_numerator {b : Decimal.Binary} (h : b.numerator = 0) : b.toInt? = some 0 := by
  unfold Decimal.Binary.toInt?
  simp [h]

/-- **The same number has one canonical form.** -/
theorem canonical_eq_of_beq {a b : Scalar} (h : (a == b) = true) : a.canonical = b.canonical := by
  cases a with
  | exact m =>
    cases b with
    | exact n => rw [(beq_exact_exact m n).mp h]
    | float y =>
      obtain ⟨hfinite, hm⟩ := (beq_exact_float m y).mp h
      rw [canonical_float_eq hfinite hm, canonical_exact]
  | float x =>
    cases b with
    | exact n =>
      obtain ⟨hfinite, hn⟩ := (beq_float_exact n x).mp h
      rw [canonical_float_eq hfinite hn, canonical_exact]
    | float y =>
      have hxy : (x == y) = true := h
      rcases Decimal.eq_or_zero_of_beq hxy with rfl | ⟨⟨hx, hx'⟩, hy, hy'⟩
      · rfl
      · rw [canonical_float_eq hx (toInt?_of_numerator hx'),
          canonical_float_eq hy (toInt?_of_numerator hy')]

/-- What is equal to something is equal to itself. -/
theorem beq_self_of_beq {a b : Scalar} (h : (a == b) = true) : (b == b) = true := by
  cases b with
  | exact n => exact (beq_exact_exact n n).mpr rfl
  | float y =>
    cases a with
    | exact m => exact Decimal.beq_self_of_isFinite ((beq_exact_float m y).mp h).1
    | float x =>
      have hxy : (x == y) = true := h
      have hyy : (y == y) = true := BEq.trans (BEq.symm hxy) hxy
      exact hyy

/-- **An integer other than zero has at most two forms.** -/
theorem eq_or_eq_of_beq_exact {a : Scalar} {n : Int} {x : Float} (hn : n ≠ 0)
    (hx : (exact n == float x) = true) (h : (a == exact n) = true) : a = exact n ∨ a = float x := by
  cases a with
  | exact m => exact .inl (by rw [(beq_exact_exact m n).mp h])
  | float y =>
    have hx := ((beq_exact_float n x).mp hx).2
    have hy := ((beq_float_exact n y).mp h).2
    exact .inr (by rw [Decimal.eq_of_toInt?_eq hy hx hn])

/-- Forms of one integer other than zero are the same number. -/
theorem beq_of_beq_exact {a b : Scalar} {n : Int} (hn : n ≠ 0) (ha : (a == exact n) = true)
    (hb : (b == exact n) = true) : (a == b) = true := by
  cases a with
  | exact m =>
    obtain rfl := (beq_exact_exact m n).mp ha
    cases b with
    | exact n => exact (beq_exact_exact m n).mpr ((beq_exact_exact n m).mp hb).symm
    | float y => exact hb
  | float x =>
    have hx := (beq_float_exact n x).mp ha
    cases b with
    | exact m =>
      obtain rfl := (beq_exact_exact m n).mp hb
      exact ha
    | float y =>
      obtain rfl := Decimal.eq_of_toInt?_eq hx.2 ((beq_float_exact n y).mp hb).2 hn
      exact Decimal.beq_self_of_isFinite hx.1

/-! ### Exact arithmetic -/

@[simp]
theorem exact_add (m n : Int) : exact m + exact n = exact (m + n) := rfl

@[simp]
theorem exact_mul (m n : Int) : exact m * exact n = exact (m * n) := rfl

@[simp]
theorem neg_exact (n : Int) : -exact n = exact (-n) := rfl

@[simp]
theorem isZero_exact (n : Int) : (exact n).isZero = decide (n = 0) := rfl

end Scalar

end Reckon
