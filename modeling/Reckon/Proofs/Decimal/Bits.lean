import Mathlib
import Reckon.Decimal.Binary

/-!
# When two doubles are equal

The bits of a double are a sign, an exponent and a mantissa. Doubles that compare equal have the
same bits, unless both are zeros, which may differ in their signs (`eq_or_zero_of_beq`). A double is
determined by the integer that it stands for, if that is not zero (`eq_of_toInt?_eq`), and a finite
one equals itself (`beq_self_of_isFinite`). What is divided by one that equals zero does not stay
finite (`isFinite_div_of_beq_zero`); the opposite of a finite one does (`isFinite_neg`).

The whole library is imported for its lemmas about packing and comparing doubles, which none of its
smaller modules passes on.
-/

namespace Reckon.Decimal

/-- The number that is read off the bits has the parts of the bits. -/
theorem decode_cases (x : Float) :
    (decode x).negative = decide (2 ^ 63 ≤ x.toBits.toNat) ∧
      ((x.toBits.toNat / 2 ^ 52 % 2 ^ 11 = 0 ∧ (decode x).mantissa = x.toBits.toNat % 2 ^ 52 ∧
          (decode x).exponent = -1074) ∨
        x.toBits.toNat / 2 ^ 52 % 2 ^ 11 ≠ 0 ∧
          (decode x).mantissa = x.toBits.toNat % 2 ^ 52 + 2 ^ 52 ∧
          (decode x).exponent = (x.toBits.toNat / 2 ^ 52 % 2 ^ 11 : Nat) - 1075) := by
  unfold decode
  simp only
  split
  · rename_i hbiased
    exact ⟨rfl, .inl ⟨hbiased, rfl, rfl⟩⟩
  · rename_i hbiased
    exact ⟨rfl, .inr ⟨hbiased, rfl, rfl⟩⟩

theorem eq_of_decode_eq {x y : Float} (hsign : (decode x).negative = (decode y).negative)
    (hmantissa : (decode x).mantissa = (decode y).mantissa)
    (hexponent : (decode x).exponent = (decode y).exponent) : x = y := by
  have hlt := x.toBits.toNat_lt
  have hlt' := y.toBits.toNat_lt
  obtain ⟨hs, hparts⟩ := decode_cases x
  obtain ⟨hs', hparts'⟩ := decode_cases y
  rw [hs, hs', decide_eq_decide] at hsign
  rw [hmantissa, hexponent] at hparts
  apply Float.toBits_inj.mp
  apply UInt64.toNat_inj.mp
  omega

/-- The smallest doubles have the smallest exponent; all others have a full mantissa. -/
theorem decode_bounds (x : Float) :
    (decode x).mantissa < 2 ^ 53 ∧ -1074 ≤ (decode x).exponent ∧
      (-1074 < (decode x).exponent → 2 ^ 52 ≤ (decode x).mantissa) := by
  obtain ⟨-, hparts⟩ := decode_cases x
  omega

/-- Of two forms of one number, the one with a full mantissa does not have the greater exponent. -/
theorem exponent_le_of_mul_eq {m m' : Nat} {e e' : Int} (hm : m < 2 ^ 53)
    (he : -1074 ≤ e) (hm' : -1074 < e' → 2 ^ 52 ≤ m')
    (h : m * 2 ^ e.toNat * 2 ^ (-e').toNat = m' * 2 ^ e'.toNat * 2 ^ (-e).toNat) : e' ≤ e := by
  refine Int.not_lt.mp fun hlt => ?_
  -- both sides have the same power of two, and the right one has more
  have hsum : e'.toNat + (-e).toNat = (e' - e).toNat + (e.toNat + (-e').toNat) := by omega
  have hleft : m * 2 ^ e.toNat * 2 ^ (-e').toNat = m * 2 ^ (e.toNat + (-e').toNat) := by
    rw [Nat.mul_assoc, ← Nat.pow_add]
  have hright : m' * 2 ^ e'.toNat * 2 ^ (-e).toNat =
      m' * 2 ^ (e' - e).toNat * 2 ^ (e.toNat + (-e').toNat) := by
    rw [Nat.mul_assoc, ← Nat.pow_add, hsum, Nat.pow_add, Nat.mul_assoc]
  rw [hleft, hright] at h
  have hcancel := Nat.eq_of_mul_eq_mul_right (Nat.two_pow_pos _) h
  have htwo : 2 ^ 1 ≤ 2 ^ (e' - e).toNat := Nat.pow_le_pow_right (by decide) (by omega)
  have hge : 2 ^ 52 * 2 ^ 1 ≤ m' * 2 ^ (e' - e).toNat := Nat.mul_le_mul (hm' (by omega)) htwo
  omega

namespace Binary

variable {b : Binary} {n : Int}

theorem numerator_eq (h : b.toInt? = some n) : b.numerator = n * b.denominator := by
  unfold toInt? at h
  split at h
  · rename_i hmod
    obtain rfl := Option.some.inj h
    rw [Int.ediv_mul_cancel (Int.dvd_of_emod_eq_zero hmod)]
  · cases h

theorem natAbs_numerator (b : Binary) : b.numerator.natAbs = b.mantissa * 2 ^ b.exponent.toNat := by
  unfold numerator fraction
  split
  · rw [Int.natAbs_neg, Int.natAbs_natCast]
    rfl
  · rw [Int.natAbs_natCast]
    rfl

theorem denominator_eq (b : Binary) : b.denominator = ((2 ^ (-b.exponent).toNat : Nat) : Int) := rfl

theorem denominator_pos (b : Binary) : 0 < b.denominator :=
  Int.natCast_pos.mpr (Nat.two_pow_pos _)

theorem mantissa_eq (h : b.toInt? = some n) :
    b.mantissa * 2 ^ b.exponent.toNat = n.natAbs * 2 ^ (-b.exponent).toNat := by
  rw [← natAbs_numerator, numerator_eq h, Int.natAbs_mul, denominator_eq, Int.natAbs_natCast]

theorem negative_eq (h : b.toInt? = some n) (hn : n ≠ 0) : b.negative = decide (n < 0) := by
  have hnumerator := numerator_eq h
  have hpos := b.denominator_pos
  unfold numerator at hnumerator
  rcases Int.lt_or_gt_of_ne hn with hneg | hpos'
  · have hproduct : n * b.denominator < 0 := Int.mul_neg_of_neg_of_pos hneg hpos
    cases hsign : b.negative
    · simp only [hsign, Bool.false_eq_true, if_false] at hnumerator
      omega
    · simp [hneg]
  · have hproduct : 0 < n * b.denominator := Int.mul_pos hpos' hpos
    cases hsign : b.negative
    · simp only [false_eq_decide_iff]
      omega
    · simp only [hsign, if_true] at hnumerator
      omega

end Binary

/-- **A double is determined by its integer value**, unless that is zero. -/
theorem eq_of_toInt?_eq {x y : Float} {n : Int} (hx : (decode x).toInt? = some n)
    (hy : (decode y).toInt? = some n) (hn : n ≠ 0) : x = y := by
  have hsign := (Binary.negative_eq hx hn).trans (Binary.negative_eq hy hn).symm
  obtain ⟨hlt, hmin, hfull⟩ := decode_bounds x
  obtain ⟨hlt', hmin', hfull'⟩ := decode_bounds y
  have hvalue := Binary.mantissa_eq hx
  have hvalue' := Binary.mantissa_eq hy
  -- both numbers are `n`, so they are compared without their denominators
  have hcross : (decode x).mantissa * 2 ^ (decode x).exponent.toNat *
      2 ^ (-(decode y).exponent).toNat = (decode y).mantissa * 2 ^ (decode y).exponent.toNat *
      2 ^ (-(decode x).exponent).toNat := by
    rw [hvalue, hvalue', Nat.mul_assoc, Nat.mul_assoc, Nat.mul_comm (2 ^ _)]
  have hexponent : (decode x).exponent = (decode y).exponent :=
    Int.le_antisymm (exponent_le_of_mul_eq hlt' hmin' hfull hcross.symm)
      (exponent_le_of_mul_eq hlt hmin hfull' hcross)
  refine eq_of_decode_eq hsign ?_ hexponent
  rw [hexponent] at hvalue
  exact Nat.eq_of_mul_eq_mul_right (Nat.two_pow_pos _) (hvalue.trans hvalue'.symm)

theorem decode_zero : (0 : Float).isFinite = true ∧ (decode 0).numerator = 0 := ⟨rfl, rfl⟩

theorem decode_neg_zero : (-0 : Float).isFinite = true ∧ (decode (-0)).numerator = 0 := by decide

/-- **Doubles that compare equal are the same**, unless both are zeros. -/
theorem eq_or_zero_of_beq {x y : Float} (h : (x == y) = true) :
    x = y ∨ (x.isFinite = true ∧ (decode x).numerator = 0) ∧
      y.isFinite = true ∧ (decode y).numerator = 0 := by
  obtain ⟨-, -, heq | ⟨rfl, rfl⟩ | ⟨rfl, rfl⟩⟩ := Float.beq_iff_ne_nan_and_eq.mp h
  · exact .inl heq
  · exact .inr ⟨decode_zero, decode_neg_zero⟩
  · exact .inr ⟨decode_neg_zero, decode_zero⟩

/-- **A finite double equals itself.** -/
theorem beq_self_of_isFinite {x : Float} (h : x.isFinite = true) : (x == x) = true := by
  refine Float.beq_self_iff.mpr fun hnan => ?_
  rw [hnan] at h
  cases h

theorem eq_zero_of_beq_zero {y : Float} (h : (y == 0) = true) : y = 0 ∨ y = -0 := by
  obtain ⟨-, -, rfl | ⟨rfl, -⟩ | ⟨rfl, -⟩⟩ := Float.beq_iff_ne_nan_and_eq.mp h
  · exact .inl rfl
  · exact .inl rfl
  · exact .inr rfl

open Float.Model in
theorem unpack_of_beq_zero {y : Float} (h : (y == 0) = true) :
    ∃ sign, y.toModel.unpack = .zero sign := by
  rcases eq_zero_of_beq_zero h with rfl | rfl
  · exact ⟨.positive, rfl⟩
  · exact ⟨.negative, rfl⟩

open Float.Model in
/-- **A quotient by zero is not finite**, whatever is divided. -/
theorem isFinite_div_of_beq_zero (x : Float) {y : Float} (h : (y == 0) = true) :
    (x / y).isFinite = false := by
  obtain ⟨sign, hzero⟩ := unpack_of_beq_zero h
  have hinfinity : ∀ s, (pack (.infinity s)).isFinite = false := by
    intro s
    cases s <;> decide
  have hnan : (pack .notANumber).isFinite = false := by decide
  show (pack (UnpackedFloat.div Format.binary64 x.toModel.unpack y.toModel.unpack)).isFinite = false
  rw [hzero]
  cases x.toModel.unpack with
  | notANumber | zero => exact hnan
  | infinity | finite => exact hinfinity _

open Float.Model.UnpackedFloat

/-- Infinities and NaN are the bits with the greatest exponent. -/
theorem isFinite_unpack (b : BitVec Float.Model.Format.binary64.numBits) :
    (unpack .binary64 b).isFinite = decide (unpackExponent b ≠ -1#_) := by
  unfold unpack
  simp only
  split
  · rename_i hexponent
    rw [decide_eq_false (not_not_intro hexponent)]
    split <;> rfl
  · rename_i hexponent
    rw [decide_eq_true hexponent]
    split
    · split <;> rfl
    · rfl

/-- The sign of a number has no part in the exponent. -/
theorem unpackExponent_pack_neg (f : Float.Model.UnpackedFloat) :
    unpackExponent (pack .binary64 f.neg) = unpackExponent (pack .binary64 f) := by
  cases f with
  | notANumber => rfl
  | infinity s => simp only [neg, pack, packedInfinity, unpackExponent_packComponents]
  | zero s => simp only [neg, pack, packedZero, unpackExponent_packComponents]
  | finite s m e h =>
    simp only [neg, pack]
    split
    · simp only [packedInfinity, unpackExponent_packComponents]
    · split <;> simp only [unpackExponent_packComponents]

/-- **The opposite of a double is finite if and only if the double is.** -/
theorem isFinite_neg (x : Float) : (-x).isFinite = x.isFinite := by
  have hbits : pack .binary64 x.toModel.unpack = x.toModel.toBits.toBitVec :=
    pack_unpack_of_valid x.toModel.valid
  show (unpack .binary64 (pack .binary64 x.toModel.unpack.neg)).isFinite =
    (unpack .binary64 x.toModel.toBits.toBitVec).isFinite
  rw [isFinite_unpack, isFinite_unpack, unpackExponent_pack_neg, hbits]

end Reckon.Decimal
