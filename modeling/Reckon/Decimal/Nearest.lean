import Reckon.Decimal.Binary

/-!
# Rounding quotients

A quotient is rounded to an integer or to a double, without any rounding in between. Of two equally
near results the even one is taken.
-/

namespace Reckon.Decimal

/-- The natural number nearest to a quotient; of two equally near ones, the even one. -/
def nearestQuotient (num den : Nat) : Nat :=
  let below := num / den
  let rest := 2 * (num % den)
  if rest < den ∨ (rest = den ∧ below % 2 = 0) then below else below + 1

/-- The power of two of the last place of a positive quotient: its 53rd bit, or the least one that
doubles have. -/
def lastBit (num den : Nat) : Int :=
  let place : Int := num.log2 - den.log2 - 53
  let long := den * Nat.pow 2 place.toNat * (2 * hiddenBit) ≤ num * Nat.pow 2 (-place).toNat
  max (if long then place + 1 else place) (-1074)

/-- The bits of the double nearest to a positive quotient; those of infinity if it is too large. -/
def nearestBits (num den : Nat) : Nat :=
  let place := lastBit num den
  let mantissa := nearestQuotient (num * Nat.pow 2 (-place).toNat) (den * Nat.pow 2 place.toNat)
  min ((place + 1074).toNat * hiddenBit + mantissa) 0x7ff0000000000000

/-- The double nearest to a quotient of natural numbers. -/
def nearestDouble (num den : Nat) : Float :=
  if num = 0 then 0 else Float.ofBits (nearestBits num den).toUInt64

end Reckon.Decimal
