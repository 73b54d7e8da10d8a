/-!
# Sets of code points

Character classes are lists of arithmetic progressions of code points.
-/

namespace Reckon.Text

/-- The code points `first`, `first + step`, … up to `last`. -/
structure CodeRange where
  /-- The smallest code point. -/
  first : Nat
  /-- The largest code point. -/
  last : Nat
  /-- The distance between neighbours. -/
  step : Nat

/-- Whether `code` belongs to the progression. -/
def CodeRange.contains (r : CodeRange) (code : Nat) : Bool :=
  decide (r.first ≤ code) && decide (code ≤ r.last) && (code - r.first) % r.step == 0

/-- Whether one of the progressions has `code`. -/
def inRanges (table : List CodeRange) (code : Nat) : Bool :=
  table.any (·.contains code)

end Reckon.Text
