import Reckon.Unit

/-!
# Conversion between units

A reading is converted by one factor that is made of the scales of all units involved. Equal
scales above and below cancel before anything is multiplied.
-/

namespace Reckon

namespace Unit.Law

/-- The exponential function, unless the result is too large for a double. -/
def exponential (x : Float) : Except Abort Float :=
  if x.isFinite && (Float.exp x).isInf then .error .overflow else .ok (Float.exp x)

/-- The natural logarithm of a positive number. -/
def logarithm (x : Float) : Except Abort Float :=
  if x ≤ 0 then .error .domain else .ok (Float.log x)

/-- A reading in the unit as a reading in its reference. -/
def toReference (law : Law) (v : Float) : Except Abort Float :=
  match law with
  | multiple scale => return v * (← scale.double)
  | shifted scale zero => return v * (← scale.double) + zero
  | logarithmic scale radix factor =>
    return (← scale.double) * (← exponential ((← logarithm radix) * (v / factor)))

/-- A reading in the reference as a reading in the unit. -/
def ofReference (law : Law) (v : Float) : Except Abort Float :=
  match law with
  | multiple scale => return v / (← scale.double)
  | shifted scale zero => return (v - zero) / (← scale.double)
  | logarithmic scale radix factor =>
    return factor * (← logarithm (v / (← scale.double))) / (← logarithm radix)

end Unit.Law

namespace Units

/-- Lowers both exponents of a scale by the smaller one, on either side of a fraction. -/
def cancel (a b : Powers Scalar) : Powers Scalar :=
  a.map fun (s, x) => (s, x - x.least (b.exponent s))

/-- Multiplies powers of scales, in order. -/
def multiplyOut : Scalar → List (Scalar × Scalar) → Except Abort Scalar
  | f, [] => .ok f
  | f, (s, e) :: rest =>
    if e.isZero then multiplyOut f rest
    else do multiplyOut (← f.times (← s.power e)) rest

/-- The factor between a product of units and base units. -/
def factor (u : Units) : Except Abort Scalar := do
  let visits := Unit.factorsAll 1 u
  let above := Powers.collect (visits.filter (!·.2.isNegative))
  let below := Powers.collect ((visits.filter (·.2.isNegative)).map fun (s, x) => (s, -x))
  multiplyOut (← multiplyOut 1 (cancel above below)) ((cancel below above).times (-1))

/-- The law and the reference of a unit that is not multiplicative, if `u` consists of it alone;
`none` if it is one factor among others. -/
def special? (u : Units) : Option (Option (Unit.Law × Units)) :=
  if u.isMultiplicative then some none
  else
    match u with
    | [(.derived _ _ law reference, e)] => if e == 1 then some (some (law, reference)) else none
    | _ => none

/-- Whether a factor measures differences on a scale with a shifted zero. -/
def hasDifference (u : Units) : Bool := u.any (·.1.isDifference)

end Units

end Reckon
