import Reckon.Unit.Conversion

/-!
# What is known about units

The dimension of a product of units and the factor that reduces it to base units are worked out
once. They are read off the factors one after the other, so the order of the factors shows in the
order of the dimensions and in the last digits of the factor. A product in other order is the same
product: what was found first holds for it too.
-/

namespace Reckon

/-- The products of units that have been worked out, in the order of their factors that was met
first. -/
structure Memory where
  /-- The products whose dimension is known. -/
  measured : List Units
  /-- The products whose factor is known. -/
  reduced : List Units

namespace Memory

/-- Nothing has been worked out. -/
def empty : Memory := ⟨[], []⟩

/-- The form of a product that was met first. -/
def firstForm (seen : List Units) (u : Units) : Units := (seen.find? u.same).getD u

/-- Adds a product, unless a form of it is there already. -/
def note (seen : List Units) (u : Units) : List Units :=
  if seen.any u.same then seen else seen ++ [u]

/-- The dimension of a product. -/
def dimension (m : Memory) (u : Units) : Except Abort Dimension × Memory :=
  if u.isDefined then
    (.ok (firstForm m.measured u).dimension, { m with measured := note m.measured u })
  else (.error .noDimension, m)

/-- The factor between a product and base units. -/
def factor (m : Memory) (u : Units) : Except Abort Scalar × Memory :=
  match (firstForm m.reduced u).factor with
  | .ok f => (.ok f, { m with reduced := note m.reduced u })
  | .error a => (.error a, m)

/-- The dimensions of two products. -/
def dimensions (m : Memory) (a b : Units) : Except Abort (Dimension × Dimension) × Memory :=
  match m.dimension a with
  | (.error e, m) => (.error e, m)
  | (.ok x, m) =>
    match m.dimension b with
    | (.error e, m) => (.error e, m)
    | (.ok y, m) => (.ok (x, y), m)

/-- Converts a reading between units of the same dimension. The arguments `source` and `target` are
the law and the reference of a unit that is not multiplicative. There is no conversion between a
difference and a point on a scale with a shifted zero. -/
def convertReading (m : Memory) (v : Float) (a b : Units)
    (source target : Option (Unit.Law × Units)) : Except Abort (Option Float) × Memory :=
  let a' := (source.map (·.2)).getD a
  let b' := (target.map (·.2)).getD b
  if source.isSome && b.hasDifference then (.ok none, m)
  else
    match source.elim (.ok v) (·.1.toReference v) with
    | .error e => (.error e, m)
    | .ok v =>
      if target.isSome && a'.hasDifference then (.ok none, m)
      else
        match m.factor (Powers.div a' b') with
        | (.error e, m) => (.error e, m)
        | (.ok f, m) =>
          let converted := f.double.bind fun f =>
            target.elim (.ok (v * f)) (·.1.ofReference (v * f))
          (converted.map some, m)

/-- Converts a reading; there is no conversion between different dimensions, nor from or to a
product with a factor that is not multiplicative. -/
def convert (m : Memory) (v : Float) (a b : Units) : Except Abort (Option Float) × Memory :=
  if a.same b then (.ok (some v), m)
  else
    match a.special?, b.special? with
    | some source, some target =>
      match m.dimensions a b with
      | (.error e, m) => (.error e, m)
      | (.ok (x, y), m) =>
        if x.same y then m.convertReading v a b source target else (.ok none, m)
    | _, _ => (.ok none, m)

end Memory

end Reckon
