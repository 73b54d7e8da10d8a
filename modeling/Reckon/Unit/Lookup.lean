import Reckon.Unit.Registry
import Reckon.Unit.Term

/-!
# Units by text

The names of a unit expression are looked up one after the other, and their powers are multiplied.
-/

namespace Reckon

namespace Registry

/-- The unit that a factor of a product means: where a unit that is not multiplicative is not alone,
it measures differences. Differences of logarithms have no unit. -/
def asFactor (r : Registry) (alone : Bool) (u : Unit) : Unit :=
  if alone || u.isMultiplicative then u
  else (r.find? (Unit.differenceMark ++ u.name)).getD (.missing (Unit.differenceMark ++ u.name))

/-- Adds a factor to a product. A factor that cancels must have been there. -/
def multiplyBy? (units : Units) (u : Unit) (e : Scalar) : Option Units :=
  if (units.exponent u + e).isZero then
    if (units.lookup u).isSome then some (units.adjust u e) else none
  else some (units.raise u e)

/-- Looks the names of a product up, one after the other. Names that were found are remembered even
if a later one is unknown. -/
def lookUp (alone : Bool) : Registry → Powers String → Units → Option Units × Registry
  | r, [], units => (some units, r)
  | r, (text, e) :: rest, units =>
    match r.recognize? text with
    | none => (none, r)
    | some .dimensionless => lookUp alone r rest units
    | some (.unit u) =>
      let r := r.remember u
      match multiplyBy? units (r.asFactor (alone && e == 1) u) e with
      | none => (none, r)
      | some units => lookUp alone r rest units

/-- The units that a text stands for, and the registry after looking its names up. -/
def parse (r : Registry) (text : String) : Except UnitFault Units × Registry :=
  match UnitTerm.read text with
  | .error fault => (.error fault, r)
  | .ok (scale, powers) =>
    if scale == 1 then
      match lookUp (powers.length == 1) r powers [] with
      | (some units, r) => (.ok units, r)
      | (none, r) => (.error .unrecognized, r)
    else (.error .unrecognized, r)

/-- The units of a single name, and the registry after looking it up. -/
def parseName (r : Registry) (text : String) : Option Units × Registry :=
  match r.recognize? text with
  | none => (none, r)
  | some .dimensionless => (some [], r)
  | some (.unit u) => (some [(u, 1)], r.remember u)

end Registry

end Reckon
