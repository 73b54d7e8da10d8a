import Reckon.Unit.Expression
import Reckon.Unit.Powers

/-!
# What unit expressions amount to

An expression is worked out with numbers and names. The outcome is a factor and powers of names;
whether the names mean anything is not asked here.
-/

namespace Reckon

/-- What a unit expression amounts to: a factor and powers of names. A number on its own has no
names, not even with exponent zero. -/
inductive UnitTerm where
  | number (s : Scalar)
  | product (s : Scalar) (powers : Powers String)

namespace UnitTerm

/-- The outcome of an operation on factors. -/
def lift {α : Type} (outcome : Except Abort α) : Except UnitFault α := outcome.mapError .abort

/-- Adds exponents, and drops the names whose exponent becomes zero. -/
def merge (a b : Powers String) : Powers String :=
  Powers.reduced (b.foldl (fun p (k, e) => p.raise k e) a)

/-- A power of a factor, which has to be a real number. -/
def raise (a e : Scalar) : Except UnitFault Scalar :=
  match a.power e with
  | .ok p => .ok p
  | .error .notReal => .error .unrecognized
  | .error a => .error (.abort a)

/-- The product. -/
def mul : UnitTerm → UnitTerm → Except UnitFault UnitTerm
  | number a, number b => return number (← lift (a.times b))
  | number a, product b p | product b p, number a => return product (← lift (b.times a)) p
  | product a p, product b q => return product (← lift (a.times b)) (merge p q)

/-- The quotient. -/
def div : UnitTerm → UnitTerm → Except UnitFault UnitTerm
  | number a, number b => return number (← lift (a.quotient b))
  | product a p, number b => return product (← lift (a.quotient b)) p
  | number a, product b q => do
    return product (← lift ((← raise b (-1)).times a)) (q.times (-1))
  | product a p, product b q => return product (← lift (a.quotient b)) (merge p (q.times (-1)))

/-- The quotient, rounded down if both sides are numbers. -/
def floorDiv : UnitTerm → UnitTerm → Except UnitFault UnitTerm
  | number a, number b => return number (← lift (a.floorQuotient b))
  | number _, product .. => .error .unrecognized
  | a, b => div a b

/-- The power; only a number can be an exponent. -/
def pow : UnitTerm → UnitTerm → Except UnitFault UnitTerm
  | number a, number e => return number (← raise a e)
  | product a p, number e => return product (← raise a e) (p.times e)
  | _, product .. => .error .unrecognized

/-- An operation that only numbers have. -/
def numeric (operation : Scalar → Scalar → Scalar) : UnitTerm → UnitTerm → Except UnitFault UnitTerm
  | number a, number b => .ok (number (operation a b))
  | _, _ => .error .unrecognized

/-- Applies an operator. -/
def apply : UnitOperator → UnitTerm → UnitTerm → Except UnitFault UnitTerm
  | .add => numeric (· + ·)
  | .subtract => numeric (· - ·)
  | .multiply => mul
  | .divide => div
  | .floorDivide => floorDiv
  | .power => pow

/-- The factor and the powers of names. -/
def parts : UnitTerm → Scalar × Powers String
  | number s => (s, [])
  | product s p => (s, p)

end UnitTerm

/-- What a number or a name amounts to. -/
def UnitAtom.term : UnitAtom → UnitTerm
  | number s => .number s
  | name text => .product 1 [(text, 1)]

/-- Works a unit expression out. Only `+` and `-` can be signs. -/
def UnitExpr.eval : UnitExpr → Except UnitFault UnitTerm
  | atom a => .ok a.term
  | sign .add e => e.eval
  | sign .subtract e => do (← e.eval).mul (.number (-1))
  | sign _ _ => .error .unrecognized
  | binary a o b => do UnitTerm.apply o (← a.eval) (← b.eval)

/-- The factor and the powers of names that a text stands for; a blank text has neither. -/
def UnitTerm.read (text : String) : Except UnitFault (Scalar × Powers String) :=
  if Text.isBlankText text then .ok (1, [])
  else do return (← (← UnitExpr.parse text).eval).parts

end Reckon
