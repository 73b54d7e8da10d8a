import Reckon.Scalar

/-!
# Products of powers

A product such as `m · s⁻²` is a list of factors with exponents. The order is that in which the
factors came up; a factor occurs once.
-/

namespace Reckon

/-- A formal product of powers. -/
abbrev Powers (κ : Type) := List (κ × Scalar)

namespace Powers

variable {κ : Type} [BEq κ]

/-- The exponent of a factor; zero if it does not occur. -/
def exponent (key : κ) (p : Powers κ) : Scalar := (p.lookup key).getD 0

/-- Adds to the exponent of a factor; a new factor goes to the end. -/
def raise (key : κ) (e : Scalar) : Powers κ → Powers κ
  | [] => [(key, e)]
  | (k, x) :: rest => if k == key then (k, x + e) :: rest else (k, x) :: raise key e rest

omit [BEq κ] in
/-- Leaves out the factors with exponent zero. -/
def reduced (p : Powers κ) : Powers κ := p.filter (!·.2.isZero)

/-- Adds to the exponent of a factor, and removes the factor if that makes it zero. -/
def adjust (key : κ) (e : Scalar) (p : Powers κ) : Powers κ :=
  (p.raise key e).filter fun (k, x) => !(k == key && x.isZero)

omit [BEq κ] in
/-- Every exponent multiplied by `e`. -/
def times (e : Scalar) (p : Powers κ) : Powers κ := p.map fun (k, x) => (k, x * e)

/-- The product. -/
def mul (a b : Powers κ) : Powers κ := b.foldl (fun p (k, e) => p.adjust k e) a

/-- The quotient. -/
def div (a b : Powers κ) : Powers κ := b.foldl (fun p (k, e) => p.adjust k (-e)) a

/-- Collects a list of powers in which factors may occur several times. -/
def collect (visits : List (κ × Scalar)) : Powers κ :=
  visits.foldl (fun p (k, e) => p.raise k e) []

/-- Whether two products have the same factors with the same exponents, in whatever order. -/
def same (a b : Powers κ) : Bool :=
  a.length == b.length && a.all fun (k, e) => b.lookup k == some e

end Powers

/-- How a product of powers is written. -/
structure PowersStyle where
  /-- What stands between two factors. -/
  times : String
  /-- What stands before a divisor. -/
  dividedBy : String
  /-- How an exponent other than one is written after its factor. -/
  exponent : Scalar → String

/-- One factor, with the absolute value of its exponent. -/
def PowersStyle.factor (style : PowersStyle) (name : String) (e : Scalar) : String :=
  if e.abs == 1 then name else name ++ style.exponent e.abs

/-- A product: the factors with positive exponents, then a division for each of the others. -/
def PowersStyle.text (style : PowersStyle) (p : List (String × Scalar)) : String :=
  let above := (p.filter (·.2.isNonnegative)).map fun (n, e) => style.factor n e
  let below := (p.filter (·.2.isNegative)).map fun (n, e) => style.factor n e
  if above.isEmpty && below.isEmpty then ""
  else
    let numerator := if above.isEmpty then "1" else style.times.intercalate above
    numerator ++ String.join (below.map (style.dividedBy ++ ·))

/-- The long form, `kilogram * meter / second ** 2`. -/
def longStyle : PowersStyle := ⟨" * ", " / ", fun e => " ** " ++ e.text⟩

/-- A character of an exponent as a superscript. -/
def superscript (c : Char) : Char :=
  match c with
  | '0' => '⁰' | '1' => '¹' | '2' => '²' | '3' => '³' | '4' => '⁴' | '5' => '⁵' | '6' => '⁶'
  | '7' => '⁷' | '8' => '⁸' | '9' => '⁹' | '-' => '⁻' | '.' => '⋅' | c => c

/-- The short form, `kg·m/s²`. -/
def shortStyle : PowersStyle :=
  ⟨"·", "/", fun e => String.ofList (e.text.toList.map superscript)⟩

end Reckon
