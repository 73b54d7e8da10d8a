import Reckon.Decimal.Significant

/-!
# Numbers as text

A `Layout` says how digits become text. `write` lays out the shortest digits of a double, `brief`
its first six.
-/

namespace Reckon.Decimal

/-- How a decimal is written. -/
structure Layout where
  /-- The least power of ten of the first digit that is written without an exponent. -/
  least : Int
  /-- The greatest power of ten of the first digit that is written without an exponent. -/
  greatest : Int
  /-- The least number of digits of a written exponent. -/
  exponentWidth : Nat
  /-- What stands behind an integer that is written without an exponent. -/
  wholeEnding : List Char

/-- The layout of numbers in this calculator: an exponent is written below `0.0001` and from
`10 ^ 16` on, with a sign and at least two digits; otherwise there is a point and a digit after
it. -/
def plain : Layout := ⟨-4, 15, 2, ['.', '0']⟩

/-- The layout of exponents of units: an exponent is written below `0.0001` and from `10 ^ 6` on,
and integers have no point. -/
def compact : Layout := ⟨-4, 5, 2, []⟩

/-- An exponent with its mark and sign. -/
def Layout.exponentText (l : Layout) (e : Int) : List Char :=
  let digits := Nat.toDigits 10 e.natAbs
  'e' :: (if e < 0 then '-' else '+') ::
    (List.replicate (l.exponentWidth - digits.length) '0' ++ digits)

/-- The text of a positive decimal. -/
def Layout.text (l : Layout) (d : Scientific) : List Char :=
  let digits := Nat.toDigits 10 d.digits
  let point := digits.length + d.exponent
  if l.least ≤ point - 1 ∧ point - 1 ≤ l.greatest then
    if point ≤ 0 then
      ['0', '.'] ++ List.replicate (-point).toNat '0' ++ digits
    else if digits.length ≤ point then
      digits ++ List.replicate d.exponent.toNat '0' ++ l.wholeEnding
    else
      digits.take point.toNat ++ '.' :: digits.drop point.toNat
  else
    match digits with
    | [] => []
    | first :: rest =>
      first :: (if rest.isEmpty then [] else '.' :: rest) ++ l.exponentText (point - 1)

/-- The text of a double whose digits are chosen by `digits`. -/
def Layout.write (l : Layout) (digits : Binary → Scientific) (x : Float) : String :=
  if x.isNaN then "nan"
  else
    let b := decode x
    let sign := if b.negative then "-" else ""
    if x.isInf then sign ++ "inf"
    else if b.mantissa = 0 then sign ++ String.ofList ('0' :: l.wholeEnding)
    else sign ++ String.ofList (l.text (digits b))

/-- The text of a double: the fewest digits that read back. -/
def write (x : Float) : String := plain.write shortest x

/-- The text of a double with six significant digits. -/
def brief (x : Float) : String := compact.write (significant · 6) x

/-- The text of a double in results: integers below `10 ^ 16` have no point. -/
def display (x : Float) : String :=
  if !x.isFinite then write x
  else
    match (decode x).toInt? with
    | some n => if n.natAbs < 10000000000000000 then toString n else write x
    | none => write x

end Reckon.Decimal
