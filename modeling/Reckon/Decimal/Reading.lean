import Reckon.Decimal.Binary
import Reckon.Text.Numeral

/-!
# Reading numbers

A `Numeral` is the text of an unsigned number literal, cut into its parts. `Numeral.scan` takes the
longest one at the start of a text, `Numeral.value` is the double nearest to it.
-/

namespace Reckon.Decimal

/-- The exponent part of a numeral. -/
structure ExponentPart where
  /-- The letter in front, `e` or `E`. -/
  mark : Char
  /-- The sign, if one is written. -/
  sign : Option Char
  /-- The digits. -/
  digits : List Char
deriving DecidableEq

/-- The parts of a number literal. -/
structure Numeral where
  /-- The digits before the point. -/
  whole : List Char
  /-- The digits after the point; there is no point if there are none. -/
  fraction : List Char
  /-- The exponent, if one is written. -/
  exponent : Option ExponentPart
deriving DecidableEq

/-- The characters of an exponent part. -/
def ExponentPart.text (e : ExponentPart) : List Char := e.mark :: (e.sign.toList ++ e.digits)

/-- The characters of a fraction. -/
def fractionText (digits : List Char) : List Char :=
  if digits.isEmpty then [] else '.' :: digits

/-- The characters of a numeral. -/
def Numeral.text (n : Numeral) : List Char :=
  n.whole ++ fractionText n.fraction ++ (n.exponent.map ExponentPart.text).getD []

/-- The digits of the fraction at the start of a text: a point that is followed by a digit. -/
def scanFraction : List Char → List Char
  | '.' :: cs => cs.takeWhile Text.isDigit
  | _ => []

/-- The exponent at the start of a text. Without digits there is none: the letter then starts
something else. -/
def scanExponent : List Char → Option ExponentPart
  | [] => none
  | mark :: cs =>
    if mark = 'e' ∨ mark = 'E' then
      let sign := cs.head?.filter fun c => c = '+' ∨ c = '-'
      let digits := (cs.drop sign.toList.length).takeWhile Text.isDigit
      if digits.isEmpty then none else some ⟨mark, sign, digits⟩
    else none

/-- The numeral at the start of a text. -/
def Numeral.scan (cs : List Char) : Numeral :=
  let whole := cs.takeWhile Text.isDigit
  let afterWhole := cs.drop whole.length
  let fraction := scanFraction afterWhole
  let afterFraction := afterWhole.drop (fractionText fraction).length
  ⟨whole, fraction, scanExponent afterFraction⟩

/-- The number that a list of decimal digits stands for. -/
def digitsValue (cs : List Char) : Nat :=
  cs.foldl (fun n c => 10 * n + (c.toNat - '0'.toNat)) 0

/-- The double nearest to `digits · 10 ^ exponent`. Exponents far outside the range of doubles are
cut off first, which leaves the result zero or infinite as it was. -/
def nearestFloat (digits : Nat) (exponent : Int) : Float :=
  let size : Int := (Nat.toDigits 10 digits).length
  if digits = 0 ∨ exponent + size < -400 then 0
  else if 400 < exponent + size then Float.ofScientific 1 false 400
  else Float.ofScientific digits (exponent < 0) exponent.natAbs

/-- The exponent as a number. -/
def ExponentPart.value (e : ExponentPart) : Int :=
  if e.sign = some '-' then -(digitsValue e.digits : Int) else digitsValue e.digits

/-- The double nearest to the number that a numeral denotes. -/
def Numeral.value (n : Numeral) : Float :=
  nearestFloat (digitsValue (n.whole ++ n.fraction))
    ((n.exponent.map ExponentPart.value).getD 0 - n.fraction.length)

/-- Reads a number without a sign. Digits may be missing on one side of the point. -/
def readUnsigned? (cs : List Char) : Option Float :=
  let whole := cs.takeWhile Text.isDigit
  let rest := cs.drop whole.length
  let (fraction, rest) := match rest with
    | '.' :: rest => (rest.takeWhile Text.isDigit, rest.dropWhile Text.isDigit)
    | _ => ([], rest)
  let exponent := scanExponent rest
  let written := (exponent.map ExponentPart.text).getD []
  if (whole ++ fraction).isEmpty || rest != written then none
  else some (Numeral.value ⟨whole, fraction, exponent⟩)

/-- Reads a number with an optional sign; the words for infinity and NaN are numbers too. -/
def read? (s : String) : Option Float :=
  let (negative, cs) := match s.toList with
    | '-' :: cs => (true, cs)
    | '+' :: cs => (false, cs)
    | cs => (false, cs)
  let word := String.ofList (cs.map Char.toLower)
  let x :=
    if word = "inf" || word = "infinity" then some (Float.ofScientific 1 false 400)
    else if word = "nan" then some (0 / 0)
    else readUnsigned? cs
  if negative then x.map (- ·) else x

end Reckon.Decimal
