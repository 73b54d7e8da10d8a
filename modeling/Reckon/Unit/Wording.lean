import Reckon.Text.Blank
import Reckon.Text.Numeral

/-!
# The wording of unit expressions

A unit can be worded in several ways: `m/s²`, `m·s⁻²`, `meter per second squared`. `spellOut` turns
all of them into names, numbers and operators. It goes through the text several times, each time
with one rule, and the order of the rules matters.
-/

namespace Reckon.Wording

/-- Puts `new` in the place of every `old`, from left to right. -/
def replaceAll (old new : List Char) (cs : List Char) : List Char :=
  match cs with
  | [] => []
  | c :: rest =>
    if old.isPrefixOf (c :: rest) then new ++ replaceAll old new (rest.drop (old.length - 1))
    else c :: replaceAll old new rest
termination_by cs.length
decreasing_by all_goals grind

/-- Dropping characters does not make a text longer. -/
theorem length_dropWhile_le (p : Char → Bool) (cs : List Char) :
    (cs.dropWhile p).length ≤ cs.length := (List.dropWhile_suffix p).length_le

/-- Whether `c` belongs to a word: letters, numerals and the underscore. -/
def isWordChar (c : Char) : Bool := Text.isWordChar c || c == '_'

/-- Whether `c` can start a plain name. -/
def startsName (c : Char) : Bool := c.isAlpha || c == '_'

/-- Whether `c` can continue a plain name. -/
def continuesName (c : Char) : Bool := startsName c || c.isDigit

/-- Shrinks runs of blanks to one space where they follow a word, a point or an operator. The flag
tells whether the character before is one of these. -/
def shrinkBlanks (after : Bool) (cs : List Char) : List Char :=
  match cs with
  | [] => []
  | c :: rest =>
    if after && Text.isBlank c then ' ' :: shrinkBlanks false (rest.dropWhile Text.isBlank)
    else c :: shrinkBlanks (isWordChar c || ".-+*\\^".toList.contains c) rest
termination_by cs.length
decreasing_by all_goals grind [length_dropWhile_le]

/-- Rule for a word after a name that stands for a power, such as `squared`. The flag tells whether
the characters before are a plain name. -/
def raiseBefore (word power : List Char) (named : Bool) (cs : List Char) : List Char :=
  match cs with
  | [] => []
  | c :: rest =>
    if named && word.isPrefixOf (c :: rest) then
      power ++ raiseBefore word power false (rest.drop (word.length - 1))
    else c :: raiseBefore word power (startsName c || (named && c.isDigit)) rest
termination_by cs.length
decreasing_by all_goals grind

/-- Rule for a word before a name that stands for a power, such as `square`. -/
def raiseAfter (word power : List Char) (cs : List Char) : List Char :=
  match cs with
  | [] => []
  | c :: rest =>
    let behind := rest.drop (word.length - 1)
    if word.isPrefixOf (c :: rest) && (behind.head?.map startsName).getD false then
      behind.takeWhile continuesName ++ power ++
        raiseAfter word power (behind.dropWhile continuesName)
    else c :: raiseAfter word power rest
termination_by cs.length
decreasing_by all_goals grind [length_dropWhile_le]

/-- Whether a name follows a number: a letter, but an `e` only if it is no mark of an exponent. -/
def isNameAfterNumber : List Char → Bool
  | 'e' :: c :: _ | 'E' :: c :: _ | '|' :: c :: _ => c.isAlpha
  | c :: _ => c.isAlpha && c != 'e' && c != 'E'
  | [] => false

/-- How many characters a number at the start of a text has: digits, a point, and digits. -/
def numberLength (cs : List Char) : Nat :=
  let whole := (cs.takeWhile Text.isDigit).length
  match cs.drop whole with
  | '.' :: rest => whole + 1 + (rest.takeWhile Text.isDigit).length
  | _ => whole

/-- Puts a `*` between a number and a name behind it. The flag tells whether the character before
belongs to a word, so that no number starts here. -/
def separateNumbers (inWord : Bool) (cs : List Char) : List Char :=
  match cs with
  | [] => []
  | c :: rest =>
    let n := numberLength (c :: rest)
    if !inWord && Text.isDigit c && isNameAfterNumber (rest.drop (n - 1)) then
      c :: rest.take (n - 1) ++ '*' :: separateNumbers true (rest.drop (n - 1))
    else c :: separateNumbers (isWordChar c) rest
termination_by cs.length
decreasing_by all_goals grind

/-- Puts a `*` in the place of blanks between two operands. The flag tells whether the character
before ends an operand. -/
def multiplyBlanks (after : Bool) (cs : List Char) : List Char :=
  match cs with
  | [] => []
  | c :: rest =>
    let behind := rest.dropWhile Text.isBlank
    if after && Text.isBlank c && (behind.head?.map fun d => isWordChar d || d == '(').getD false
    then '*' :: multiplyBlanks false behind
    else c :: multiplyBlanks (isWordChar c || c == '.' || c == ')') rest
termination_by cs.length
decreasing_by all_goals grind [length_dropWhile_le]

/-- The superscript digits in order. -/
def superscripts : List Char := ['⁰', '¹', '²', '³', '⁴', '⁵', '⁶', '⁷', '⁸', '⁹']

/-- Whether `c` is a superscript digit. -/
def isSuperscript (c : Char) : Bool := superscripts.contains c

/-- The digit that a superscript stands for; other characters stand for themselves. -/
def lowered (c : Char) : Char :=
  match superscripts.idxOf? c with
  | some i => Char.ofNat ('0'.toNat + i)
  | none => c

/-- How many characters a raised number at the start of a text has: digits, and a point with more
digits behind it. -/
def raisedLength (cs : List Char) : Nat :=
  let whole := (cs.takeWhile isSuperscript).length
  match cs.drop whole with
  | '.' :: rest => if whole = 0 then 0 else whole + 1 + (rest.takeWhile isSuperscript).length
  | _ => whole

/-- Writes raised numbers as powers: `m²` becomes `m**(2)`. -/
def lowerExponents (cs : List Char) : List Char :=
  match cs with
  | [] => []
  | c :: rest =>
    let sign := if c == '⁻' then ['-'] else []
    let n := raisedLength (if c == '⁻' then rest else c :: rest)
    if n = 0 then c :: lowerExponents rest
    else
      let digits := (c :: rest).drop sign.length
      '*' :: '*' :: '(' :: sign ++ (digits.take n).map lowered ++
        ')' :: lowerExponents (rest.drop (n + sign.length - 1))
termination_by cs.length
decreasing_by all_goals grind

/-- The characters that stand for operators. -/
def operatorSigns (c : Char) : List Char :=
  match c with
  | '·' => ['*']
  | '⁻' => ['-']
  | '^' => ['*', '*']
  | c => [c]

/-- The characters that stand for names. -/
def nameSigns (c : Char) : List Char :=
  match c with
  | '%' => " percent ".toList
  | '‰' => " permille ".toList
  | c => [c]

/-- The words that stand for powers. -/
def spellPowers (cs : List Char) : List Char :=
  let cs := raiseBefore " squared".toList "**2".toList false cs
  let cs := raiseBefore " cubed".toList "**3".toList false cs
  let cs := raiseAfter "cubic ".toList "**3".toList cs
  let cs := raiseAfter "square ".toList "**2".toList cs
  raiseAfter "sq ".toList "**2".toList cs

/-- The text in names, numbers and operators. -/
def spellOut (text : List Char) : List Char :=
  let cs := Text.trimEnd (Text.trimStart (text.flatMap nameSigns))
  let cs := cs.filter (· != ',')
  let cs := replaceAll " per ".toList ['/'] cs
  let cs := replaceAll ['°'] "degree".toList cs
  let cs := separateNumbers false (spellPowers (shrinkBlanks false cs))
  (lowerExponents (multiplyBlanks false cs)).flatMap operatorSigns

end Reckon.Wording
