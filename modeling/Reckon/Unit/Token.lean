import Reckon.Decimal.Reading
import Reckon.Scalar
import Reckon.Unit.Wording

/-!
# The words of unit expressions

Numbers, names, operators and brackets. `UnitToken.scan?` expects a text that is spelled out; it
skips what it does not know, so that `m.s` is read like `m s`.
-/

namespace Reckon

/-- An operator of unit expressions. -/
inductive UnitOperator where
  | add
  | subtract
  | multiply
  | divide
  | floorDivide
  | power
deriving DecidableEq

namespace UnitOperator

/-- How tightly an operator binds. Nothing at all binds with level 0, and a sign with level 3. -/
def level : UnitOperator → Nat
  | add | subtract => 1
  | multiply | divide | floorDivide => 2
  | power => 4

/-- The level of a sign. -/
def signLevel : Nat := 3

end UnitOperator

/-- A number or a name. -/
inductive UnitAtom where
  | number (s : Scalar)
  | name (text : String)

/-- A word of a unit expression. -/
inductive UnitToken where
  | atom (a : UnitAtom)
  | operator (o : UnitOperator)
  | opening
  | closing
  /-- A curly bracket, which is skipped, but must have a partner. -/
  | curly (opens : Bool)

namespace UnitToken

/-- Digits that satisfy `p`, with single underscores between them. -/
def digitRun (p : Char → Bool) : List Char → List Char
  | [] => []
  | '_' :: c :: cs => if p c then '_' :: c :: digitRun p cs else []
  | c :: cs => if p c then c :: digitRun p cs else []

/-- Digits with single underscores between them, the first of them a digit. -/
def digits (cs : List Char) : List Char :=
  if (cs.head?.map Text.isDigit).getD false then digitRun Text.isDigit cs else []

/-- An exponent at the start of a text. -/
def exponent (cs : List Char) : List Char :=
  match cs with
  | mark :: rest =>
    let sign := (rest.head?.filter fun c => c = '+' ∨ c = '-').toList
    let digits := digits (rest.drop sign.length)
    if (mark = 'e' ∨ mark = 'E') ∧ digits ≠ [] then mark :: sign ++ digits else []
  | [] => []

/-- The integer with the given digits. One that is too long to be written is read as a double. -/
def integer (digits : List Char) : Scalar :=
  let n := Decimal.digitsValue digits
  if digits.length ≤ Scalar.digitLimit then .exact n else .float (Decimal.nearestFloat n 0)

/-- The number at the start of a text and how many characters it has. An integer that starts with
a zero ends with its zeros. A number right before a `j` would not be real; there is none. -/
def leadingNumber? (cs : List Char) : Option (Scalar × Nat) :=
  let whole := digits cs
  let point := if (cs.drop whole.length).head? = some '.' then ['.'] else []
  let fraction := if point.isEmpty then [] else digits (cs.drop (whole.length + 1))
  let exponent := exponent (cs.drop (whole ++ point ++ fraction).length)
  let written := whole ++ point ++ fraction ++ exponent
  let next := (cs.drop written.length).head?
  let bare := (· != '_')
  if next = some 'j' ∨ next = some 'J' then none
  else if point.isEmpty && exponent.isEmpty then
    if whole.head? = some '0' then some (0, (digitRun (· == '0') whole).length)
    else some (integer (whole.filter bare), whole.length)
  else
    (Decimal.readUnsigned? (written.filter bare)).map fun x => (.float x, written.length)

/-- Whether `c` starts a name. -/
def startsName (c : Char) : Bool :=
  Text.isLetter c || Text.isLetterNumeral c || c == '_' || c == '[' || c == ']'

/-- Whether `c` continues a name. -/
def continuesName (c : Char) : Bool := Wording.isWordChar c || c == '[' || c == ']'

/-- The operator at the start of a text and how many characters it has. An operator together with an
equals sign is none, nor is an arrow; they are skipped. -/
def leadingOperator? (cs : List Char) : Option (Option UnitOperator × Nat) :=
  let (o, n) : Option UnitOperator × Nat := match cs with
    | '*' :: '*' :: _ => (some .power, 2)
    | '*' :: _ => (some .multiply, 1)
    | '/' :: '/' :: _ => (some .floorDivide, 2)
    | '/' :: _ => (some .divide, 1)
    | '+' :: _ => (some .add, 1)
    | '-' :: '>' :: _ => (none, 2)
    | '-' :: _ => (some .subtract, 1)
    | _ => (none, 0)
  if n = 0 then none
  else if o.isSome && (cs.drop n).head? = some '=' then some (none, n + 1)
  else some (o, n)

/-- How many characters a quotation at the start of a text has, with its marks; zero if it has no
end. -/
def quotedLength (mark : Char) (cs : List Char) : Nat :=
  let inner := (cs.takeWhile (· != mark)).length
  if (cs.drop inner).isEmpty then 0 else inner + 1

/-- The words of a text. Quotations, words that start with a numeral that is no digit, and all
other characters are skipped, and so is what follows a `#` on its line. -/
def scan? (cs : List Char) : Option (List UnitToken) :=
  match cs with
  | [] => some []
  | '#' :: rest => scan? (rest.drop (rest.takeWhile (· != '\n')).length)
  | '(' :: rest => (scan? rest).map (.opening :: ·)
  | ')' :: rest => (scan? rest).map (.closing :: ·)
  | '\x7b' :: rest => (scan? rest).map (.curly true :: ·)
  | '\x7d' :: rest => (scan? rest).map (.curly false :: ·)
  | c :: rest =>
    match leadingOperator? (c :: rest) with
    | some (some o, n) => (scan? (rest.drop (n - 1))).map (.operator o :: ·)
    | some (none, n) => scan? (rest.drop (n - 1))
    | none =>
      if Text.isDigit c || (c == '.' && (rest.head?.map Text.isDigit).getD false) then
        match leadingNumber? (c :: rest) with
        | some (s, n) => (scan? (rest.drop (n - 1))).map (.atom (.number s) :: ·)
        | none => none
      else if startsName c then
        let tail := rest.takeWhile continuesName
        (scan? (rest.drop tail.length)).map (.atom (.name (String.ofList (c :: tail))) :: ·)
      else if Wording.isWordChar c then
        scan? (rest.drop (rest.takeWhile continuesName).length)
      else if c == '\x22' || c == '\x27' then scan? (rest.drop (quotedLength c rest))
      else scan? rest
termination_by cs.length
decreasing_by all_goals grind

/-- The brackets that are opened minus those that are closed. -/
def balance : List UnitToken → Int
  | [] => 0
  | opening :: rest | curly true :: rest => balance rest + 1
  | closing :: rest | curly false :: rest => balance rest - 1
  | _ :: rest => balance rest

end UnitToken

end Reckon
