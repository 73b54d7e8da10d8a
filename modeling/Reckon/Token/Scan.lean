import Reckon.Decimal.Reading
import Reckon.Text.Blank
import Reckon.Token

/-!
# From a line to its tokens

`scan` reads a line from left to right. Blanks within the line separate tokens; every token is as
long as possible; the first character that starts no token ends the scan.
-/

namespace Reckon

/-- Whether `c` may follow the first letter of a unit. -/
def isUnitChar (c : Char) : Bool :=
  Text.isWordChar c || c == '_' || c == '-' || c == '/' || c == '^'

/-- Whether `c` starts a name. -/
def isNameStart (c : Char) : Bool := Text.isLetter c || c == '_'

/-- Whether `c` continues a name. -/
def isNameChar (c : Char) : Bool := Text.isWordChar c || c == '_'

/-- The blanks and the unit that follow a number. The unit starts with a letter; if there is none,
the blanks do not belong to the number either. -/
def scanUnit (cs : List Char) : Option (List Char × List Char) :=
  let blanks := cs.takeWhile Text.isInlineBlank
  match cs.drop blanks.length with
  | [] => none
  | c :: rest =>
    if Text.isLetter c then some (blanks, c :: rest.takeWhile isUnitChar) else none

/-- A token at the start of a text: what it says and the characters it consists of. -/
structure Word where
  /-- What the token says. -/
  lexeme : Lexeme
  /-- The characters of the token. -/
  chars : List Char

/-- The number at the start of a text, with its unit. -/
def scanNumber (cs : List Char) : Word :=
  let numeral := Decimal.Numeral.scan cs
  match scanUnit (cs.drop numeral.text.length) with
  | some (blanks, unit) =>
    ⟨.number numeral.value (some (String.ofList unit)), numeral.text ++ blanks ++ unit⟩
  | none => ⟨.number numeral.value none, numeral.text⟩

/-- The token that starts with the character `c` and goes on in `cs`. -/
def scanWord? (c : Char) (cs : List Char) : Option Word :=
  if Text.isDigit c then some (scanNumber (c :: cs))
  else if isNameStart c then
    let name := c :: cs.takeWhile isNameChar
    some ⟨.name (String.ofList name), name⟩
  else (Symbol.ofChar? c).map fun s => ⟨.symbol s, [c]⟩

/-- What a scan found. -/
structure Scan where
  /-- The tokens before the place where the scan ended. -/
  tokens : List Token
  /-- The character that starts no token, if the scan ended at one. -/
  unexpected : Option Char
  /-- The place where the scan ended: the end of the line, or before the unexpected character. -/
  stop : Location

/-- Adds a token in front. -/
def Scan.cons (t : Token) (s : Scan) : Scan := { s with tokens := t :: s.tokens }

/-- Scans the characters that are left; `here` is the place of the first one. -/
def scanFrom (here : Location) (cs : List Char) : Scan :=
  match cs with
  | [] => ⟨[], none, here⟩
  | c :: rest =>
    if Text.isInlineBlank c then scanFrom (here.advance 1) rest
    else
      match scanWord? c rest with
      | none => ⟨[], some c, here⟩
      | some word =>
        let next := here.advance word.chars.length
        let token : Token := ⟨word.lexeme, String.ofList word.chars, ⟨here, next⟩⟩
        (scanFrom next (rest.drop (word.chars.length - 1))).cons token
termination_by cs.length
decreasing_by all_goals grind

/-- Scans a line whose first character stands at the given line and column. -/
def scan (text : String) (line column : Int) : Scan :=
  scanFrom ⟨line, column, 0⟩ text.toList

/-- The place where the reader stood when the scan ended: an unexpected character has been read. -/
def Scan.position (s : Scan) : Location :=
  if s.unexpected.isSome then s.stop.advance 1 else s.stop

end Reckon
