import Reckon.Line
import Reckon.Proofs.Decimal.Literal

/-!
# Printing statements

A `Formula` is an expression as one writes it down: its numbers are literals, its names and units are
texts that can be scanned. It is printed with one space between any two words and with parentheses
only where the grammar needs them:

* around a left operand whose operator is looser than the one it stands at, or is a power like it;
* around a right operand whose operator is not tighter, powers apart, which group to the right;
* around an operation behind a sign.
-/

namespace Reckon

/-- Whether the characters are a name. -/
def isName : List Char → Bool
  | [] => false
  | c :: cs => isNameStart c && cs.all isNameChar

/-- Whether the characters are the text of a unit. -/
def isUnitText : List Char → Bool
  | [] => false
  | c :: cs => Text.isLetter c && cs.all isUnitChar

/-- The name of a variable, function or parameter. -/
structure Identifier where
  /-- The name as it is written. -/
  text : String
  isName_text : isName text.toList = true

/-- The unit of a number. -/
structure UnitName where
  /-- The unit as it is written. -/
  text : String
  isUnitText_text : isUnitText text.toList = true

/-- A word of a printed statement. -/
inductive Piece where
  | symbol (s : Symbol)
  | name (n : Identifier)
  | number (literal : Decimal.Literal) (unit : Option UnitName)

namespace Piece

/-- What the word says. -/
def lexeme : Piece → Lexeme
  | symbol s => .symbol s
  | name n => .name n.text
  | number literal unit => .number literal.value (unit.map (·.text))

/-- The characters of the word; a space stands between a literal and its unit. -/
def chars : Piece → List Char
  | symbol s => [s.char]
  | name n => n.text.toList
  | number literal none => literal.text.toList
  | number literal (some unit) => literal.text.toList ++ ' ' :: unit.text.toList

/-- Whether the word is a symbol. -/
def isSymbol : Piece → Bool
  | symbol _ => true
  | _ => false

end Piece

/-- An expression as it is written down. -/
inductive Formula where
  | number (literal : Decimal.Literal) (unit : Option UnitName)
  | reference (name : Identifier)
  | plus (operand : Formula)
  | minus (operand : Formula)
  | operation (left : Formula) (op : Operator) (right : Formula)
  | call (name : Identifier) (arguments : List Formula)

/-- The operator at the root, if the formula is an operation. -/
def Formula.root? : Formula → Option Operator
  | operation _ op _ => some op
  | _ => none

/-- Whether a left operand with the given root needs parentheses. -/
def Operator.enclosesLeft (op : Operator) : Option Operator → Bool
  | none => false
  | some inner => inner.level < op.level || op == power && inner.level == op.level

/-- Whether a right operand with the given root needs parentheses. -/
def Operator.enclosesRight (op : Operator) : Option Operator → Bool
  | none => false
  | some inner => if op = power then inner.level < op.level else inner.level ≤ op.level

/-- The words, in parentheses if they need them. -/
def enclosed (needed : Bool) (ps : List Piece) : List Piece :=
  if needed then .symbol .lparen :: ps ++ [.symbol .rparen] else ps

mutual

/-- The words of a formula. -/
def Formula.pieces : Formula → List Piece
  | .number literal unit => [.number literal unit]
  | .reference name => [.name name]
  | .plus operand => .symbol .plus :: enclosed operand.root?.isSome operand.pieces
  | .minus operand => .symbol .minus :: enclosed operand.root?.isSome operand.pieces
  | .operation left op right =>
    enclosed (op.enclosesLeft left.root?) left.pieces ++
      .symbol op.symbol :: enclosed (op.enclosesRight right.root?) right.pieces
  | .call name arguments =>
    .name name :: .symbol .lparen :: (Formula.piecesAll arguments ++ [.symbol .rparen])

/-- The words of several formulas, with commas between them. -/
def Formula.piecesAll : List Formula → List Piece
  | [] => []
  | first :: more =>
    match more with
    | [] => first.pieces
    | _ :: _ => first.pieces ++ .symbol .comma :: Formula.piecesAll more

end

mutual

/-- The tree of a formula, without spans. -/
def Formula.node : Formula → Node
  | .number literal unit => .number literal.value (unit.map (·.text)) .nowhere
  | .reference name => .reference name.text .nowhere
  | .plus operand => .unary "+" operand.node .nowhere
  | .minus operand => .unary "-" operand.node .nowhere
  | .operation left op right => .binary left.node op.text right.node .nowhere
  | .call name arguments => .call name.text (Formula.nodes arguments) .nowhere

/-- The trees of several formulas. -/
def Formula.nodes : List Formula → List Node
  | [] => []
  | first :: more => first.node :: Formula.nodes more

end

/-- A statement as it is written down. -/
inductive Statement where
  | expression (formula : Formula)
  | assignment (name : Identifier) (value : Formula)
  | definition (name : Identifier) (parameters : List Identifier) (body : Formula)

namespace Statement

/-- The words of a statement. -/
def pieces : Statement → List Piece
  | expression formula => formula.pieces
  | assignment name value => .name name :: .symbol .assign :: value.pieces
  | definition name parameters body =>
    .name name :: .symbol .lparen :: ((parameters.map .name).intersperse (.symbol .comma) ++
      .symbol .rparen :: .symbol .assign :: body.pieces)

/-- The tree of a statement, without spans. -/
def node : Statement → Node
  | expression formula => formula.node
  | assignment name value => .assignment name.text value.node .nowhere
  | definition name parameters body =>
    .definition name.text (parameters.map (·.text)) body.node .nowhere

end Statement

/-- The words with one space between any two of them. -/
def spaced (ps : List Piece) : List Char := [' '].intercalate (ps.map Piece.chars)

/-- The statement in print. -/
def Statement.text (s : Statement) : String := String.ofList (spaced s.pieces)

end Reckon
