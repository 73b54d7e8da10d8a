import Reckon.Decimal.Layout
import Reckon.Span
import Reckon.Text.Quoted

/-!
# Tokens

The words of a statement: numbers with an optional unit, names, and single characters with a
meaning of their own.
-/

namespace Reckon

/-- The characters that stand for themselves. -/
inductive Symbol where
  | plus
  | minus
  | star
  | slash
  | caret
  | assign
  | lparen
  | rparen
  | comma
deriving DecidableEq

namespace Symbol

/-- The character of a symbol. -/
def char : Symbol → Char
  | plus => '+'
  | minus => '-'
  | star => '*'
  | slash => '/'
  | caret => '^'
  | assign => '='
  | lparen => '('
  | rparen => ')'
  | comma => ','

/-- The symbol that a character stands for. -/
def ofChar? (c : Char) : Option Symbol :=
  [plus, minus, star, slash, caret, assign, lparen, rparen, comma].find? (·.char == c)

/-- The name of a symbol. -/
def name : Symbol → String
  | plus => "PLUS"
  | minus => "MINUS"
  | star => "STAR"
  | slash => "SLASH"
  | caret => "CARET"
  | assign => "ASSIGN"
  | lparen => "LPAREN"
  | rparen => "RPAREN"
  | comma => "COMMA"

end Symbol

/-- What a token says. -/
inductive Lexeme where
  /-- A number, with the text of its unit if one follows. -/
  | number (value : Float) (unit : Option String)
  /-- The name of a variable, function or parameter. -/
  | name (text : String)
  /-- An operator, parenthesis, comma or equals sign. -/
  | symbol (s : Symbol)

/-- A word of a statement. -/
structure Token where
  /-- What the token says. -/
  lexeme : Lexeme
  /-- The token as it was written. -/
  text : String
  /-- Where it was written. -/
  span : Span

namespace Token

/-- The name of the token's class. -/
def className (t : Token) : String :=
  match t.lexeme with
  | .number _ _ => "NUMBER"
  | .name _ => "IDENTIFIER"
  | .symbol s => s.name

/-- How an optional text is shown. -/
def showText? : Option String → String
  | some s => Text.quote s
  | none => "None"

/-- The token with its content, for inspection. -/
def inspect (t : Token) : String :=
  match t.lexeme with
  | .number value unit =>
    s!"NUMBER(NumberValue(value={Decimal.write value}, unit={showText? unit}))"
  | .name text => s!"IDENTIFIER({Text.quote text})"
  | .symbol s => s.name

/-- The token as error messages name it. -/
def describe (t : Token) : String :=
  match t.lexeme with
  | .number _ _ => s!"number '{t.text}'"
  | .name _ => s!"identifier '{t.text}'"
  | .symbol _ => s!"'{t.text}'"

end Token

end Reckon
