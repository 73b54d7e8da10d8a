import Reckon.Diagnostic
import Reckon.Node
import Reckon.Operator
import Reckon.Token.Scan

/-!
# From tokens to statements

A statement is a function definition `f(x, y) = …`, an assignment `x = …` or an expression. The
three forms are tried in this order; if none fits, the error of the attempt that got furthest is
reported.

Expressions are read by precedence climbing. Each function returns the tokens it has not used
together with a proof that it used some, which is why reading ends. `room` counts down with the
depth of nesting.
-/

namespace Reckon

/-- What a statement lacks at some place. -/
inductive Expected where
  | functionName
  | openParen
  | parameterName
  | closeParen
  | equals
  | variableName
  | expression
  | closeParenOrComma
deriving DecidableEq

/-- The expected thing as messages name it. -/
def Expected.text : Expected → String
  | functionName => "function name"
  | openParen => "'('"
  | parameterName => "parameter name"
  | closeParen => "')'"
  | equals => "'='"
  | variableName => "variable name"
  | expression => "expression"
  | closeParenOrComma => "')' or ','"

/-- Why tokens are no statement. -/
inductive Rejection where
  /-- Something else was expected, or the line ended too early. -/
  | expected (what : Expected)
  /-- The statement was complete before the end of the line. -/
  | trailing
  /-- There was no room for another level of nesting. -/
  | tooDeep
deriving DecidableEq

/-- A failed attempt at reading tokens. -/
structure ParseError where
  /-- Why the attempt failed. -/
  reason : Rejection
  /-- The tokens from the offending one on. -/
  rest : List Token

/-- What has been read from the start of `ts`: a value and the tokens after it. -/
structure Parsed (α : Type) (ts : List Token) where
  /-- What was read. -/
  value : α
  /-- The tokens after it. -/
  rest : List Token
  /-- At least one token was used. -/
  shorter : rest.length < ts.length

/-- The same value, read from a longer list. -/
def Parsed.within {α : Type} {ts us : List Token} (p : Parsed α ts) (h : ts.length ≤ us.length) :
    Parsed α us :=
  ⟨p.value, p.rest, Nat.lt_of_lt_of_le p.shorter h⟩

/-- Another value, read from the same tokens. -/
def Parsed.map {α β : Type} {ts : List Token} (f : α → β) (p : Parsed α ts) : Parsed β ts :=
  ⟨f p.value, p.rest, p.shorter⟩

/-- One more token after what was read leaves a list that is shorter still. -/
theorem Parsed.length_lt_of_rest_eq {α : Type} {ts rest : List Token} {t : Token}
    (p : Parsed α ts) (h : p.rest = t :: rest) : rest.length < ts.length :=
  Nat.lt_of_succ_lt (h ▸ p.shorter : (t :: rest).length < ts.length)

@[simp] theorem Parsed.within_value {α : Type} {ts us : List Token} (p : Parsed α ts)
    (h : ts.length ≤ us.length) : (p.within h).value = p.value := rfl

@[simp] theorem Parsed.within_rest {α : Type} {ts us : List Token} (p : Parsed α ts)
    (h : ts.length ≤ us.length) : (p.within h).rest = p.rest := rfl

@[simp] theorem Parsed.map_value {α β : Type} {ts : List Token} (f : α → β) (p : Parsed α ts) :
    (p.map f).value = f p.value := rfl

@[simp] theorem Parsed.map_rest {α β : Type} {ts : List Token} (f : α → β) (p : Parsed α ts) :
    (p.map f).rest = p.rest := rfl

/-- The node of a binary operation. -/
def Node.operation (left : Node) (op : Operator) (right : Node) : Node :=
  .binary left op.text right ⟨left.span.start, right.span.stop⟩

mutual

/-- Reads operands that are joined by operators of at least the given level. -/
def parseExpression (room level : Nat) (ts : List Token) : Except ParseError (Parsed Node ts) :=
  match room with
  | 0 => .error ⟨.tooDeep, ts⟩
  | room + 1 =>
    match parseOperand room ts with
    | .error e => .error e
    | .ok left => parseOperations room level left
termination_by (ts.length, 2)
decreasing_by all_goals grind [Parsed]

/-- Goes on after the left operand `left` as long as operators of at least the given level
follow. -/
def parseOperations (room level : Nat) {ts : List Token} (left : Parsed Node ts) :
    Except ParseError (Parsed Node ts) :=
  match h : left.rest with
  | [] => .ok left
  | t :: after =>
    match t.operator? with
    | none => .ok left
    | some op =>
      if op.level < level then .ok left
      else
        match parseExpression room op.rightLevel after with
        | .error e => .error e
        | .ok right =>
          parseOperations room level
            ⟨left.value.operation op right.value, right.rest,
              Nat.lt_trans right.shorter (left.length_lt_of_rest_eq h)⟩
termination_by (left.rest.length, 0)
decreasing_by all_goals grind [Parsed]

/-- Reads an operand: any number of signs, then a number, a name, a call or an expression in
parentheses. -/
def parseOperand (room : Nat) (ts : List Token) : Except ParseError (Parsed Node ts) :=
  match ts with
  | [] => .error ⟨.expected .expression, []⟩
  | t :: after =>
    match t.lexeme with
    | .number value unit => .ok ⟨.number value unit t.span, after, Nat.lt_succ_self _⟩
    | .name name =>
      match after with
      | [] => .ok ⟨.reference name t.span, [], Nat.lt_succ_self _⟩
      | u :: inner =>
        if u.is .lparen then
          match parseArguments room inner with
          | .error e => .error e
          | .ok p =>
            .ok ⟨.call name p.value.1 ⟨t.span.start, p.value.2⟩, p.rest,
              Nat.lt_add_right 2 p.shorter⟩
        else .ok ⟨.reference name t.span, u :: inner, Nat.lt_succ_self _⟩
    | .symbol s =>
      if s = .plus ∨ s = .minus then
        match room with
        | 0 => .error ⟨.tooDeep, t :: after⟩
        | room + 1 =>
          match parseOperand room after with
          | .error e => .error e
          | .ok p =>
            .ok ((p.within (Nat.le_succ _)).map fun operand =>
              .unary s.char.toString operand ⟨t.span.start, operand.span.stop⟩)
      else if s = .lparen then
        match parseExpression room Operator.lowestLevel after with
        | .error e => .error e
        | .ok p =>
          match h : p.rest with
          | [] => .error ⟨.expected .closeParen, []⟩
          | u :: rest =>
            if u.is .rparen then
              .ok ⟨p.value, rest, Nat.lt_succ_of_lt (p.length_lt_of_rest_eq h)⟩
            else .error ⟨.expected .closeParen, u :: rest⟩
      else .error ⟨.expected .expression, t :: after⟩
termination_by (ts.length, 1)
decreasing_by all_goals grind

/-- Reads the arguments of a call, after its opening parenthesis, and the closing one; the second
part of the result is the place after it. -/
def parseArguments (room : Nat) (ts : List Token) :
    Except ParseError (Parsed (List Node × Location) ts) :=
  match ts with
  | [] => parseArgumentList room []
  | t :: after =>
    if t.is .rparen then .ok ⟨([], t.span.stop), after, Nat.lt_succ_self _⟩
    else parseArgumentList room (t :: after)
termination_by (ts.length, 4)
decreasing_by all_goals grind

/-- Reads at least one argument, and the closing parenthesis after the last one. -/
def parseArgumentList (room : Nat) (ts : List Token) :
    Except ParseError (Parsed (List Node × Location) ts) :=
  match parseExpression room Operator.lowestLevel ts with
  | .error e => .error e
  | .ok first =>
    match h : first.rest with
    | [] => .error ⟨.expected .closeParenOrComma, []⟩
    | t :: rest =>
      have shorter := first.length_lt_of_rest_eq h
      if t.is .comma then
        match parseArgumentList room rest with
        | .error e => .error e
        | .ok more =>
          .ok ((more.within (Nat.le_of_lt shorter)).map fun p => (first.value :: p.1, p.2))
      else if t.is .rparen then .ok ⟨([first.value], t.span.stop), rest, shorter⟩
      else .error ⟨.expected .closeParenOrComma, t :: rest⟩
termination_by (ts.length, 3)
decreasing_by all_goals grind [Parsed]

end

/-- Reads a name. -/
def parseName (what : Expected) : List Token → Except ParseError (String × List Token)
  | [] => .error ⟨.expected what, []⟩
  | t :: rest =>
    match t.lexeme with
    | .name name => .ok (name, rest)
    | _ => .error ⟨.expected what, t :: rest⟩

/-- Reads a symbol. -/
def parseSymbol (s : Symbol) (what : Expected) : List Token → Except ParseError (List Token)
  | [] => .error ⟨.expected what, []⟩
  | t :: rest => if t.is s then .ok rest else .error ⟨.expected what, t :: rest⟩

/-- Reads names after commas, up to the token that is no comma. -/
def parseMoreParameters : List Token → Except ParseError (List String × List Token)
  | [] => .ok ([], [])
  | comma :: ts =>
    if comma.is .comma then
      match ts with
      | [] => .error ⟨.expected .parameterName, []⟩
      | t :: rest =>
        match t.lexeme with
        | .name name =>
          match parseMoreParameters rest with
          | .ok (names, rest) => .ok (name :: names, rest)
          | .error e => .error e
        | _ => .error ⟨.expected .parameterName, t :: rest⟩
    else .ok ([], comma :: ts)

/-- Reads the names of parameters, up to the closing parenthesis. -/
def parseParameters (ts : List Token) : Except ParseError (List String × List Token) :=
  if ts.head?.any (·.is .rparen) then .ok ([], ts)
  else do
    let (first, rest) ← parseName .parameterName ts
    let (more, rest) ← parseMoreParameters rest
    return (first :: more, rest)

/-- Reads an expression that the line ends with. -/
def parseLast (room : Nat) (ts : List Token) : Except ParseError Node :=
  match parseExpression room Operator.lowestLevel ts with
  | .error e => .error e
  | .ok p => if p.rest.isEmpty then .ok p.value else .error ⟨.trailing, p.rest⟩

/-- The span from the first to the last token. -/
def spanOf (ts : List Token) : Span :=
  match ts.head?, ts.getLast? with
  | some first, some last => ⟨first.span.start, last.span.stop⟩
  | _, _ => .nowhere

/-- Reads a function definition. -/
def parseDefinition (room : Nat) (ts : List Token) : Except ParseError Node := do
  let (name, rest) ← parseName .functionName ts
  let rest ← parseSymbol .lparen .openParen rest
  let (parameters, rest) ← parseParameters rest
  let rest ← parseSymbol .rparen .closeParen rest
  let rest ← parseSymbol .assign .equals rest
  let body ← parseLast room rest
  return .definition name parameters body (spanOf ts)

/-- Reads an assignment. -/
def parseAssignment (room : Nat) (ts : List Token) : Except ParseError Node := do
  let (name, rest) ← parseName .variableName ts
  let rest ← parseSymbol .assign .equals rest
  let value ← parseLast room rest
  return .assignment name value (spanOf ts)

/-- Of two failed attempts, the one that got further; the second one if both got equally far. -/
def ParseError.furthest (a b : ParseError) : ParseError :=
  if b.rest.length ≤ a.rest.length then b else a

/-- Tries a second form if a first one failed, unless there was no room for it. -/
def eitherForm (first : Except ParseError Node) (second : Except ParseError Node) :
    Except ParseError Node :=
  match first with
  | .ok node => .ok node
  | .error e =>
    if e.reason = .tooDeep then .error e
    else
      match second with
      | .ok node => .ok node
      | .error e' => if e'.reason = .tooDeep then .error e' else .error (e.furthest e')

/-- Reads a statement that takes up all tokens. -/
def parseStatement (room : Nat) (ts : List Token) : Except ParseError Node :=
  eitherForm (eitherForm (parseDefinition room ts) (parseAssignment room ts)) (parseLast room ts)

/-- The number of levels that a statement may be nested. -/
def nestingRoom : Nat := 1000

/-- What is wrong and where, given all tokens of the line and the place where it ends. -/
def ParseError.fault (e : ParseError) (ts : List Token) (stop : Location) : Fault × Span :=
  match e.reason, e.rest with
  | .tooDeep, _ => (.tooDeep, (ts.head?.map (·.span)).getD ⟨stop, stop⟩)
  | .trailing, t :: _ => (.trailing t.describe, t.span)
  | .trailing, [] => (.trailing "end of input", ⟨stop, stop⟩)
  | .expected what, t :: _ => (.unexpectedToken what.text t.describe, t.span)
  | .expected what, [] => (.unexpectedEnd what.text, ⟨stop, stop⟩)

end Reckon
