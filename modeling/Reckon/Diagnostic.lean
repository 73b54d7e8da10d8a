import Reckon.Span

/-!
# Diagnostics

What can be wrong with a statement, and how it is shown: a headline with the place, the source
line with carets under the offending text, and hints.
-/

namespace Reckon

/-- What is wrong with a statement. -/
inductive Fault where
  /-- A character that starts no token. -/
  | unexpectedCharacter (text : String)
  /-- A text that is no number. -/
  | invalidNumber (text : String)
  /-- A token in the place of something else. -/
  | unexpectedToken (expected found : String)
  /-- The line ends in the place of something. -/
  | unexpectedEnd (expected : String)
  /-- Something follows a complete statement. -/
  | trailing (found : String)
  /-- The statement is nested deeper than it can be followed. -/
  | tooDeep

namespace Fault

/-- The code of a fault: `E0xx` for characters, `E1xx` for tokens. -/
def code : Fault → String
  | unexpectedCharacter _ => "E001"
  | invalidNumber _ => "E002"
  | unexpectedToken _ _ => "E101"
  | unexpectedEnd _ => "E102"
  | trailing _ => "E103"
  | tooDeep => "E104"

/-- Whether the fault is found while reading characters, before there are tokens. -/
def isLexical : Fault → Bool
  | unexpectedCharacter _ | invalidNumber _ => true
  | _ => false

/-- The message of a fault. -/
def message : Fault → String
  | unexpectedCharacter text => s!"unexpected character '{text}'"
  | invalidNumber text => s!"invalid number literal '{text}'"
  | unexpectedToken expected found => s!"expected {expected}, found {found}"
  | unexpectedEnd expected => s!"unexpected end of input, expected {expected}"
  | trailing found => s!"unexpected {found} after end of statement"
  | tooDeep => "expression is nested too deeply"

/-- What may help to mend a fault. -/
def hints : Fault → List String
  | trailing _ => ["each line holds exactly one expression, assignment or function definition"]
  | _ => []

end Fault

/-- A message about a place in a source line. -/
structure Diagnostic where
  /-- The code of the message. -/
  code : String
  /-- The message. -/
  message : String
  /-- The offending text. -/
  span : Span
  /-- The line of the offending text, if it is known. -/
  source : Option String
  /-- What may help. -/
  hints : List String

namespace Diagnostic

/-- The diagnostic of a fault at a place. -/
def ofFault (fault : Fault) (span : Span) (source : Option String) : Diagnostic :=
  ⟨fault.code, fault.message, span, source, fault.hints⟩

/-- The message with its place and code. -/
def headline (d : Diagnostic) : String :=
  s!"{d.span.start.text}: error[{d.code}]: {d.message}"

/-- The column after the last offending character of the line. -/
def endColumn (d : Diagnostic) (source : String) : Int :=
  if d.span.start.line = d.span.stop.line then d.span.stop.column else source.length + 1

/-- The number of carets; there is always one. -/
def caretCount (d : Diagnostic) (source : String) : Nat :=
  (max 1 (d.endColumn source - d.span.start.column)).toNat

/-- The number of the line, at least three characters wide. -/
def gutter (line : Int) : String :=
  let digits := toString line
  String.ofList (List.replicate (3 - digits.length) ' ') ++ digits

/-- The blanks and carets under the source line. -/
def carets (d : Diagnostic) (source : String) : String :=
  String.ofList (List.replicate (d.span.start.column - 1).toNat ' ' ++
    List.replicate (d.caretCount source) '^')

/-- The source line with carets under it. -/
def excerpt (d : Diagnostic) : List String :=
  match d.source with
  | none => []
  | some source =>
    ["  |", s!"{gutter d.span.start.line} | {source}", s!"    | {d.carets source}"]

/-- The lines of the hints. -/
def hintLines (d : Diagnostic) : List String := d.hints.map fun hint => s!"    = hint: {hint}"

/-- The diagnostic without the source line. -/
def short (d : Diagnostic) : String := "\n".intercalate (d.headline :: d.hintLines)

/-- The whole diagnostic. -/
def text (d : Diagnostic) : String := "\n".intercalate (d.headline :: d.excerpt ++ d.hintLines)

/-- The message in one line, with the column. -/
def summary (d : Diagnostic) : String := s!"{d.message} (column {d.span.start.column})"

end Diagnostic

end Reckon
