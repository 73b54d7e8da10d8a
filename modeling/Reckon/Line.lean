import Reckon.Statement
import Reckon.Text.Blank

/-!
# From source lines to syntax trees

A line holds a statement or, after `#`, a comment. A source is read line by line; blank lines say
nothing.
-/

namespace Reckon

/-- The diagnostic of a scan that ended at an unexpected character. -/
def Scan.diagnostic? (s : Scan) (source : String) : Option Diagnostic :=
  s.unexpected.map fun c =>
    .ofFault (.unexpectedCharacter c.toString) ⟨s.stop, s.stop.advance 1⟩ (some source)

/-- Reads the statement in a text that starts at the given line and column. A message about the
tokens shows the text only if `withSource` is set. -/
def parseText (text : String) (line column : Int) (withSource : Bool) : Except Diagnostic Node :=
  let s := scan text line column
  match s.diagnostic? text with
  | some d => .error d
  | none =>
    match parseStatement nestingRoom s.tokens with
    | .ok node => .ok node
    | .error e =>
      let (fault, span) := e.fault s.tokens s.stop
      .error (.ofFault fault span (if withSource then some text else none))

/-- The number of blanks at the start of a line. -/
def indentation (raw : String) : Nat := (raw.toList.takeWhile Text.isBlank).length

/-- Reads the statement of a line. -/
def parseStatementLine (raw : String) (line : Int) : Except Diagnostic Node :=
  parseText (Text.trim raw) line (indentation raw + 1) true

/-- The comment on a line whose first character after the blanks is `#`. -/
def commentOn? (raw : String) (line : Int) : Option Node :=
  match Text.trimStart raw.toList with
  | '#' :: cs =>
    let column := indentation raw
    some (.comment (Text.trim (String.ofList cs))
      ⟨⟨line, column + 1, column⟩, ⟨line, raw.length + 1, raw.length⟩⟩)
  | _ => none

/-- Reads a line that is not blank. -/
def parseLine (raw : String) (line : Int) : Except Diagnostic Node :=
  match commentOn? raw line with
  | some comment => .ok comment
  | none => parseStatementLine raw line

/-- Reads a text that consists of one statement; comments are not expected. -/
def parseSingle (text : String) : Except Diagnostic Node := parseStatementLine text 1

/-- The lines of a source with their numbers. -/
def numberedLines (text : String) : List (Nat × String) :=
  (Text.lines text).mapIdx fun i raw => (i + 1, raw)

/-- A line of a source that is no statement. -/
structure LineError where
  /-- The number of the line. -/
  line : Nat
  /-- What is wrong with it. -/
  diagnostic : Diagnostic

/-- The message about a malformed line. -/
def LineError.message (e : LineError) : String := s!"Line {e.line}: {e.diagnostic.summary}"

/-- Reads numbered lines up to the first malformed one. -/
def parseLines : List (Nat × String) → Except LineError (List Node)
  | [] => .ok []
  | (line, raw) :: rest =>
    if Text.isBlankText raw then parseLines rest
    else
      match parseLine raw line with
      | .error d => .error ⟨line, d⟩
      | .ok node =>
        match parseLines rest with
        | .ok nodes => .ok (node :: nodes)
        | .error e => .error e

/-- Reads every line of a source. -/
def parseSource (text : String) : Except LineError (List Node) := parseLines (numberedLines text)

end Reckon
