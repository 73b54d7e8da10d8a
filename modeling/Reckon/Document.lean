import Reckon.Session

/-!
# Documents

A document is evaluated line by line in a cleared session. Every line has an outcome of its own; a
malformed or failing line affects nothing but itself.
-/

namespace Reckon

/-- The outcome of a line. -/
structure LineOutcome where
  /-- The number of the line. -/
  line : Nat
  /-- The line as it was written. -/
  text : String
  /-- What is shown beside it. -/
  display : String
  /-- Whether it is malformed or failed. -/
  hasError : Bool
  /-- Whether it is a comment. -/
  isComment : Bool
  /-- What it evaluated to, if it was evaluated. -/
  result : Option Result

/-- Whether the line says nothing. -/
def LineOutcome.isBlank (o : LineOutcome) : Bool :=
  o.result.isNone && !o.isComment && !o.hasError

/-- The outcome of a document. -/
structure DocumentOutcome where
  /-- The outcomes of the lines. -/
  lines : List LineOutcome
  /-- How many lines there are; none if the document is blank. -/
  lineCount : Nat
  /-- How many lines are malformed or failed. -/
  errorCount : Nat
  /-- The outcome in words. -/
  status : String

/-- Whether a line is malformed or failed. -/
def DocumentOutcome.hasErrors (o : DocumentOutcome) : Bool := decide (0 < o.errorCount)

namespace Document

/-- The outcome of a blank document. -/
def ready : DocumentOutcome := ⟨[], 0, 0, "Ready"⟩

/-- The outcome in words, by the number of errors. -/
def status (errors : Nat) : String :=
  if errors = 0 then "Evaluated successfully" else s!"{errors} error(s) found"

/-- The outcome of a malformed line. -/
def malformed (line : Nat) (raw : String) (d : Diagnostic) : LineOutcome :=
  let message := s!"Parse error: {d.summary}"
  ⟨line, raw, message, true, false, some (.ofMessage (some message) .parse)⟩

/-- The outcome of a line that was evaluated. -/
def evaluated (line : Nat) (raw : String) (r : Result) : Except Abort LineOutcome :=
  return ⟨line, raw, ← r.display, r.hasError, false, some r⟩

/-- Evaluates a line. -/
def evaluateLine (s : Session) (limits : Limits) (line : Nat) (raw : String) :
    Except Abort LineOutcome × Session :=
  if Text.isBlankText raw then (.ok ⟨line, raw, "", false, false, none⟩, s)
  else
    match parseLine raw line with
    | .error d => (.ok (malformed line raw d), s)
    | .ok (.comment text _) => (.ok ⟨line, raw, text, false, true, none⟩, s)
    | .ok n =>
      match s.evaluate limits n with
      | (.error a, s) => (.error a, s)
      | (.ok r, s) => (evaluated line raw r, s)

/-- Evaluates numbered lines in order, up to the first one that aborts. -/
def evaluateLines (s : Session) (limits : Limits) :
    List (Nat × String) → Except Abort (List LineOutcome) × Session
  | [] => (.ok [], s)
  | (line, raw) :: rest =>
    match evaluateLine s limits line raw with
    | (.error a, s) => (.error a, s)
    | (.ok o, s) =>
      match evaluateLines s limits rest with
      | (.error a, s) => (.error a, s)
      | (.ok os, s) => (.ok (o :: os), s)

/-- The outcome of a document, given that of its lines. -/
def summarize (lines : List LineOutcome) : DocumentOutcome :=
  let errors := lines.countP (·.hasError)
  ⟨lines, lines.length, errors, status errors⟩

/-- Evaluates a document in a session, which is cleared first. -/
def evaluate (s : Session) (limits : Limits) (text : String) :
    Except Abort DocumentOutcome × Session :=
  let s := s.clear
  if Text.isBlankText text then (.ok ready, s)
  else
    match evaluateLines s limits (numberedLines text) with
    | (.error a, s) => (.error a, s)
    | (.ok lines, s) => (.ok (summarize lines), s)

end Document

end Reckon
