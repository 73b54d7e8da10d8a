/-!
# Positions in a line

A `Location` names the gap before a character; a `Span` is the text between two of them. Columns
start at the column of the line's first character, offsets at zero.
-/

namespace Reckon

/-- A place in the source. -/
structure Location where
  /-- The number of the line. -/
  line : Int
  /-- The column within the line. -/
  column : Int
  /-- The number of characters before the place. -/
  offset : Int
deriving DecidableEq, Inhabited

/-- The place `n` characters further on in the same line. -/
def Location.advance (l : Location) (n : Nat) : Location :=
  ⟨l.line, l.column + n, l.offset + n⟩

/-- A place as it is written in messages. -/
def Location.text (l : Location) : String := s!"{l.line}:{l.column}"

/-- The text from `start` up to `stop`. -/
structure Span where
  /-- The place before the first character. -/
  start : Location
  /-- The place after the last character. -/
  stop : Location
deriving DecidableEq, Inhabited

/-- A span as it is written in messages. -/
def Span.text (s : Span) : String := s!"{s.start.text}-{s.stop.text}"

/-- The place of things that no source line was written for. -/
def Location.nowhere : Location := ⟨0, 0, 0⟩

/-- The span of things that no source line was written for. -/
def Span.nowhere : Span := ⟨.nowhere, .nowhere⟩

@[simp] theorem Location.advance_zero (l : Location) : l.advance 0 = l := by
  simp [Location.advance]

theorem Location.advance_advance (l : Location) (m n : Nat) :
    (l.advance m).advance n = l.advance (m + n) := by
  simp [Location.advance, Int.add_assoc]

end Reckon
