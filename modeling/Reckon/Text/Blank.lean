import Reckon.Text.CodeRange

/-!
# White space

Blank characters, trimming, and the lines of a text.

* `trim` removes blanks at both ends of a text, `unspaced` removes them everywhere.
* `lines` cuts a text at line feeds; a carriage return before a line feed belongs to the cut.
-/

namespace Reckon.Text

/-- The blank characters: Unicode white space and the ASCII separators. -/
def blankRanges : List CodeRange :=
  [⟨0x9, 0xd, 1⟩, ⟨0x1c, 0x20, 1⟩, ⟨0x85, 0x85, 1⟩, ⟨0xa0, 0xa0, 1⟩, ⟨0x1680, 0x1680, 1⟩,
    ⟨0x2000, 0x200a, 1⟩, ⟨0x2028, 0x2029, 1⟩, ⟨0x202f, 0x202f, 1⟩, ⟨0x205f, 0x205f, 1⟩,
    ⟨0x3000, 0x3000, 1⟩]

/-- Whether `c` is white space. -/
def isBlank (c : Char) : Bool := inRanges blankRanges c.toNat

/-- The blank characters that end a line. -/
def lineBreakRanges : List CodeRange :=
  [⟨0xa, 0xd, 1⟩, ⟨0x1c, 0x1e, 1⟩, ⟨0x85, 0x85, 1⟩, ⟨0x2028, 0x2029, 1⟩]

/-- Whether `c` ends a line. -/
def isLineBreak (c : Char) : Bool := inRanges lineBreakRanges c.toNat

/-- Whether `c` is white space that may stand between two tokens of one line. -/
def isInlineBlank (c : Char) : Bool := isBlank c && !isLineBreak c

/-- The characters after the leading blanks. -/
def trimStart (cs : List Char) : List Char := cs.dropWhile isBlank

/-- The characters before the trailing blanks. -/
def trimEnd (cs : List Char) : List Char := (trimStart cs.reverse).reverse

/-- The text without the blanks at its ends. -/
def trim (s : String) : String := String.ofList (trimEnd (trimStart s.toList))

/-- The text without any blank. -/
def unspaced (s : String) : String := String.ofList (s.toList.filter (!isBlank ·))

/-- Whether a text has nothing but blanks. -/
def isBlankText (s : String) : Bool := s.toList.all isBlank

/-- Cuts a list of characters at its line feeds, dropping a carriage return before one. -/
def splitLines : List Char → List (List Char)
  | [] => [[]]
  | '\n' :: cs => [] :: splitLines cs
  | '\r' :: '\n' :: cs => [] :: splitLines cs
  | c :: cs =>
    match splitLines cs with
    | line :: rest => (c :: line) :: rest
    | [] => [[c]]

/-- The lines of a text; a text always has at least one. -/
def lines (s : String) : List String := (splitLines s.toList).map String.ofList

end Reckon.Text
