import Descent.Text

/-! Lines and columns.

A `Location` is what a person is told about an offset: the number of the line
(from one), the column in bytes (from zero) and the line itself. `Location.ofOffset`
reads them off a text; an offset past the end is the end, and an offset on a
line break belongs to the line which the break ends. `Location.snippet` shows
the line with a caret under the column. -/
namespace Descent

/-- A place in a text: its line, without the break, and where in the line it is. -/
structure Location where
  sourceLine : String
  /-- Counted from one. -/
  line : Nat
  /-- Counted in bytes from zero. -/
  column : Nat
deriving BEq, Repr

namespace Location

/-- The place `left` bytes further on, when `column` bytes of line `line` have been
passed and `seen` are their characters in reverse. -/
def scan (line column : Nat) (seen : Text) : (left : Nat) → Text → Location
  | left, [] => ⟨String.ofList seen.reverse, line, column + left⟩
  | left, c :: rest =>
    if c.utf8Size ≤ left then
      if c = '\n' then scan (line + 1) 0 [] (left - 1) rest
      else scan line (column + c.utf8Size) (c :: seen) (left - c.utf8Size) rest
    else
      ⟨String.ofList (seen.reverse ++ (c :: rest).takeWhile (· ≠ '\n')), line, column + left⟩

/-- The place of a byte offset of a text. -/
def ofOffset (text : Text) (offset : Nat) : Location :=
  scan 1 0 [] (min offset text.byteSize) text

/-- How a place is named in a message. -/
def display (l : Location) : String := s!"line {l.line}, column {l.column}"

/-- The margin in front of the shown line. -/
def gutter (l : Location) : String := s!"{l.line} | "

/-- How many characters of the line stand before the column: the column itself where
it is no place of the line. -/
def width (l : Location) : Nat :=
  let text := l.sourceLine.toList
  match Text.dropBytes? l.column text with
  | some rest => text.length - rest.length
  | none => l.column

/-- The line with a caret under the column. -/
def snippet (l : Location) : String :=
  let indent := l.gutter.length + l.width
  s!"{l.gutter}{l.sourceLine}\n" ++ String.ofList (List.replicate indent ' ') ++ "^"

end Location

end Descent
