import Descent.Regex.Footprint
import Descent.Regex.Reader
import Descent.Regex.Search

/-! Patterns as parsers use them.

A parser looks for a pattern where it stands, so the text of the pattern is put
into a group behind an assertion of the beginning before it is read. A pattern
that closes this group itself and opens another one escapes the assertion: it is
searched for, and can be found further on. -/
namespace Descent.Regex

/-- The text that is read for a pattern. -/
def wrapped (source : Text) : Text := ['^', '(', '?', ':'] ++ source ++ [')']

/-- The program for a pattern, if it is one. -/
def compile? (source : Text) : Option Program :=
  (Expr.ofPattern? (wrapped source)).bind fun e =>
    if e.fits then some (Program.ofExpr e) else none

/-- A pattern with its program, which is kept so that it is made only once. -/
structure Pattern where
  source : String
  program : Option Program := compile? source.toList
  program_eq : program = compile? source.toList := by rfl

/-- The pattern of a text. -/
def Pattern.ofString (source : String) : Pattern := { source }

end Descent.Regex
