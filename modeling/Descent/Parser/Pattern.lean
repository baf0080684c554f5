import Descent.Parser.Basic
import Descent.Regex.Pattern

/-! Finding a pattern.

The pattern is searched for in what remains, which counts as a text of its own:
where the parser stands is the start of the text for all assertions. The stream
moves to the end of the match; the value is the matched text alone. -/
namespace Descent.Parser
variable {ω σ : Type}

/-- Finds a pattern, and fails if it is none. -/
def pattern (p : Regex.Pattern) : Parser ω σ Text := fun s t w =>
  match p.program with
  | none => reject s t [s!"invalid pattern \"{p.source}\""] w
  | some program =>
    match program.search t.rest with
    | some found => accept s (t.skip found.stop) ((t.rest.take found.stop).drop found.start) w
    | none => reject s t [s!"expected pattern \"{p.source}\""] w

end Descent.Parser
