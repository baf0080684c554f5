import Descent.Parser.Basic

/-! Failures for people and for tools.

A `Failure` is where and why a run ended without a value. Its `Report` is the
same without the text it came from, so that it can be stored and sent:
`Report.render` shows it to a person, `Report.toJson` writes it as one JSON
object without blanks, its fields in a fixed order. -/
namespace Descent

/-- Messages as one sentence. -/
def explain (messages : List String) : String :=
  if messages.isEmpty then "parse failed" else " or ".intercalate messages

/-- Where and why parsing stopped. -/
structure Failure (σ : Type) where
  state : σ
  stream : Stream
  messages : List String

/-- A failure without the text it came from. -/
structure Report where
  offset : Nat
  line : Nat
  column : Nat
  sourceLine : String
  messages : List String
deriving BEq, DecidableEq, Repr

namespace Failure
variable {σ : Type}

def location (f : Failure σ) : Location := f.stream.location

def explanation (f : Failure σ) : String := explain f.messages

def display (f : Failure σ) : String := s!"{f.location.display}: {f.explanation}"

def report (f : Failure σ) : Report :=
  let l := f.location
  ⟨f.stream.offset, l.line, l.column, l.sourceLine, f.messages⟩

end Failure

namespace Report

def location (r : Report) : Location := ⟨r.sourceLine, r.line, r.column⟩

/-- The explanation with the line it is about. -/
def render (r : Report) : String :=
  s!"error at {r.location.display}: {explain r.messages}\n{r.location.snippet}"

/-! ### JSON -/

/-- The digit of a value below sixteen, in lower case. -/
def hexDigit (n : Nat) : Char := if n < 10 then Char.ofNat (48 + n) else Char.ofNat (87 + n)

/-- A character between quotes: quotes, backslashes and control characters are escaped. -/
def escape (c : Char) : Text :=
  if c = '"' then ['\\', '"']
  else if c = '\\' then ['\\', '\\']
  else if c = '\x08' then ['\\', 'b']
  else if c = '\t' then ['\\', 't']
  else if c = '\n' then ['\\', 'n']
  else if c = '\x0c' then ['\\', 'f']
  else if c = '\r' then ['\\', 'r']
  else if c.toNat < 32 then ['\\', 'u', '0', '0', hexDigit (c.toNat / 16), hexDigit (c.toNat % 16)]
  else [c]

/-- A text in quotes. -/
def quote (text : Text) : Text := '"' :: text.flatMap escape ++ ['"']

/-- The items with commas between them. -/
def commaSeparated (items : List Text) : Text := [','].intercalate items

/-- A name and its value. -/
def member (name : String) (value : Text) : Text := quote name.toList ++ ':' :: value

def naturalText (n : Nat) : Text := (toString n).toList

/-- The report as JSON characters. -/
def toJsonText (r : Report) : Text :=
  '\x7b' :: commaSeparated
    [ member "offset" (naturalText r.offset)
      , member "line" (naturalText r.line)
      , member "column" (naturalText r.column)
      , member "source_line" (quote r.sourceLine.toList)
      , member "messages" ('[' :: commaSeparated (r.messages.map fun m => quote m.toList) ++ [']']) ]
    ++ ['\x7d']

/-- The report as JSON. -/
def toJson (r : Report) : String := String.ofList r.toJsonText

end Report

end Descent
