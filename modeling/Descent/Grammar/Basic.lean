import Descent.Regex.Pattern
import Descent.Run
import Descent.Value

/-! Grammars: parsers as data.

A grammar says how a parser is put together, and is what can be written down,
compared and built. Most constructors are the parser combinators of the same
name, over values of type `Value`. The others are about recursion:

* `rule` is the deferred parser of a named rule, one for all its mentions;
* `fresh` is a deferred parser of its own with the definition of a named rule;
* `lazy` is a deferred parser of its own with the definition given;
* `probe` applies a grammar while the grammar around it is being built, and is
  from then on the outcome as a value.

Building (`Grammar.build`) gives each deferred parser a cell, and `cell` is what
stands for it afterwards. -/
namespace Descent

/-- How a parser is put together. -/
inductive Grammar where
  -- Values and failures
  | succeed (value : Value)
  | fail (message : String)
  | map (f : Value → Value) (p : Grammar)
  | mapMessages (f : List String → List String) (p : Grammar)
  | bind (p : Grammar) (next : Value → Grammar)
  -- The text
  | literal (text : Text)
  | pattern (pattern : Regex.Pattern)
  | takeWhile (keep : Char → Bool)
  | anyChar
  | endOfInput
  | position
  | lookAhead (p : Grammar)
  | notFollowedBy (p : Grammar)
  | recognize (p : Grammar)
  | take (n : Nat)
  | advance (n : Nat)
  | rewind
  -- One after another
  | then_ (first second : Grammar)
  | skipRight (first second : Grammar)
  | pair (first second : Grammar)
  | ap (function p : Grammar)
  | between (opening closing p : Grammar)
  | sequence (ps : List Grammar)
  | count (n : Nat) (p : Grammar)
  -- One or another
  | or (left right : Grammar)
  | choice (ps : List Grammar)
  | optional (default : Value) (p : Grammar)
  | maybe (p : Grammar)
  | label (name : String) (p : Grammar)
  -- Again and again
  | many (p : Grammar)
  | many1 (p : Grammar)
  | manyTill (p ending : Grammar)
  | sepBy (separator p : Grammar)
  | sepBy1 (separator p : Grammar)
  | sepEndBy (separator p : Grammar)
  | sepEndBy1 (separator p : Grammar)
  | skip (p : Grammar)
  | skipMany (p : Grammar)
  | skipMany1 (p : Grammar)
  /-- The combining function takes the operator's value and the two operands. -/
  | chainLeft (operator p : Grammar) (combine : Value → Value → Value → Value)
  | chainRight (operator p : Grammar) (combine : Value → Value → Value → Value)
  -- The caller's state
  | getState
  | replaceState (state : Value)
  | transformState (f : Value → Value)
  | readState (next : Value → Grammar)
  -- Recursion and runs
  | rule (name : String)
  | fresh (name : String)
  | lazy (p : Grammar)
  | cell (id : Nat)
  | probe (p : Grammar) (text : Text)
  | nestedRun (config : Config) (p : Grammar)

namespace Grammar

instance : Inhabited Grammar := ⟨.succeed .null⟩

/-! ### Values of the combinators -/

def ofText (text : Text) : Value := .str (String.ofList text)

def ofPair (ab : Value × Value) : Value := .array [ab.1, ab.2]

def ofOption : Option Value → Value
  | some v => .record [("some", v)]
  | none => .record [("none", .bool true)]

def ofLocation (l : Location) : Value :=
  .record [("column", .int l.column), ("line", .int l.line), ("source_line", .str l.sourceLine)]

/-- What `ap` makes of a function's value and an argument. -/
def applied (f a : Value) : Value := .array [.str "ap", f, a]

/-- An outcome as a value. -/
def ofOutcome : Outcome Value → Value
  | .ok v => .record [("ok", v)]
  | .error messages => .record [("err", .array (messages.map .str))]

/-! ### Continuations

What to do next by the value found. A value that is no string counts as the empty
one where a string is needed. -/

/-- The value as a literal. -/
def literalOf (v : Value) : Grammar := .literal v.text.toList

/-- The value as a pattern. -/
def patternOf (v : Value) : Grammar := .pattern (.ofString v.text)

/-- The value as a message. -/
def failOf (v : Value) : Grammar := .fail v.text

/-- The value as the new state. -/
def putOf (v : Value) : Grammar := .map (fun _ => v) (.replaceState v)

/-- As many times as the value says. -/
def countOf (p : Grammar) (v : Value) : Grammar := .count v.natural p

/-- Both the value and that of `p`. -/
def keepOf (p : Grammar) (v : Value) : Grammar := .map (fun w => ofPair (v, w)) p

end Grammar

end Descent
