import Descent.Ledger

/-! Runs.

A run applies a parser to a whole text from its beginning, under limits on the
size of the text and on recursion. A text that is too large is refused unread.
When the recursion limit was exceeded anywhere in the run, that is its failure,
placed where the first excess happened. A run may happen inside another one:
it has its own limit and its own first excess, and leaves those of the other as
they were, however it ends. -/
namespace Descent

/-- The size of text that is accepted unless a run sets its own. -/
def defaultMaxInputSize : Nat := 104857600

/-- The limits of a run. -/
structure Config where
  /-- In bytes. -/
  maxInputSize : Nat := defaultMaxInputSize
  /-- The greatest nesting of deferred applications; zero means any. -/
  maxRecursionDepth : Nat := defaultMaxRecursionDepth
deriving BEq, DecidableEq, Repr

namespace Parser
variable {η σ α : Type}

/-- The message for a text that is too large. -/
def tooLarge (size limit : Nat) : String :=
  s!"input too large: {size} bytes exceeds limit of {limit} bytes"

/-- The answer of a run from the parser's reply: an excess overrides it. -/
def verdict (source : Source) (reply : Reply σ α) : (tripped : Option Excess) → Reply σ α
  | none => reply
  | some e =>
    { state := reply.state
      stream := ((Stream.start source).advance? e.offset).getD reply.stream
      outcome := .error [e.message] }

/-- Runs a parser over a source. -/
def run (config : Config) (p : Parser (World η) σ α) (state : σ) (source : Source)
    (w : World η) : Result (World η) (Reply σ α) :=
  let size := source.text.byteSize
  if config.maxInputSize < size then
    reject state (Stream.start source) [tooLarge size config.maxInputSize] w
  else
    let inner := w.mapLedger (Ledger.beginRun · config.maxRecursionDepth)
    ((p state (Stream.start source) inner).next fun reply w' =>
        .done (verdict source reply w'.ledger.tripped) w').settle
      (World.mapLedger (Ledger.endRun · w.ledger))

/-- Runs a parser over what remains, as a text of its own. The stream moves as far
as the run came; a failure of the run leaves it where it was. -/
def nestedRun (config : Config) (p : Parser (World η) σ α) : Parser (World η) σ α := fun s t w =>
  (run config p s ⟨t.rest, t.source.tag⟩ w).next fun reply w =>
    match reply.outcome with
    | .error messages => reject reply.state t messages w
    | .ok value =>
      match t.advance reply.stream.offset with
      | .ok u => accept reply.state u value w
      | .error cause => .fault cause w

end Parser

end Descent
