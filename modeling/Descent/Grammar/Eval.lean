import Descent.Grammar.Build
import Descent.Parser.Chain
import Descent.Parser.Pattern
import Descent.Parser.Primitive
import Descent.Parser.Repetition
import Descent.Parser.State

/-! Applying a grammar that was built.

`Grammar.layer` takes each constructor to the combinator of its name, over what the
parts of the grammar come to, and `Grammar.eval` is one layer after another. Cells
are where the heap comes in: the first application of one builds its definition
(`force`), and the grammars that are chosen by a value or a state are built
whenever they are applied. The fuel bounds the nesting and the rounds of loops;
running out of it is told apart from every answer. -/
namespace Descent.Grammar
open Descent.Parser

/-- The message of a deferred parser that has nothing to apply. -/
def underConstruction : String := "lazy parser applied while it was being constructed"

/-- Applies the parser of a grammar to a text of its own, as a probe does. -/
def probeWith (apply : Grammar → Parser (World Heap) Value Value) : Prober := fun g text w =>
  (apply g .null (Stream.start ⟨text, 0⟩) w).next fun reply w => .done (ofOutcome reply.outcome) w

/-- Builds a grammar and applies what was built. -/
def buildThen (setting : Setting) (apply : Grammar → Parser (World Heap) Value Value)
    (g : Grammar) : Parser (World Heap) Value Value := fun s t w =>
  (build setting (probeWith apply) g w).next fun g w => apply g s t w

/-- Applies what is in a cell, which is built first if it waits. -/
def force (setting : Setting) (apply : Grammar → Parser (World Heap) Value Value)
    (id : Nat) : Parser (World Heap) Value Value := fun s t w =>
  match w.heap.cells[id]? with
  | some ⟨_, _, .built g⟩ => apply g s t w
  | some ⟨definition, owner, .waiting⟩ =>
    (build setting (probeWith apply) definition { w with heap := w.heap.takeCell id owner }).next
      fun g w => apply g s t { w with heap := w.heap.setStatus id (.built g) }
  | _ => reject s t [underConstruction] w

/-! ### One layer -/

/-- What the parts of a grammar come to when the grammar is applied. -/
structure Parts (ω : Type) where
  /-- The parts that were built with the grammar. -/
  apply : Grammar → Parser ω Value Value
  /-- What is chosen by a value or by the state. -/
  chosen : Grammar → Parser ω Value Value
  /-- Deferred parsers and probes. -/
  recursive : Grammar → Parser ω Value Value
  nested : Config → Grammar → Parser ω Value Value
  /-- What becomes of a state that is written. -/
  written : Value → Value
  /-- How often a loop may go round. -/
  rounds : Nat

/-- The parser of a grammar from those of its parts: each constructor is the
combinator of its name. -/
def layer {ω : Type} (parts : Parts ω) : Grammar → Parser ω Value Value
  | .succeed value => Parser.succeed value
  | .fail message => Parser.fail message
  | .map f p => Parser.map f (parts.apply p)
  | .mapMessages f p => Parser.mapMessages f (parts.apply p)
  | .bind p next => Parser.bind (parts.apply p) fun v => parts.chosen (next v)
  | .literal text => Parser.map ofText (Parser.literal text)
  | .pattern p => Parser.map ofText (Parser.pattern p)
  | .takeWhile keep => Parser.map ofText (Parser.takeWhile keep)
  | .anyChar => Parser.map (fun c => ofText [c]) Parser.anyChar
  | .endOfInput => Parser.map (fun _ => .null) Parser.endOfInput
  | .position => Parser.map ofLocation Parser.position
  | .lookAhead p => Parser.lookAhead (parts.apply p)
  | .notFollowedBy p => Parser.map (fun _ => .null) (Parser.notFollowedBy (parts.apply p))
  | .recognize p => Parser.map ofText (Parser.recognize (parts.apply p))
  | .take k => Parser.map ofText (Parser.take k)
  | .advance k => Parser.map (fun (k : Nat) => .int k) (Parser.advance k)
  | .rewind => Parser.map (fun _ => .null) Parser.rewind
  | .then_ first second => Parser.then_ (parts.apply first) (parts.apply second)
  | .skipRight first second => Parser.skipRight (parts.apply first) (parts.apply second)
  | .pair first second =>
    Parser.map ofPair (Parser.pair (parts.apply first) (parts.apply second))
  | .ap function p => Parser.ap (Parser.map applied (parts.apply function)) (parts.apply p)
  | .between opening closing p =>
    Parser.between (parts.apply opening) (parts.apply closing) (parts.apply p)
  | .sequence ps => Parser.map .array (Parser.sequence (ps.map parts.apply))
  | .count k p => Parser.map .array (Parser.count k (parts.apply p))
  | .or left right => Parser.or (parts.apply left) (parts.apply right)
  | .choice ps => Parser.choice (ps.map parts.apply)
  | .optional default p => Parser.optional default (parts.apply p)
  | .maybe p => Parser.map ofOption (Parser.maybe (parts.apply p))
  | .label name p => Parser.label name (parts.apply p)
  | .many p => Parser.map .array (Parser.many parts.rounds (parts.apply p))
  | .many1 p => Parser.map .array (Parser.many1 parts.rounds (parts.apply p))
  | .manyTill p ending =>
    Parser.map .array (Parser.manyTill parts.rounds (parts.apply p) (parts.apply ending))
  | .sepBy separator p =>
    Parser.map .array (Parser.sepBy parts.rounds (parts.apply separator) (parts.apply p))
  | .sepBy1 separator p =>
    Parser.map .array (Parser.sepBy1 parts.rounds (parts.apply separator) (parts.apply p))
  | .sepEndBy separator p =>
    Parser.map .array (Parser.sepEndBy parts.rounds (parts.apply separator) (parts.apply p))
  | .sepEndBy1 separator p =>
    Parser.map .array (Parser.sepEndBy1 parts.rounds (parts.apply separator) (parts.apply p))
  | .skip p => Parser.map (fun _ => .null) (Parser.skip (parts.apply p))
  | .skipMany p => Parser.map (fun _ => .null) (Parser.skipMany parts.rounds (parts.apply p))
  | .skipMany1 p => Parser.map (fun _ => .null) (Parser.skipMany1 parts.rounds (parts.apply p))
  | .chainLeft operator p combine =>
    Parser.chainLeft parts.rounds (Parser.map combine (parts.apply operator)) (parts.apply p)
  | .chainRight operator p combine =>
    Parser.chainRight parts.rounds (Parser.map combine (parts.apply operator)) (parts.apply p)
  | .getState => Parser.getState
  | .replaceState state => Parser.map (fun _ => .null) (Parser.replaceState (parts.written state))
  | .transformState f =>
    Parser.map (fun _ => .null) (Parser.transformState fun s => parts.written (f s))
  | .readState next => Parser.readState fun s => parts.chosen (next s)
  | .nestedRun config p => parts.nested config p
  | g@(.rule _) | g@(.fresh _) | g@(.lazy _) | g@(.cell _) | g@(.probe _ _) => parts.recursive g

/-! ### All layers -/

/-- A deferred parser. One that has no cell, because it was not built, is built
whenever it is applied. -/
def recurse (setting : Setting) (apply : Grammar → Parser (World Heap) Value Value) :
    Grammar → Parser (World Heap) Value Value
  | .cell id => deferred (force setting apply id)
  | g => buildThen setting apply g

/-- The parts of a grammar, when `apply` applies a grammar that was built. -/
def parts (setting : Setting) (apply : Grammar → Parser (World Heap) Value Value)
    (rounds : Nat) : Parts (World Heap) where
  apply
  chosen := buildThen setting apply
  recursive := recurse setting apply
  nested config p := Parser.nestedRun config (apply p)
  written := setting.written
  rounds

/-- The parser of a grammar that was built. -/
def eval (setting : Setting) : (fuel : Nat) → Grammar → Parser (World Heap) Value Value
  | 0, _ => fun _ _ _ => .outOfFuel
  | n + 1, g => layer (parts setting (eval setting n) n) g

end Descent.Grammar
