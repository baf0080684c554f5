import Descent.Grammar.Heap

/-! Building: from a grammar to one that can be applied.

Building goes through a grammar in order, but not into definitions that are
deferred nor into what is chosen by a value or a state. It makes a cell for every
deferred parser of its own, and it applies the probes, for which it is given the
way to apply a grammar that was built. -/
namespace Descent

/-- What the grammars of a session refer to. -/
structure Setting where
  /-- The definitions of the named rules. -/
  rules : List (String × Grammar) := []
  /-- The caller keeps a state; without one, writing a state does nothing. -/
  stateful : Bool := true

namespace Setting

/-- What becomes of a state that is written. -/
def written (setting : Setting) (state : Value) : Value :=
  if setting.stateful then state else .null

def definition? (setting : Setting) (name : String) : Option Grammar :=
  setting.rules.lookup name

/-- The cell of a rule: the rules have the first cells, in their order. -/
def cellOf? (setting : Setting) (name : String) : Option Nat :=
  setting.rules.findIdx? fun entry => entry.1 == name

/-- The heap with the cells of the rules. -/
def initialHeap (setting : Setting) : Heap where
  cells := (setting.rules.map fun entry => ⟨entry.2, some entry.1, .waiting⟩).toArray
  builds := setting.rules.map fun entry => (entry.1, 0)

/-- The world in which a session begins. -/
def initialWorld (setting : Setting) : World Heap := ⟨{}, setting.initialHeap⟩

end Setting

namespace Grammar

/-- How grammars are applied by probes: to a text, with the outcome as a value. -/
abbrev Prober := Grammar → Text → World Heap → Result (World Heap) Value

/-- The message of a mention of a rule that is not defined. -/
def noSuchRule (name : String) : String := s!"no rule named {name}"

/-- A new cell in place of a deferred parser. -/
def allocate (c : Cell) (w : World Heap) : Result (World Heap) Grammar :=
  .done (.cell w.heap.cells.size) { w with heap := w.heap.alloc c }

/-- Goes on with what was built. -/
@[inline] def built (r : Result (World Heap) Grammar) (f : Grammar → Grammar) :
    Result (World Heap) Grammar :=
  r.next fun g w => .done (f g) w

mutual

/-- Builds a grammar. -/
def build (setting : Setting) (prober : Prober) :
    Grammar → World Heap → Result (World Heap) Grammar
  | .map f p, w => built (build setting prober p w) (.map f)
  | .mapMessages f p, w => built (build setting prober p w) (.mapMessages f)
  | .bind p next, w => built (build setting prober p w) (.bind · next)
  | .lookAhead p, w => built (build setting prober p w) .lookAhead
  | .notFollowedBy p, w => built (build setting prober p w) .notFollowedBy
  | .recognize p, w => built (build setting prober p w) .recognize
  | .then_ first second, w =>
    (build setting prober first w).next fun first w =>
      built (build setting prober second w) (.then_ first)
  | .skipRight first second, w =>
    (build setting prober first w).next fun first w =>
      built (build setting prober second w) (.skipRight first)
  | .pair first second, w =>
    (build setting prober first w).next fun first w =>
      built (build setting prober second w) (.pair first)
  | .ap function p, w =>
    (build setting prober function w).next fun function w =>
      built (build setting prober p w) (.ap function)
  | .between opening closing p, w =>
    (build setting prober opening w).next fun opening w =>
      (build setting prober closing w).next fun closing w =>
        built (build setting prober p w) (.between opening closing)
  | .sequence ps, w =>
    (buildAll setting prober ps w).next fun ps w => .done (.sequence ps) w
  | .count n p, w => built (build setting prober p w) (.count n)
  | .or left right, w =>
    (build setting prober left w).next fun left w =>
      built (build setting prober right w) (.or left)
  | .choice ps, w =>
    (buildAll setting prober ps w).next fun ps w => .done (.choice ps) w
  | .optional default p, w => built (build setting prober p w) (.optional default)
  | .maybe p, w => built (build setting prober p w) .maybe
  | .label name p, w => built (build setting prober p w) (.label name)
  | .many p, w => built (build setting prober p w) .many
  | .many1 p, w => built (build setting prober p w) .many1
  | .manyTill p ending, w =>
    (build setting prober p w).next fun p w =>
      built (build setting prober ending w) (.manyTill p)
  | .sepBy separator p, w =>
    (build setting prober separator w).next fun separator w =>
      built (build setting prober p w) (.sepBy separator)
  | .sepBy1 separator p, w =>
    (build setting prober separator w).next fun separator w =>
      built (build setting prober p w) (.sepBy1 separator)
  | .sepEndBy separator p, w =>
    (build setting prober separator w).next fun separator w =>
      built (build setting prober p w) (.sepEndBy separator)
  | .sepEndBy1 separator p, w =>
    (build setting prober separator w).next fun separator w =>
      built (build setting prober p w) (.sepEndBy1 separator)
  | .skip p, w => built (build setting prober p w) .skip
  | .skipMany p, w => built (build setting prober p w) .skipMany
  | .skipMany1 p, w => built (build setting prober p w) .skipMany1
  | .chainLeft operator p combine, w =>
    (build setting prober operator w).next fun operator w =>
      built (build setting prober p w) (.chainLeft operator · combine)
  | .chainRight operator p combine, w =>
    (build setting prober operator w).next fun operator w =>
      built (build setting prober p w) (.chainRight operator · combine)
  | .nestedRun config p, w => built (build setting prober p w) (.nestedRun config)
  | .rule name, w =>
    .done (match setting.cellOf? name with
      | some id => .cell id
      | none => .fail (noSuchRule name)) w
  | .fresh name, w =>
    match setting.definition? name with
    | some g => allocate ⟨g, some name, .waiting⟩ w
    | none => .done (.fail (noSuchRule name)) w
  | .lazy p, w => allocate ⟨p, none, .waiting⟩ w
  | .probe p text, w =>
    (build setting prober p w).next fun p w =>
      (prober p text w).next fun v w => .done (.succeed v) w
  | g, w => .done g w

/-- Builds grammars in order. -/
def buildAll (setting : Setting) (prober : Prober) :
    List Grammar → World Heap → Result (World Heap) (List Grammar)
  | [], w => .done [] w
  | p :: ps, w =>
    (build setting prober p w).next fun p w =>
      (buildAll setting prober ps w).next fun ps w => .done (p :: ps) w

end

end Grammar

end Descent
