import Descent.Parser.Basic

/-! The recursion limit.

Grammars recurse through deferred parsers, so the nesting of their applications
is what the limit counts. The `Ledger` is the account of it: how many deferred
applications are going on, under which limit, and whether the limit was exceeded
in the run that is going on. Inside a run the first excess is kept, and from then
on every deferred application fails at once with its message, so that the run
ends without further work, whatever would have turned the failure into something
else. Outside a run an excess is a failure like any other.

`Parser.deferred` keeps the account around an application. It puts the depth back
where it was also when the application ends in a fault. -/
namespace Descent

/-- A deferred application was entered too deep. -/
structure Excess where
  offset : Nat
  depth : Nat
  limit : Nat
deriving BEq, DecidableEq, Repr

def Excess.message (e : Excess) : String :=
  s!"recursion limit exceeded: depth {e.depth} exceeds limit of {e.limit}"

/-- The limit that holds unless a run sets its own. -/
def defaultMaxRecursionDepth : Nat := 128

/-- The account of nested deferred applications. -/
structure Ledger where
  /-- How many deferred applications are going on. -/
  depth : Nat := 0
  /-- How many may; zero means any number. -/
  limit : Nat := defaultMaxRecursionDepth
  inRun : Bool := false
  /-- The first excess of the run that is going on. -/
  tripped : Option Excess := none
deriving BEq, DecidableEq, Repr

namespace Ledger

/-- One more deferred application. -/
def enter (l : Ledger) : Ledger := { l with depth := l.depth + 1 }

/-- One less. -/
def leave (l : Ledger) : Ledger := { l with depth := l.depth - 1 }

def overLimit (l : Ledger) : Bool := 0 < l.limit && l.limit < l.depth

/-- The excess of the application just entered. -/
def excessAt (l : Ledger) (offset : Nat) : Excess := ⟨offset, l.depth, l.limit⟩

/-- Keeps an excess, if a run is going on. -/
def trip (l : Ledger) (e : Excess) : Ledger := if l.inRun then { l with tripped := some e } else l

/-- The account at the beginning of a run: the depth goes on, the rest is new. -/
def beginRun (l : Ledger) (limit : Nat) : Ledger :=
  { l with limit, inRun := true, tripped := none }

/-- The account after a run: what `outer` had before it, except for the depth. -/
def endRun (l outer : Ledger) : Ledger :=
  { l with limit := outer.limit, inRun := outer.inRun, tripped := outer.tripped }

@[simp] theorem leave_enter (l : Ledger) : l.enter.leave = l := rfl

@[simp] theorem endRun_beginRun (l : Ledger) (limit : Nat) : (l.beginRun limit).endRun l = l := rfl

end Ledger

/-- What parsers with deferred parts share while they run: the account of their
nesting, and a heap of their own. -/
structure World (η : Type) where
  ledger : Ledger
  heap : η

namespace World
variable {η : Type}

def mapLedger (f : Ledger → Ledger) (w : World η) : World η := { w with ledger := f w.ledger }

end World

namespace Parser
variable {η σ α : Type}

/-- Applies `p` as a deferred parser. -/
def deferred (p : Parser (World η) σ α) : Parser (World η) σ α := fun s t w =>
  match w.ledger.tripped with
  | some e => reject s t [e.message] w
  | none =>
    let entered := w.mapLedger Ledger.enter
    if entered.ledger.overLimit then
      let e := entered.ledger.excessAt t.offset
      reject s t [e.message] (entered.mapLedger fun l => (l.trip e).leave)
    else
      (p s t entered).settle (World.mapLedger Ledger.leave)

end Parser

end Descent
