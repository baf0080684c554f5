import Descent.Grammar.Basic

/-! Cells: deferred parsers and what has become of them.

A cell is made when the grammar around a deferred parser is built, and waits. The
first application takes its definition, builds it and keeps what was built for
all later ones. While that goes on, and for ever if it does not end well, there is
nothing to apply. The heap holds all cells, and counts for every rule how often a
cell of it began to be built. -/
namespace Descent

/-- What has become of a deferred parser. -/
inductive Cell.Status where
  | waiting
  /-- The definition was taken to be built. -/
  | taken
  | built (g : Grammar)

/-- A deferred parser. -/
structure Cell where
  definition : Grammar
  /-- The rule that counts when it is built. -/
  owner : Option String := none
  status : Cell.Status := .waiting

/-- All deferred parsers, and how often those of each rule began to be built. -/
structure Heap where
  cells : Array Cell := #[]
  builds : List (String × Nat) := []

namespace Heap

/-- One more cell. -/
def alloc (h : Heap) (c : Cell) : Heap := { h with cells := h.cells.push c }

def setStatus (h : Heap) (id : Nat) (status : Cell.Status) : Heap :=
  { h with cells := h.cells.modify id fun c => { c with status } }

/-- One more build of a rule. -/
def countBuild (h : Heap) : (owner : Option String) → Heap
  | none => h
  | some name =>
    { h with builds := h.builds.map fun entry =>
        if entry.1 == name then (entry.1, entry.2 + 1) else entry }

/-- The cell begins to be built. -/
def takeCell (h : Heap) (id : Nat) (owner : Option String) : Heap :=
  (h.setStatus id .taken).countBuild owner

/-- The cell was built and what was built is there to be applied. -/
def isBuilt (h : Heap) (id : Nat) : Bool :=
  match h.cells[id]? with
  | some ⟨_, _, .built _⟩ => true
  | _ => false

end Heap

end Descent
