import Descent.Regex.Program

/-! Searching a text.

All ways to match are followed at the same time, one character after the other.
The `Thread`s at a place are kept in order of preference, and of two that stand
at the same instruction only the first can matter, so there are never more of
them than instructions. A thread that accepts makes those after it pointless;
those before it go on and may find a match that is preferred. Matches that begin
earlier come first: a new thread begins at a place only as the last of all and
while no match is known. -/
namespace Descent.Regex

/-- A way to match that began at character `start` and stands at an instruction. -/
structure Thread where
  start : Nat
  instr : Nat

/-- A match: the characters from `start` up to `stop`. -/
structure Span where
  start : Nat
  stop : Nat
deriving BEq, DecidableEq, Repr

/-- Threads at one place, the least preferred first. An instruction was reached there
if `reached` holds the number of the place. -/
structure Frontier where
  reached : Array Nat
  threads : List Thread

namespace Program

/-- Follows the instructions that read nothing, from those in `work`, at the place with
number `place` between two characters. -/
def follow (program : Program) (before after : Option Char) (place start : Nat) :
    (fuel : Nat) → (work : List Nat) → Frontier → Frontier
  | 0, _, frontier => frontier
  | _ + 1, [], frontier => frontier
  | fuel + 1, i :: work, frontier =>
    if frontier.reached.getD i 0 == place then
      program.follow before after place start fuel work frontier
    else
      let frontier := { frontier with reached := frontier.reached.setIfInBounds i place }
      match program.code[i]? with
      | some (.split first second) =>
        program.follow before after place start fuel (first :: second :: work) frontier
      | some (.look assertion next) =>
        let work := if assertion.holds before after then next :: work else work
        program.follow before after place start fuel work frontier
      | some _ =>
        program.follow before after place start fuel work
          { frontier with threads := ⟨start, i⟩ :: frontier.threads }
      | none => program.follow before after place start fuel work frontier

/-- Adds the threads that begin at an instruction. Each instruction is reached once and
puts at most two in its place. -/
def enter (program : Program) (before after : Option Char) (place : Nat) (thread : Thread)
    (frontier : Frontier) : Frontier :=
  program.follow before after place thread.start (2 * program.code.size + 2) [thread.instr] frontier

/-- Moves the threads, the most preferred first, over the character `c` to the place
with number `place`. Gives the threads there, and the match of the first thread that
accepts where it stands. -/
def step (program : Program) (c : Char) (after : Option Char) (place : Nat) :
    List Thread → Frontier → Frontier × Option Thread
  | [], frontier => (frontier, none)
  | thread :: threads, frontier =>
    match program.code[thread.instr]? with
    | some .accept => (frontier, some thread)
    | some instr =>
      let frontier := match instr.read? c with
        | some next => program.enter (some c) after place { thread with instr := next } frontier
        | none => frontier
      program.step c after place threads frontier
    | none => program.step c after place threads frontier

/-- The first thread that accepts where it stands. -/
def accepting (program : Program) (threads : List Thread) : Option Thread :=
  threads.find? fun thread => match program.code[thread.instr]? with
    | some .accept => true
    | _ => false

/-- Lets a thread begin at character `index`, as the last one, unless a match is known or
none can begin there. -/
def begin (program : Program) (index : Nat) (before after : Option Char) (best : Option Span)
    (frontier : Frontier) : Frontier :=
  if best.isSome || (program.anchored && 0 < index) then frontier
  else program.enter before after (index + 1) ⟨index, program.entry⟩ frontier

/-- Goes on from character `index` with `before` in front of it, with the threads of
`frontier`, and with the best match found before. -/
def searchFrom (program : Program) (index : Nat) (before : Option Char) (frontier : Frontier)
    (best : Option Span) : Text → Option Span
  | [] =>
    let frontier := program.begin index before none best frontier
    ((program.accepting frontier.threads.reverse).map fun t => ⟨t.start, index⟩).or best
  | c :: rest =>
    let frontier := program.begin index before (some c) best frontier
    if frontier.threads.isEmpty && (best.isSome || program.anchored) then best
    else
      let (next, accepted) :=
        program.step c rest.head? (index + 2) frontier.threads.reverse
          { frontier with threads := [] }
      let best := (accepted.map fun t => ⟨t.start, index⟩).or best
      searchFrom program (index + 1) (some c) next best rest

/-- The preferred match of a text. -/
def search (program : Program) (text : Text) : Option Span :=
  program.searchFrom 0 none ⟨Array.replicate program.code.size 0, []⟩ none text

end Program

end Descent.Regex
