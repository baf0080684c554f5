import Descent.Regex.Basic
import Descent.Regex.ByteRange

/-! How large the automata of an expression are.

An expression can be searched for with an automaton over the bytes of a text, which
reads them forwards, or backwards to find where a match begins. Automata are bounded in
size: an expression is too large if one of them takes more than `limit` bytes. They
are not built here, but laid down state by state to be counted: a state takes 32
bytes, 8 more for each of several transitions that it has, and 4 for each state that
it leads to without reading.

`lay` counts the automaton of an expression in the order in which it is laid down,
because states for sets of characters are shared as far as tables of bounded size
remember them, and where a state is kept in a table depends on the numbers of other
states. It also tells whether the last state is a fork, which takes another 4 bytes
for what follows. Laying down repetitions stops as soon as the limit is passed. -/
namespace Descent.Regex
open Unicode

/-- The way in which an automaton reads. -/
inductive Direction where
  | forward | backward
deriving BEq, DecidableEq, Repr

/-- The number of states and bytes laid down so far. States are numbered from 0. -/
structure Footprint where
  states : Nat := 0
  bytes : Nat := 0
deriving BEq, DecidableEq, Repr

namespace Footprint

/-- The most bytes an automaton may take. -/
def limit : Nat := 10 * Nat.pow 2 20

def isTooLarge (f : Footprint) : Bool := limit < f.bytes

def addStates (f : Footprint) (n : Nat) : Footprint := ⟨f.states + n, f.bytes + 32 * n⟩

def addState (f : Footprint) : Footprint := f.addStates 1

/-- Transitions of a state that reads a byte in one of several ranges. -/
def addTransitions (f : Footprint) (n : Nat) : Footprint := { f with bytes := f.bytes + 8 * n }

/-- States that a fork leads to. -/
def addBranches (f : Footprint) (n : Nat) : Footprint := { f with bytes := f.bytes + 4 * n }

/-- Leads on from a state, which may be a fork. -/
def leave (f : Footprint) (fork : Bool) : Footprint := if fork then f.addBranches 1 else f

/-! ### Tables

A table has a number of places. What is kept in a place is overwritten by what comes there
next. -/

/-- One step of the hash by which places are found. -/
def hashStep (h : UInt64) (n : Nat) : UInt64 := (h ^^^ n.toUInt64) * 1099511628211

/-- The place of some numbers in a table with `size` places. -/
def place (size : Nat) (numbers : List Nat) : Nat :=
  (numbers.foldl hashStep 14695981039346656037).toNat % size

/-- States that were laid down, by what they are. -/
abbrev Table (κ : Type) := Array (Option (κ × Nat))

namespace Table

variable {κ : Type}

def empty (size : Nat) : Table κ := Array.replicate size none

/-- The number of a state. -/
def find? [BEq κ] (table : Table κ) (place : Nat) (key : κ) : Option Nat :=
  match table[place]? with
  | some (some (known, state)) => if known == key then some state else none
  | _ => none

def keep (table : Table κ) (place : Nat) (key : κ) (state : Nat) : Table κ :=
  table.setIfInBounds place (some (key, state))

end Table

/-! ### Sets -/

/-- A transition: on bytes from `first` to `last` to a state. -/
structure Arc where
  first : Nat
  last : Nat
  target : Nat
deriving BEq, DecidableEq, Repr

/-- The words by their first letters, where these come one after the other. -/
def byFirst {α : Type} [BEq α] : List (List α) → List (α × List (List α))
  | [] => []
  | [] :: words => byFirst words
  | (a :: word) :: words =>
    match byFirst words with
    | (b, tails) :: groups =>
      if a == b then (a, word :: tails) :: groups else (a, [word]) :: (b, tails) :: groups
    | [] => [(a, [word])]

/-- A footprint with the table of the states that have transitions. -/
structure Shared (κ : Type) where
  size : Footprint
  table : Table κ

/-- The state with these transitions: a known one, or a new one. -/
def layArcs (arcs : List Arc) (s : Shared (List Arc)) : Nat × Shared (List Arc) :=
  let place := place 10000 (arcs.flatMap fun arc => [arc.first, arc.last, arc.target])
  match s.table.find? place arcs with
  | some state => (state, s)
  | none =>
    let state := s.size.states
    (state, ⟨s.size.addState.addTransitions arcs.length, s.table.keep place arcs state⟩)

/-- The state from which sequences of byte ranges lead to the state `stop`. They have at most
`length` members. -/
def laySequences (stop : Nat) : (length : Nat) → List (List ByteRange) → Shared (List Arc) →
    Nat × Shared (List Arc)
  | 0, _, s => (stop, s)
  | length + 1, words, s =>
    if words.all List.isEmpty then (stop, s)
    else
      let (arcs, s) := (byFirst words).foldl
        (fun (arcs, s) (range, tails) =>
          let (target, s) := laySequences stop length tails s
          (⟨range.1, range.2, target⟩ :: arcs, s))
        ([], s)
      layArcs arcs.reverse s

/-- The state that reads a byte before it leads to another: a known one, or a new one. -/
def layByte (s : Shared Arc × Nat) (range : ByteRange) : Shared Arc × Nat :=
  let (s, target) := s
  let arc : Arc := ⟨range.1, range.2, target⟩
  let place := place 1000 [target, range.1, range.2]
  match s.table.find? place arc with
  | some state => (s, state)
  | none => (⟨s.size.addState, s.table.keep place arc s.size.states⟩, s.size.states)

/-- The states that read a sequence of byte ranges from its end and lead to the state `stop`,
and a branch to the first of them. -/
def layBackward (stop : Nat) (s : Shared Arc) (word : List ByteRange) : Shared Arc :=
  let (s, _) := word.foldl layByte (s, stop)
  ⟨s.size.addBranches 1, s.table⟩

/-- A set of characters: one state for the end, and states that read the bytes. Forwards,
those with the same transitions are shared. Backwards, a fork leads to the last byte of
each sequence, and what comes before a state is shared. -/
def laySet (direction : Direction) (set : CharSet) (f : Footprint) : Footprint :=
  if set.isAscii then (f.addStates 2).addTransitions set.ranges.size
  else
    let words := ByteRange.ofSet set
    match direction with
    | .forward =>
      (laySequences f.states 4 words ⟨f.addState, Table.empty 10000⟩).2.size
    | .backward =>
      (words.foldl (layBackward (f.states + 1)) ⟨f.addStates 2, Table.empty 1000⟩).size

/-! ### Texts side by side -/

/-- Words up to those that are empty. -/
def sections (words : List (List Nat)) : List (List (List Nat)) := words.splitOnP List.isEmpty

/-- The state from which words are read as in a tree of their letters, with what comes after
it. An empty word ends what can be chosen before it, so that letters of later words are
in states of their own; of empty words at the beginning only one counts. -/
def layWords : (length : Nat) → List (List Nat) → Footprint → Footprint
  | 0, _, f => f
  | length + 1, words, f =>
    let later := words.dropWhile List.isEmpty
    let parts := sections (if later.length < words.length then [] :: later else later)
    let f := parts.foldl
      (fun f part =>
        let groups := byFirst (part.mergeSort fun v w => v.headD 0 ≤ w.headD 0)
        let f := groups.foldl
          (fun f (_, tails) =>
            if tails.all List.isEmpty then f else layWords length tails f) f
        match groups.length with
        | 0 => f
        | 1 => f.addState.addBranches 1
        | n => (f.addState.addTransitions n).addBranches 1) f
    f.addState.addBranches (parts.length - 1)

/-- The bytes of a text in the order in which they are read. -/
def bytesOf (direction : Direction) (chars : Text) : List Nat :=
  let bytes := chars.flatMap ByteRange.bytes
  match direction with
  | .forward => bytes
  | .backward => bytes.reverse

def layTexts (direction : Direction) (texts : List Text) (f : Footprint) : Footprint :=
  let words := texts.map (bytesOf direction)
  layWords ((words.map List.length).foldl Nat.max 0 + 1) words f.addState

/-! ### Repetitions

`lay` lays down what is repeated. -/

/-- So many times one after another. `fork` is that of what comes before. -/
def layTimes (lay : Footprint → Bool × Footprint) :
    (n : Nat) → (fork : Bool) → Footprint → Bool × Footprint
  | 0, fork, f => (fork, f)
  | n + 1, fork, f =>
    if f.isTooLarge then (fork, f)
    else
      let (fork, f) := lay (f.leave fork)
      layTimes lay n fork f

/-- So many times one after another, with a way out before each. -/
def layOptions (lay : Footprint → Bool × Footprint) :
    (n : Nat) → (fork : Bool) → Footprint → Bool × Footprint
  | 0, fork, f => (fork, f)
  | n + 1, fork, f =>
    if f.isTooLarge then (fork, f)
    else
      let (fork, f) := lay (f.leave fork).addState
      layOptions lay n fork (f.addBranches 2)

/-- Exactly so many times; never is a state of its own. -/
def layExactly (lay : Footprint → Bool × Footprint) (n : Nat) (f : Footprint) :
    Bool × Footprint :=
  if n = 0 then (false, f.addState) else layTimes lay n false f

def layRepeated (lay : Footprint → Bool × Footprint) (nullable : Bool) (min : Nat)
    (max : Option Nat) (f : Footprint) : Bool × Footprint :=
  match min, max with
  | 0, some 1 =>
    let (fork, f) := lay f.addState
    (false, (f.leave fork).addState.addBranches 2)
  | 0, none =>
    if nullable then
      let (fork, f) := lay f
      (false, ((f.leave fork).addStates 3).addBranches 4)
    else
      let (fork, f) := lay f.addState
      (true, (f.leave fork).addBranches 1)
  | min, none =>
    let (fork, f) := layTimes lay min false f
    (true, (f.leave fork).addState.addBranches 1)
  | min, some max =>
    let (fork, f) := layExactly lay min f
    if min = max then (fork, f)
    else
      let (fork, f) := layOptions lay (max - min) fork f.addState
      (false, f.leave fork)

/-! ### Expressions -/

/-- The characters of a text. -/
def text? : Expr → Option Text
  | .text chars => some chars
  | _ => none

mutual

/-- Lays down an expression. Groups are marked forwards only. -/
def lay (direction : Direction) : Expr → Footprint → Bool × Footprint
  | .empty, f => (false, f.addState)
  | .text chars, f => (false, f.addStates (chars.map Char.utf8Size).sum)
  | .set set, f => (false, laySet direction set f)
  | .look _, f => (false, f.addState)
  | .group _ e, f =>
    match direction with
    | .forward =>
      let (fork, f) := lay direction e f.addState
      (false, (f.leave fork).addState)
    | .backward => lay direction e f
  | .seq parts, f => layAll direction parts f
  | .alt branches, f =>
    match branches.mapM text? with
    | some texts => (false, layTexts direction texts f)
    | none => (false, layAny direction branches 2 f)
  | .repeated min max _ e, f => layRepeated (lay direction e) e.nullable min max f

/-- Lays down one after another, in the order in which they are read. -/
def layAll (direction : Direction) : List Expr → Footprint → Bool × Footprint
  | [], f => (false, f)
  | e :: es, f =>
    match direction with
    | .forward =>
      let (fork, f) := lay direction e f
      if es.isEmpty then (fork, f) else layAll direction es (f.leave fork)
    | .backward =>
      let (fork, f) := layAll direction es f
      lay direction e (f.leave fork)

/-- Lays down branches. The fork before them and the state after them are laid down once
there are so many branches. -/
def layAny (direction : Direction) : List Expr → (awaited : Nat) → Footprint → Footprint
  | [], _, f => f
  | e :: es, awaited, f =>
    let (fork, f) := lay direction e f
    let f := (f.leave fork).addBranches 1
    layAny direction es (awaited - 1) (if awaited = 1 then f.addStates 2 else f)

end

/-- The automaton of an expression: a match may begin anywhere unless it is bound to the
end where reading begins, the whole is a group, and a last state accepts. -/
def ofExpr (direction : Direction) (e : Expr) : Footprint :=
  let bound := match direction with
    | .forward => e.atStart
    | .backward => e.atEnd
  let f : Footprint := {}
  let f := if bound then f.addState else ((f.addStates 3).addTransitions 1).addBranches 2
  let (fork, f) := lay direction (.group 0 e) f
  (f.leave fork).addState

end Footprint

/-- Both automata of an expression are small enough. -/
def Expr.fits (e : Expr) : Bool :=
  !(Footprint.ofExpr .forward e).isTooLarge && !(Footprint.ofExpr .backward e).isTooLarge

end Descent.Regex
