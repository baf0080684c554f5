import Descent.Regex.Basic

/-! Programs: expressions as instructions.

A program is a list of instructions with one entry, and an instruction names
those that come next. `split` tries its first target before its second, so a
program tries the ways to match in the order of preference of the expression. The
instructions of an expression are laid down from its end to its beginning: what
comes after it is known then, and only a loop has to be closed later. -/
namespace Descent.Regex
open Unicode

/-- One step of a program. The targets are indices of instructions. -/
inductive Instr where
  | char (c : Char) (next : Nat)
  | set (set : CharSet) (next : Nat)
  | look (assertion : Look) (next : Nat)
  | split (first second : Nat)
  | accept
deriving Repr

/-- The next instruction, if this one reads the character. -/
def Instr.read? (c : Char) : Instr → Option Nat
  | char d next => if c = d then some next else none
  | set s next => if s.contains c then some next else none
  | _ => none

instance : Inhabited Instr := ⟨.accept⟩

/-- Instructions and where to begin. -/
structure Program where
  code : Array Instr
  entry : Nat
  /-- No match begins after the beginning of the text. -/
  anchored : Bool

namespace Program

/-- A choice between going into a repetition and leaving it. -/
def fork (greedy : Bool) (into out : Nat) : Instr :=
  if greedy then .split into out else .split out into

/-- Lays down `n` times the same. -/
def times (lay : Nat → Array Instr → Nat × Array Instr) :
    (n : Nat) → (next : Nat) → Array Instr → Nat × Array Instr
  | 0, next, code => (next, code)
  | n + 1, next, code =>
    let (next, code) := lay next code
    times lay n next code

/-- Lays down `n` times the same, each of which may be the last. -/
def optionally (greedy : Bool) (lay : Nat → Array Instr → Nat × Array Instr) (out : Nat) :
    (n : Nat) → (next : Nat) → Array Instr → Nat × Array Instr
  | 0, next, code => (next, code)
  | n + 1, next, code =>
    let (into, code) := lay next code
    optionally greedy lay out n code.size (code.push (fork greedy into out))

/-- Lays down the characters of a text, the last one first. -/
def layText : Text → (next : Nat) → Array Instr → Nat × Array Instr
  | [], next, code => (next, code)
  | c :: cs, next, code =>
    let (next, code) := layText cs next code
    (code.size, code.push (.char c next))

mutual

/-- Lays down an expression before the instruction `next`. Gives its entry.

A loop around what can match the empty text is an optional loop with the test at its
end: otherwise the empty match would come before its turn. -/
def lay : Expr → (next : Nat) → Array Instr → Nat × Array Instr
  | .empty, next, code => (next, code)
  | .text chars, next, code => layText chars next code
  | .set set, next, code => (code.size, code.push (.set set next))
  | .look assertion, next, code => (code.size, code.push (.look assertion next))
  | .group _ e, next, code => lay e next code
  | .seq parts, next, code => layAll parts next code
  | .alt branches, next, code => layAny branches next code
  | .repeated min (some max) greedy e, next, code =>
    let (next, code) := optionally greedy (lay e) next (max - min) next code
    times (lay e) min next code
  | .repeated min none greedy e, next, code =>
    let loop := code.size
    let (into, code) := lay e loop (code.push .accept)
    let code := code.setIfInBounds loop (fork greedy into next)
    match min with
    | 0 =>
      if e.nullable then (code.size, code.push (fork greedy into next)) else (loop, code)
    | min + 1 => times (lay e) min into code

/-- Lays down one after another. -/
def layAll : List Expr → (next : Nat) → Array Instr → Nat × Array Instr
  | [], next, code => (next, code)
  | e :: es, next, code =>
    let (next, code) := layAll es next code
    lay e next code

/-- Lays down one or another. Without any, nothing matches. -/
def layAny : List Expr → (next : Nat) → Array Instr → Nat × Array Instr
  | [], next, code => (code.size, code.push (.set (.ofRanges []) next))
  | [e], next, code => lay e next code
  | e :: es, next, code =>
    let (second, code) := layAny es next code
    let (first, code) := lay e next code
    (code.size, code.push (.split first second))

end

/-- The program of an expression. -/
def ofExpr (e : Expr) : Program :=
  let (entry, code) := lay e 0 #[.accept]
  { code, entry, anchored := e.atStart }

end Program

end Descent.Regex
