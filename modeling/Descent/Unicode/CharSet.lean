/-! Sets of characters.

A `CharSet` is kept in one form: ranges of code points in ascending order, with a
character missing between any two of them. So equal sets are equal as data, and
membership is decided by halving. Surrogates are no characters: after U+D7FF
comes U+E000, and a range may pass over the gap. The tables of the Unicode
standard are written as `Ranges`, in which order and form do not matter. -/
namespace Descent.Unicode

/-- First and last code points. -/
abbrev Ranges := List (Nat × Nat)

/-- The code points from a first to a last one by a step, for alphabets whose capital and
small letters alternate. -/
def stepped (grids : List (Nat × Nat × Nat)) : Ranges :=
  grids.flatMap fun (first, last, step) =>
    if step = 1 then [(first, last)]
    else (List.range ((last - first) / step + 1)).map fun k => (first + k * step, first + k * step)

/-- The code point of the next character. -/
def next (n : Nat) : Nat := if n = 0xD7FF then 0xE000 else n + 1

/-- The code point of the character before. -/
def previous (n : Nat) : Nat := if n = 0xE000 then 0xD7FF else n - 1

/-- The last code point. -/
def lastCodePoint : Nat := 0x10FFFF

namespace Ranges

/-- Takes those together that overlap or meet, in ranges that ascend by their beginnings. -/
def join : Ranges → Ranges
  | a :: b :: more =>
    if b.1 ≤ next a.2 then join ((a.1, Nat.max a.2 b.2) :: more) else a :: join (b :: more)
  | ranges => ranges
termination_by ranges => ranges.length

/-- What is missing from `n` on, in ranges that ascend. -/
def gaps (n : Nat) : Ranges → Ranges
  | [] => if n ≤ lastCodePoint then [(n, lastCodePoint)] else []
  | (first, last) :: more =>
    if n < first then (n, previous first) :: gaps (next last) more else gaps (next last) more

end Ranges

/-- A set of characters. -/
structure CharSet where
  ranges : Array (Nat × Nat)
deriving BEq, DecidableEq, Repr, Inhabited

namespace CharSet

/-- The set of all characters in some of these ranges. -/
def ofRanges (ranges : Ranges) : CharSet :=
  ⟨(Ranges.join (ranges.mergeSort fun a b => a.1 ≤ b.1)).toArray⟩

def ofChars (chars : List Char) : CharSet := ofRanges (chars.map fun c => (c.toNat, c.toNat))

def toRanges (s : CharSet) : Ranges := s.ranges.toList

/-- Some range from index `low` up to before index `high` has the code point `n`. -/
def search (ranges : Array (Nat × Nat)) (n low high : Nat) : Bool :=
  if low < high then
    let mid := (low + high) / 2
    match ranges[mid]? with
    | none => false
    | some (first, last) =>
      if n < first then search ranges n low mid
      else if n ≤ last then true
      else search ranges n (mid + 1) high
  else false
termination_by high - low

/-- The code point is in the set. -/
def has (s : CharSet) (n : Nat) : Bool := search s.ranges n 0 s.ranges.size

def contains (s : CharSet) (c : Char) : Bool := s.has c.toNat

/-- Has ASCII characters only. -/
def isAscii (s : CharSet) : Bool := s.ranges.all fun r => r.2 < 128

/-- The one character of the set, if it has one and no other. -/
def single? (s : CharSet) : Option Char :=
  match s.ranges.toList with
  | [(first, last)] => if first = last then some (Char.ofNat first) else none
  | _ => none

def union (a b : CharSet) : CharSet := ofRanges (a.toRanges ++ b.toRanges)

def compl (a : CharSet) : CharSet := ⟨(Ranges.gaps 0 a.toRanges).toArray⟩

def inter (a b : CharSet) : CharSet := (a.compl.union b.compl).compl

def diff (a b : CharSet) : CharSet := a.inter b.compl

def symmDiff (a b : CharSet) : CharSet := (a.union b).diff (a.inter b)

/-- The complement, if asked for. -/
def negate (negated : Bool) (a : CharSet) : CharSet := if negated then a.compl else a

end CharSet

end Descent.Unicode
