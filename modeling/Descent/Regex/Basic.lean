import Descent.Regex.CharClass
import Descent.Text

/-! Regular expressions.

An expression says which texts it matches and in which order of preference: the
left alternative before the right one, a greedy repetition as often as it goes
before less often. Assertions (`Look`) match the empty text where what stands
before and after is as they say.

`sequence`, `choice`, `times` and `ofSet` make expressions in a normal form, with
the same matches in the same order: texts are as long as they can be, sequences
and alternatives are not nested, alternatives of single characters are sets, what
all alternatives begin with is put before them, and what matches only the empty
text is not repeated. -/
namespace Descent.Regex
open Unicode

/-- The tests that compare the characters before and after for belonging to a word. -/
inductive WordTest where
  | boundary | noBoundary
  | starts | ends
  | startsHalf | endsHalf
deriving BEq, DecidableEq, Repr

def WordTest.holds : WordTest → (before after : Bool) → Bool
  | boundary, before, after => before != after
  | noBoundary, before, after => before == after
  | starts, before, after => !before && after
  | ends, before, after => before && !after
  | startsHalf, before, _ => !before
  | endsHalf, _, after => !after

/-- Assertions about the place. -/
inductive Look where
  | textStart | textEnd
  /-- At the start of a line; a line ends with a line feed, or, if `crlf`, also with a
  carriage return or both. -/
  | lineStart (crlf : Bool)
  | lineEnd (crlf : Bool)
  /-- A test of words, which are of ASCII characters unless `unicode`. -/
  | word (unicode : Bool) (test : WordTest)
deriving BEq, DecidableEq, Repr

namespace Look

/-- The character is in the set; the end of the text is in none. -/
def inWord (set : CharSet) : Option Char → Bool
  | some c => set.contains c
  | none => false

/-- The assertion holds between these characters, `none` standing for an end of the text. -/
def holds (before after : Option Char) : Look → Bool
  | textStart => before.isNone
  | textEnd => after.isNone
  | lineStart crlf =>
    before.isNone || before == some '\n' ||
      (crlf && before == some '\r' && after != some '\n')
  | lineEnd crlf =>
    after.isNone || (after == some '\n' && !(crlf && before == some '\r')) ||
      (crlf && after == some '\r')
  | word unicode test =>
    test.holds (inWord (CharClass.word unicode) before) (inWord (CharClass.word unicode) after)

end Look

/-- A regular expression. -/
inductive Expr where
  | empty
  /-- These characters, of which there is at least one. -/
  | text (chars : Text)
  /-- One character of a set. -/
  | set (set : CharSet)
  | look (assertion : Look)
  /-- A group in brackets, by its number. -/
  | group (index : Nat) (e : Expr)
  | seq (parts : List Expr)
  | alt (branches : List Expr)
  /-- At least `min` times, at most `max` times. -/
  | repeated (min : Nat) (max : Option Nat) (greedy : Bool) (e : Expr)
deriving Repr, BEq

namespace Expr

/-! ### Lengths

Lengths are those of matches in bytes of UTF-8. -/

mutual

/-- The length of the shortest match; `none` where a set without characters takes part. -/
def shortest : Expr → Option Nat
  | empty => some 0
  | text chars => some (chars.map Char.utf8Size).sum
  | set s => (s.ranges[0]?).map fun range => (Char.ofNat range.1).utf8Size
  | look _ => some 0
  | group _ e => e.shortest
  | seq parts => shortestInAll parts
  | alt branches => shortestOf branches
  | repeated min _ _ e => e.shortest.map (min * ·)

def shortestInAll : List Expr → Option Nat
  | [] => some 0
  | e :: es =>
    match e.shortest, shortestInAll es with
    | some m, some n => some (m + n)
    | _, _ => none

def shortestOf : List Expr → Option Nat
  | [] => none
  | [e] => e.shortest
  | e :: es =>
    match e.shortest, shortestOf es with
    | some m, some n => some (Nat.min m n)
    | _, _ => none

end

mutual

/-- Matches the empty text only, whatever the assertions in it. -/
def onlyEmpty : Expr → Bool
  | empty => true
  | text chars => chars.isEmpty
  | set _ => false
  | look _ => true
  | group _ e => e.onlyEmpty
  | seq parts => onlyEmptyAll parts
  | alt branches => onlyEmptyAll branches
  | repeated _ max _ e => max.isSome && e.onlyEmpty

def onlyEmptyAll : List Expr → Bool
  | [] => true
  | e :: es => e.onlyEmpty && onlyEmptyAll es

end

/-- Is not known to match no empty text. -/
def nullable (e : Expr) : Bool := e.shortest.getD 0 == 0

/-! ### Assertions at the ends -/

mutual

/-- Matches at the start of the text only. -/
def atStart : Expr → Bool
  | look .textStart => true
  | group _ e => e.atStart
  | seq parts => someAtStart parts
  | alt branches => allAtStart branches
  | repeated min _ _ e => 0 < min && e.atStart
  | _ => false

/-- Some part is that before which nothing is read. -/
def someAtStart : List Expr → Bool
  | [] => false
  | e :: es => e.atStart || (e.onlyEmpty && someAtStart es)

def allAtStart : List Expr → Bool
  | [] => true
  | e :: es => e.atStart && allAtStart es

end

mutual

/-- Matches at the end of the text only. -/
def atEnd : Expr → Bool
  | look .textEnd => true
  | group _ e => e.atEnd
  | seq parts => someAtEnd parts
  | alt branches => allAtEnd branches
  | repeated min _ _ e => 0 < min && e.atEnd
  | _ => false

/-- Some part is that after which nothing is read. -/
def someAtEnd : List Expr → Bool
  | [] => false
  | e :: es => someAtEnd es || (onlyEmptyAll es && e.atEnd)

def allAtEnd : List Expr → Bool
  | [] => true
  | e :: es => e.atEnd && allAtEnd es

end

/-! ### Normal forms -/

/-- One character of a set. A set of one character is a text. -/
def ofSet (s : CharSet) : Expr :=
  match s.single? with
  | some c => text [c]
  | none => set s

/-- The parts of a sequence. -/
def parts : Expr → List Expr
  | seq parts => parts
  | e => [e]

/-- The branches of an alternative. -/
def branches : Expr → List Expr
  | alt branches => branches
  | e => [e]

/-- Puts a part before others: what is empty vanishes, and two texts become one. -/
def consPart : Expr → List Expr → List Expr
  | empty, es => es
  | text a, text b :: es => text (a ++ b) :: es
  | e, es => e :: es

/-- One after another. -/
def sequence (es : List Expr) : Expr :=
  match (es.flatMap parts).foldr consPart [] with
  | [] => empty
  | [e] => e
  | es => seq es

/-- The character of a text of one. -/
def char? : Expr → Option Char
  | text [c] => some c
  | _ => none

def set? : Expr → Option CharSet
  | set s => some s
  | _ => none

/-- One set instead of branches that are all characters or all sets. -/
def mergeSets? (es : List Expr) : Option Expr :=
  match es.mapM char? with
  | some chars => some (ofSet (.ofChars chars))
  | none => (es.mapM set?).map fun sets => ofSet (.ofRanges (sets.flatMap CharSet.toRanges))

/-- One or another, in this order of preference, by branches that do not begin alike. -/
def anyOf (es : List Expr) : Expr :=
  match es.flatMap branches with
  | [] => set (.ofRanges [])
  | [e] => e
  | es => (mergeSets? es).getD (alt es)

/-- What two sequences begin with. -/
def commonParts : List Expr → List Expr → List Expr
  | a :: as, b :: bs => if a == b then a :: commonParts as bs else []
  | _, _ => []

/-- The parts of a sequence of at least two. -/
def parts? : Expr → Option (List Expr)
  | seq parts => some parts
  | _ => none

/-- What all these expressions begin with, if all are sequences. -/
def commonBeginning (es : List Expr) : List Expr :=
  match es.mapM parts? with
  | some (first :: more) => more.foldl commonParts first
  | _ => []

/-- One or another, in this order of preference. -/
def choice (es : List Expr) : Expr :=
  match anyOf es with
  | alt branches =>
    match commonBeginning branches with
    | [] => alt branches
    | common =>
      let rest (e : Expr) : Expr := sequence (e.parts.drop common.length)
      sequence (common ++ [anyOf (branches.map rest)])
  | e => e

/-- At least `min` times, at most `max` times; what is empty at most once. -/
def times (min : Nat) (max : Option Nat) (greedy : Bool) (e : Expr) : Expr :=
  let (min, max) :=
    if e.onlyEmpty then (Nat.min min 1, some (Nat.min (max.getD 1) 1)) else (min, max)
  if max = some 0 then empty
  else if min = 1 && max = some 1 then e
  else repeated min max greedy e

end Expr

end Descent.Regex
