import Descent.Regex.Basic
import Descent.Text.Digit

/-! Reading patterns.

A pattern is read from left to right under `Flags`, which groups can set: for
themselves, or from within for what follows up to the end of the enclosing group.
Reading gives the expression or nothing; why a pattern is none is not told. Each
function takes the text from where it stands and gives back the rest. Recursion
goes into groups and sets; the fuel is a bound on both and on the number of
items, for which twice the length of the pattern is enough.

How deep groups, sets, repetitions, sequences and alternatives nest in a pattern
is counted as it is written, and has a bound (`maxDepth`). -/
namespace Descent.Regex
open Unicode

/-- How a part of a pattern is to be read. -/
structure Flags where
  ignoreCase : Bool := false
  /-- Line starts and ends are those of all lines, not of the text. -/
  multiLine : Bool := false
  /-- The dot matches line feeds too. -/
  dotAll : Bool := false
  /-- Repetitions are greedy where they otherwise would not be, and the reverse. -/
  swapGreed : Bool := false
  /-- Lines may end with carriage returns. -/
  crlf : Bool := false
  /-- Blanks and comments in the pattern do not count. -/
  ignoreSpace : Bool := false
  /-- Sets are sets of characters, not of ASCII characters and raw bytes. -/
  unicode : Bool := true
deriving Repr

namespace Flags

/-- Sets the flag of a letter. -/
def set? (flags : Flags) (letter : Char) (on : Bool) : Option Flags :=
  match letter with
  | 'i' => some { flags with ignoreCase := on }
  | 'm' => some { flags with multiLine := on }
  | 's' => some { flags with dotAll := on }
  | 'U' => some { flags with swapGreed := on }
  | 'R' => some { flags with crlf := on }
  | 'x' => some { flags with ignoreSpace := on }
  | 'u' => some { flags with unicode := on }
  | _ => none

/-- Reads flags up to a closing bracket or a colon, which is given with the rest.
`seen` are the letters and the hyphen that were read: none may come twice, and a
hyphen has to be followed by a letter. -/
def read (flags : Flags) (seen : List Char) : Text → Option (Flags × List Char × Char × Text)
  | [] => none
  | c :: rest =>
    if c = ':' || c = ')' then
      if seen.head? == some '-' then none else some (flags, seen, c, rest)
    else if seen.contains c then none
    else if c = '-' then read flags (c :: seen) rest
    else
      match flags.set? c (!seen.contains '-') with
      | some flags => read flags (c :: seen) rest
      | none => none

/-- The rest after blanks and comments. -/
def skipSpacesFrom (inComment : Bool) : Text → Text
  | [] => []
  | c :: rest =>
    if inComment then skipSpacesFrom (c ≠ '\n') rest
    else if isWhiteSpace c then skipSpacesFrom false rest
    else if c = '#' then skipSpacesFrom true rest
    else c :: rest

theorem length_skipSpacesFrom (inComment : Bool) (t : Text) :
    (skipSpacesFrom inComment t).length ≤ t.length := by
  fun_induction skipSpacesFrom inComment t <;> grind

/-- The rest after what does not count. -/
def skipSpaces (flags : Flags) (t : Text) : Text :=
  if flags.ignoreSpace then skipSpacesFrom false t else t

theorem length_skipSpaces (flags : Flags) (t : Text) : (flags.skipSpaces t).length ≤ t.length := by
  unfold skipSpaces
  split
  · exact length_skipSpacesFrom false t
  · exact Nat.le_refl _

/-- The character that comes next where blanks do not count. Of a comment only the sign
before it is passed over. -/
def peek (flags : Flags) (t : Text) : Option Char :=
  if flags.ignoreSpace then
    match t.dropWhile isWhiteSpace with
    | '#' :: t => (t.dropWhile isWhiteSpace).head?
    | t => t.head?
  else t.head?

end Flags

/-! ### Numbers and names -/

/-- The characters up to a closing brace. -/
def untilBrace (flags : Flags) (acc : Text) : Text → Option (Text × Text)
  | [] => none
  | c :: rest =>
    have := flags.length_skipSpaces rest
    if c = '\x7d' then some (acc.reverse, rest)
    else untilBrace flags (c :: acc) (flags.skipSpaces rest)
termination_by t => t.length
decreasing_by grind

/-- The digits of a number. -/
def digitsFrom (flags : Flags) (acc : Text) : Text → Text × Text
  | [] => (acc.reverse, [])
  | c :: rest =>
    have := flags.length_skipSpaces rest
    if c.isDigit then digitsFrom flags (c :: acc) (flags.skipSpaces rest)
    else (acc.reverse, c :: rest)
termination_by t => t.length
decreasing_by grind

/-- A number of 32 bits with blanks around it. -/
def count? (flags : Flags) (t : Text) : Option (Nat × Text) :=
  let t := t.dropWhile isWhiteSpace
  let (digits, t) := digitsFrom flags [] t
  let n := Text.decimalValue digits
  if digits.isEmpty || Nat.pow 2 32 ≤ n then none
  else some (n, flags.skipSpaces (t.dropWhile isWhiteSpace))

/-- The bounds of a counted repetition, from after its opening brace to after the
closing one. -/
def bounds? (flags : Flags) (t : Text) : Option ((Nat × Option Nat) × Text) := do
  let (min, t) ← count? flags (flags.skipSpaces t)
  match t with
  | '\x7d' :: t => some ((min, some min), t)
  | ',' :: t =>
    match flags.skipSpaces t with
    | '\x7d' :: t => some ((min, none), t)
    | t => do
      let (max, t) ← count? flags t
      match t with
      | '\x7d' :: t => if min ≤ max then some ((min, some max), t) else none
      | _ => none
  | _ => none

/-- The character that hexadecimal digits name. -/
def hexChar? (digits : Text) : Option Char := do
  if digits.isEmpty then none
  let n ← digits.foldlM (fun n c => (Text.hexValue? c).map (n * 16 + ·)) 0
  if n.isValidChar then some (Char.ofNat n) else none

/-- So many hexadecimal digits. -/
def hexDigits? (flags : Flags) (acc : Text) : (count : Nat) → Text → Option (Text × Text)
  | 0, t => some (acc.reverse, t)
  | _ + 1, [] => none
  | count + 1, c :: rest =>
    hexDigits? flags (c :: acc) count (if count = 0 then rest else flags.skipSpaces rest)

/-- The name of a group, up to a closing angle bracket. -/
def groupName? (acc : Text) : Text → Option (Text × Text)
  | [] => none
  | c :: rest =>
    if c = '>' then if acc.isEmpty then none else some (acc.reverse, rest)
    else if c = '_' || isAlphabetic c ||
        !acc.isEmpty && (c = '.' || c = '[' || c = ']' || isNumber c) then
      groupName? (c :: acc) rest
    else none

/-! ### Escapes -/

/-- What a backslash and what follows it stand for. -/
inductive Atom where
  /-- One character; `byte` if it was written as a byte. -/
  | literal (c : Char) (byte : Bool)
  | set (set : CharSet)
  | look (assertion : Look)

/-- A character that stands for itself after a backslash. -/
def isEscapable (c : Char) : Bool := c.toNat < 128 && !c.isAlphanum && c ≠ '<' && c ≠ '>'

/-- A set with all that differs in case only, where case does not count. -/
def forgetCase (flags : Flags) (s : CharSet) : CharSet :=
  if flags.ignoreCase then s.anyCase (CharClass.caseOrbits flags.unicode) else s

/-- A set, unless it has other than ASCII characters without Unicode: it would have bytes
then that are no characters. -/
def charsOnly? (flags : Flags) (s : CharSet) : Option CharSet :=
  if flags.unicode || s.isAscii then some s else none

/-- Digits, blanks or characters of words. -/
def shorthand? (flags : Flags) (letter : Char) : Option CharSet :=
  let set := match letter.toLower with
    | 'd' => CharClass.digits flags.unicode
    | 's' => CharClass.spaces flags.unicode
    | _ => CharClass.word flags.unicode
  charsOnly? flags (set.negate letter.isUpper)

/-- A property, from after its letter. -/
def propertyClass? (flags : Flags) (negated : Bool) (t : Text) : Option (CharSet × Text) := do
  if !flags.unicode then none
  let separates (c : Char) : Bool := c = '!' || c = ':' || c = '='
  let named (negated : Bool) (set : CharSet) (t : Text) : CharSet × Text :=
    ((forgetCase flags set).negate negated, t)
  match flags.skipSpaces t with
  | [] => none
  | '\x7b' :: t =>
    let (name, t) ← untilBrace flags [] (flags.skipSpaces t)
    let key := name.takeWhile (!separates ·)
    match name.dropWhile (!separates ·) with
    | '!' :: '=' :: value => some (named (!negated) (← CharSet.ofValue? key value) t)
    | ':' :: value | '=' :: value => some (named negated (← CharSet.ofValue? key value) t)
    | _ => some (named negated (← CharSet.ofName? name) t)
  | c :: t => some (named negated (← CharSet.ofName? [c]) t)

/-- The word test of a name in braces. -/
def wordTest? (name : Text) : Option WordTest :=
  match String.ofList name with
  | "start" => some .starts
  | "end" => some .ends
  | "start-half" => some .startsHalf
  | "end-half" => some .endsHalf
  | _ => none

/-- A character that can stand in the name of a word test. -/
def isWordTestChar (c : Char) : Bool := c.isAlpha || c = '-'

/-- A character by its number, from after the letter that announces `count` digits. -/
def numbered? (flags : Flags) (count : Nat) (t : Text) : Option (Atom × Text) := do
  match flags.skipSpaces t with
  | '\x7b' :: t =>
    let (digits, t) ← untilBrace flags [] (flags.skipSpaces t)
    some (.literal (← hexChar? digits) false, t)
  | t =>
    let (digits, t) ← hexDigits? flags [] count t
    some (.literal (← hexChar? digits) (count = 2), t)

/-- An escape, from after its backslash. -/
def escape? (flags : Flags) : Text → Option (Atom × Text)
  | [] => none
  | c :: t =>
    let word (test : WordTest) : Atom := .look (.word flags.unicode test)
    match c with
    | 'x' => numbered? flags 2 t
    | 'u' => numbered? flags 4 t
    | 'U' => numbered? flags 8 t
    | 'p' => (propertyClass? flags false t).map fun (set, t) => (.set set, t)
    | 'P' => (propertyClass? flags true t).map fun (set, t) => (.set set, t)
    | 'd' | 's' | 'w' | 'D' | 'S' | 'W' => (shorthand? flags c).map fun set => (.set set, t)
    | 'a' => some (.literal '\x07' false, t)
    | 'f' => some (.literal '\x0c' false, t)
    | 't' => some (.literal '\t' false, t)
    | 'n' => some (.literal '\n' false, t)
    | 'r' => some (.literal '\r' false, t)
    | 'v' => some (.literal '\x0b' false, t)
    | 'A' => some (.look .textStart, t)
    | 'z' => some (.look .textEnd, t)
    | 'B' => some (word .noBoundary, t)
    | '<' => some (word .starts, t)
    | '>' => some (word .ends, t)
    | 'b' =>
      match t with
      | '\x7b' :: rest =>
        match flags.skipSpaces rest with
        | [] => none
        | first :: more =>
          if isWordTestChar first then do
            let (name, rest) ← untilBrace flags [] (first :: more)
            let test ← wordTest? name
            some (word test, rest)
          else some (word .boundary, t)
      | t => some (word .boundary, t)
    | _ => if isEscapable c then some (.literal c false, t) else none

/-! ### Sets in brackets -/

/-- The operations between sets in brackets. -/
inductive SetOp where
  | inter | diff | symmDiff
deriving BEq, DecidableEq, Repr

def SetOp.apply : SetOp → CharSet → CharSet → CharSet
  | inter => .inter
  | diff => .diff
  | symmDiff => .symmDiff

/-- A named ASCII set, from after its bracket and colon; `none` within if it has other
characters where it must not. -/
def asciiClass? (flags : Flags) (t : Text) : Option (Option CharSet × Text) := do
  let negated := t.head? == some '^'
  let t := if negated then t.drop 1 else t
  let ranges ← CharClass.named? (String.ofList (t.takeWhile (· ≠ ':')))
  match t.dropWhile (· ≠ ':') with
  | ':' :: ']' :: t =>
    some (charsOnly? flags ((forgetCase flags (.ofRanges ranges)).negate negated), t)
  | _ => none

/-- One character of a set or a set by escape. -/
def setAtom? (flags : Flags) : Text → Option (Atom × Text)
  | [] => none
  | '\\' :: t => escape? flags t
  | c :: t => some (.literal c false, t)

/-- A character of a set; without Unicode it has to be an ASCII one. -/
def setLiteral? (flags : Flags) : Atom → Option Char
  | .literal c _ => if flags.unicode || c.toNat < 128 then some c else none
  | _ => none

/-- A character, a range, or a set by escape. -/
def setRange? (flags : Flags) (t : Text) : Option (Ranges × Text) := do
  let (first, t) ← setAtom? flags t
  let lone (t : Text) : Option (Ranges × Text) := do
    match first with
    | .set set => some (set.toRanges, t)
    | .look _ => none
    | atom =>
      let c ← setLiteral? flags atom
      some ([(c.toNat, c.toNat)], t)
  match flags.skipSpaces t with
  | [] => none
  | '-' :: t =>
    if flags.peek t == some ']' || flags.peek t == some '-' then lone ('-' :: t)
    else do
      let (last, t) ← setAtom? flags (flags.skipSpaces t)
      let first ← setLiteral? flags first
      let last ← setLiteral? flags last
      if first ≤ last then some ([(first.toNat, last.toNat)], t) else none
  | t => lone t

/-- What was read of a set: the ranges of its items, how many items there were, and how
deep sets nest in them. -/
structure Items where
  ranges : Ranges := []
  count : Nat := 0
  depth : Nat := 0

namespace Items

def add (items : Items) (ranges : Ranges) (depth : Nat) : Items :=
  ⟨ranges ++ items.ranges, items.count + 1, Nat.max depth items.depth⟩

/-- How deep the items nest together: several are one level. -/
def nesting (items : Items) : Nat := if 1 < items.count then items.depth + 1 else items.depth

end Items

/-- A set with how deep the sets nest of which it is made. -/
structure Nested where
  set : CharSet
  depth : Nat

/-- The hyphens at the beginning of a set, and a closing bracket if it comes first: they
stand for themselves. -/
def leading (flags : Flags) (items : Items) : Text → Items × Text
  | '-' :: t =>
    have := flags.length_skipSpaces t
    leading flags (items.add [('-'.toNat, '-'.toNat)] 0) (flags.skipSpaces t)
  | ']' :: t =>
    if 0 < items.count then (items, ']' :: t)
    else (items.add [(']'.toNat, ']'.toNat)] 0, flags.skipSpaces t)
  | t => (items, t)
termination_by t => t.length
decreasing_by grind

/-- What the items make with the pending operation on what was before. -/
def settle (flags : Flags) (pending : Option (SetOp × Nested)) (items : Items) : Nested :=
  let set := CharSet.ofRanges items.ranges
  match pending with
  | none => ⟨set, items.nesting⟩
  | some (op, left) =>
    ⟨op.apply (forgetCase flags left.set) (forgetCase flags set),
      Nat.max left.depth items.nesting + 1⟩

mutual

/-- A set, from after its opening bracket. -/
def set? (flags : Flags) : (fuel : Nat) → Text → Option (Nested × Text)
  | 0, _ => none
  | fuel + 1, t => do
    let t := flags.skipSpaces t
    let negated := t.head? == some '^'
    let t := if negated then flags.skipSpaces (t.drop 1) else t
    let (items, t) := leading flags {} t
    let (inner, t) ← setItems? flags fuel none items t
    let set ← charsOnly? flags ((forgetCase flags inner.set).negate negated)
    some (⟨set, inner.depth + 1⟩, t)

/-- What is left of a set, after these items and a pending operation on them. -/
def setItems? (flags : Flags) : (fuel : Nat) → (pending : Option (SetOp × Nested)) →
    (items : Items) → Text → Option (Nested × Text)
  | 0, _, _, _ => none
  | fuel + 1, pending, items, t =>
    let operate (op : SetOp) (t : Text) : Option (Nested × Text) :=
      setItems? flags fuel (some (op, settle flags pending items)) {} t
    match flags.skipSpaces t with
    | [] => none
    | ']' :: t => some (settle flags pending items, t)
    | '&' :: '&' :: t => operate .inter t
    | '-' :: '-' :: t => operate .diff t
    | '~' :: '~' :: t => operate .symmDiff t
    | '[' :: t =>
      let named := match t with
        | ':' :: t => asciiClass? flags t
        | _ => none
      match named with
      | some (set, t) => do setItems? flags fuel pending (items.add (← set).toRanges 0) t
      | none => do
        let (inner, t) ← set? flags fuel t
        setItems? flags fuel pending (items.add inner.set.toRanges inner.depth) t
    | t => do
      let (ranges, t) ← setRange? flags t
      setItems? flags fuel pending (items.add ranges 0) t

end

/-! ### Expressions -/

/-- A character that stands for itself. -/
def literalExpr? (flags : Flags) (c : Char) (byte : Bool) : Option Expr :=
  if !flags.unicode && byte && 127 < c.toNat then none
  else if flags.ignoreCase then
    some (.ofSet (variants (CharClass.caseOrbits flags.unicode) c))
  else some (.text [c])

/-- An escape outside of sets. -/
def atomExpr? (flags : Flags) : Atom → Option Expr
  | .literal c byte => literalExpr? flags c byte
  | .set set => some (.ofSet set)
  | .look assertion => some (.look assertion)

/-- Any character but those that end lines, or just any. -/
def dotExpr? (flags : Flags) : Option Expr :=
  let ends := if flags.dotAll then [] else if flags.crlf then ['\r', '\n'] else ['\n']
  (charsOnly? flags (CharSet.ofChars ends).compl).map .ofSet

/-- What comes after an opening bracket. -/
inductive Opening where
  /-- Flags for what follows. -/
  | setting (flags : Flags)
  /-- A group with the flags in it, whether it is counted, and its name. -/
  | group (flags : Flags) (counted : Bool) (name : Option Text)

/-- The beginning of a group, from after its bracket. -/
def opening? (flags : Flags) (t : Text) : Option (Opening × Text) :=
  let named (t : Text) : Option (Opening × Text) := do
    let (name, t) ← groupName? [] t
    some (.group flags true name, t)
  match flags.skipSpaces t with
  | '?' :: '=' :: _ | '?' :: '!' :: _ | '?' :: '<' :: '=' :: _ | '?' :: '<' :: '!' :: _ => none
  | '?' :: 'P' :: '<' :: t => named t
  | '?' :: '<' :: t => named t
  | '?' :: t => do
    let (inner, seen, last, t) ← flags.read [] t
    if last = ':' then some (.group inner false none, t)
    else if seen.isEmpty then none
    else some (.setting inner, t)
  | t => some (.group flags true none, t)

/-- The most levels that a pattern may nest. -/
def maxDepth : Nat := 250

/-- A part of a pattern, with how deep it nests. -/
structure Part where
  expr : Expr
  depth : Nat
  /-- It is a setting of flags, which cannot be repeated. -/
  isSetting : Bool := false

namespace Part

/-- The depth of parts side by side: several are one level. -/
def nesting (parts : List Part) : Nat :=
  let depth := (parts.map depth).foldl Nat.max 0
  if 1 < parts.length then depth + 1 else depth

/-- One after another. -/
def sequence (parts : List Part) : Part := ⟨.sequence (parts.map expr), nesting parts, false⟩

/-- One or another. -/
def choice (parts : List Part) : Part := ⟨.choice (parts.map expr), nesting parts, false⟩

end Part

/-- What a reader has after an expression: the flags, the names and the number of the groups
so far, and the rest. -/
structure Cursor where
  flags : Flags
  names : List Text
  groups : Nat
  rest : Text

/-- Goes into a group: its name is taken, and it is counted. -/
def Cursor.enter? (cursor : Cursor) (inner : Flags) (counted : Bool) (name : Option Text)
    (t : Text) : Option Cursor :=
  match name with
  | some name =>
    if cursor.names.contains name then none
    else some ⟨inner, name :: cursor.names, cursor.groups + 1, t⟩
  | none => some ⟨inner, cursor.names, if counted then cursor.groups + 1 else cursor.groups, t⟩

/-- Reads an expression up to the end or to a closing bracket that is not its own.
`branches` are the alternatives before, and `items` the parts of the current one, both
in reverse. -/
def alternation? : (fuel : Nat) → (branches : List Part) → (items : List Part) →
    Cursor → Option (Part × Cursor)
  | 0, _, _, _ => none
  | fuel + 1, branches, items, cursor =>
    let flags := cursor.flags
    let go (item : Part) (t : Text) : Option (Part × Cursor) :=
      alternation? fuel branches (item :: items) { cursor with rest := t }
    let finish (t : Text) : Option (Part × Cursor) :=
      some (.choice (.sequence items.reverse :: branches).reverse, { cursor with rest := t })
    let repeated (min : Nat) (max : Option Nat) (t : Text) : Option (Part × Cursor) :=
      match items with
      | item :: items =>
        if item.isSetting then none
        else
          let (greedy, t) := match t with
            | '?' :: t => (flags.swapGreed, t)
            | t => (!flags.swapGreed, t)
          alternation? fuel branches
            (⟨.times min max greedy item.expr, item.depth + 1, false⟩ :: items)
            { cursor with rest := t }
      | [] => none
    match flags.skipSpaces cursor.rest with
    | [] => finish []
    | ')' :: t => finish (')' :: t)
    | '|' :: t =>
      alternation? fuel (.sequence items.reverse :: branches) [] { cursor with rest := t }
    | '(' :: t => do
      match ← opening? flags t with
      | (.setting flags, t) =>
        alternation? fuel branches (⟨.empty, 0, true⟩ :: items) { cursor with flags, rest := t }
      | (.group inner counted name, t) =>
        let inside ← cursor.enter? inner counted name t
        let (part, after) ← alternation? fuel [] [] inside
        let e := if counted then .group inside.groups part.expr else part.expr
        match after.rest with
        | ')' :: t =>
          alternation? fuel branches (⟨e, part.depth + 1, false⟩ :: items)
            { after with flags, rest := t }
        | _ => none
    | '[' :: t => do
      let (inner, t) ← set? flags fuel t
      go ⟨.ofSet inner.set, inner.depth, false⟩ t
    | '?' :: t => repeated 0 (some 1) t
    | '*' :: t => repeated 0 none t
    | '+' :: t => repeated 1 none t
    | '\x7b' :: t => do
      if items.isEmpty then none
      let ((min, max), t) ← bounds? flags t
      repeated min max (flags.skipSpaces t)
    | '.' :: t => do go ⟨← dotExpr? flags, 0, false⟩ t
    | '^' :: t =>
      go ⟨.look (if flags.multiLine then .lineStart flags.crlf else .textStart), 0, false⟩ t
    | '$' :: t =>
      go ⟨.look (if flags.multiLine then .lineEnd flags.crlf else .textEnd), 0, false⟩ t
    | '\\' :: t => do
      let (atom, t) ← escape? flags t
      go ⟨← atomExpr? flags atom, 0, false⟩ t
    | c :: t => do go ⟨← literalExpr? flags c false, 0, false⟩ t

/-- The expression that a pattern is. -/
def Expr.ofPattern? (t : Text) : Option Expr := do
  let (part, after) ← alternation? (2 * t.length + 4) [] [] ⟨{}, [], 0, t⟩
  if after.rest.isEmpty && part.depth ≤ maxDepth then some part.expr else none

end Descent.Regex
