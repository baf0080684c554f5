import Descent.Parser.Choice
import Descent.Parser.Sequence

/-! A parser again and again.

`many` ends at the first failure, and what the failed attempt did to the state
or the stream is gone. It also ends at the first success that leaves the stream
where it was: a parser that finds the empty text would go on for ever. That
last success gives its state and stream, but not its value. `manyTill` has no
such check. Each loop takes the number of rounds it may go. -/
namespace Descent.Parser
variable {ω σ α β γ : Type}

/-- As often as `p` succeeds and moves, after the values `found` (kept in reverse). -/
def manyFrom (p : Parser ω σ α) (found : List α) : (rounds : Nat) → Parser ω σ (List α)
  | 0, _, _, _ => .outOfFuel
  | rounds + 1, s, t, w =>
    (p s t w).next fun reply w =>
      match reply.outcome with
      | .ok value =>
        if reply.stream == t then accept reply.state reply.stream found.reverse w
        else manyFrom p (value :: found) rounds reply.state reply.stream w
      | .error _ => accept s t found.reverse w

/-- As often as it succeeds and moves. -/
def many (rounds : Nat) (p : Parser ω σ α) : Parser ω σ (List α) := manyFrom p [] rounds

/-- Once, whether it moves or not, and then as often as it goes. -/
def many1 (rounds : Nat) (p : Parser ω σ α) : Parser ω σ (List α) := fun s t w =>
  andThen (p s t w) fun first s t w => manyFrom p [first] rounds s t w

/-- Items until `ending` succeeds, which is tried before each, after the values
`found` (kept in reverse). -/
def manyTillFrom (p : Parser ω σ α) (ending : Parser ω σ β) (found : List α) :
    (rounds : Nat) → Parser ω σ (List α)
  | 0, _, _, _ => .outOfFuel
  | rounds + 1, s, t, w =>
    (ending s t w).next fun finished w =>
      match finished.outcome with
      | .ok _ => accept finished.state finished.stream found.reverse w
      | .error _ =>
        andThen (p s t w) fun value s t w => manyTillFrom p ending (value :: found) rounds s t w

/-- Items until `ending` succeeds, which is tried before each. -/
def manyTill (rounds : Nat) (p : Parser ω σ α) (ending : Parser ω σ β) : Parser ω σ (List α) :=
  manyTillFrom p ending [] rounds

/-! ### Separated lists -/

/-- The empty list in place of a failure. -/
def orEmpty (p : Parser ω σ (List α)) : Parser ω σ (List α) := fun s t w =>
  orElse (p s t w) fun _ w => accept s t [] w

/-- An item, and then more items, each after a separator. -/
def sepBy1 (rounds : Nat) (separator : Parser ω σ β) (item : Parser ω σ α) :
    Parser ω σ (List α) := fun s t w =>
  andThen (item s t w) fun first s t w =>
    manyFrom (then_ separator item) [first] rounds s t w

/-- Items with separators between them, or none. -/
def sepBy (rounds : Nat) (separator : Parser ω σ β) (item : Parser ω σ α) : Parser ω σ (List α) :=
  orEmpty (sepBy1 rounds separator item)

/-- Items with separators between them and perhaps one more at the end. -/
def sepEndBy1 (rounds : Nat) (separator : Parser ω σ β) (item : Parser ω σ α) :
    Parser ω σ (List α) :=
  skipRight (sepBy1 rounds separator item) (maybe separator)

/-- Items with separators between them and perhaps one more at the end, or none. -/
def sepEndBy (rounds : Nat) (separator : Parser ω σ β) (item : Parser ω σ α) :
    Parser ω σ (List α) :=
  orEmpty (sepEndBy1 rounds separator item)

/-! ### Without values -/

def skip (p : Parser ω σ α) : Parser ω σ Unit := map (fun _ => ()) p

def skipMany (rounds : Nat) (p : Parser ω σ α) : Parser ω σ Unit := skip (many rounds p)

def skipMany1 (rounds : Nat) (p : Parser ω σ α) : Parser ω σ Unit := skip (many1 rounds p)

end Descent.Parser
