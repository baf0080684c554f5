import Mathlib.Data.Nat.Notation
import Descent.Text

/-! Parsing expressions.

What a text is to an expression is said by a relation, and not by a program: an
expression consumes a beginning of the text, or fails on it. The number of steps that a
derivation takes goes with it, as in the definition of parsing expression grammars, and
is what inductions are on. A text has no more than one effect (`Derives.unique`), and
may have none: an expression that refers to itself before it reads anything derives
nothing. -/
namespace Descent

/-- Parsing expressions over named rules. -/
inductive Peg where
  | empty
  | any
  | text (x : Text)
  | seq (a b : Peg)
  /-- The first that does not fail. -/
  | choice (a b : Peg)
  /-- As often as it goes. -/
  | star (a : Peg)
  | ahead (a : Peg)
  | not (a : Peg)
  | ref (name : String)

namespace Peg

/-- Fails on every text. -/
abbrev never : Peg := .not .empty

/-- The end of the text. -/
abbrev finish : Peg := .not .any

abbrev optional (a : Peg) : Peg := .choice a .empty

abbrev plus (a : Peg) : Peg := .seq a (.star a)

/-- What becomes of an expression on a text. -/
inductive Effect where
  | consumed (taken rest : Text)
  | failed

/-- **The meaning of parsing expressions**, in so many steps. A repetition of something
that consumes nothing stops there. A name without a rule fails. -/
inductive Derives (rules : String → Option Peg) : Peg → Text → ℕ → Effect → Prop
  | empty {y : Text} : Derives rules .empty y 1 (.consumed [] y)
  | any {c : Char} {y : Text} : Derives rules .any (c :: y) 1 (.consumed [c] y)
  | any_fails : Derives rules .any [] 1 .failed
  | text {x y y' : Text} (h : y = x ++ y') : Derives rules (.text x) y 1 (.consumed x y')
  | text_fails {x y : Text} (h : ¬x <+: y) : Derives rules (.text x) y 1 .failed
  | seq {a b : Peg} {x x' y y' y'' : Text} {m n : ℕ} (ha : Derives rules a y m (.consumed x y'))
      (hb : Derives rules b y' n (.consumed x' y'')) :
      Derives rules (.seq a b) y (m + n + 1) (.consumed (x ++ x') y'')
  | seq_fails_first {a b : Peg} {y : Text} {m : ℕ} (ha : Derives rules a y m .failed) :
      Derives rules (.seq a b) y (m + 1) .failed
  | seq_fails_second {a b : Peg} {x y y' : Text} {m n : ℕ}
      (ha : Derives rules a y m (.consumed x y')) (hb : Derives rules b y' n .failed) :
      Derives rules (.seq a b) y (m + n + 1) .failed
  | choice_first {a b : Peg} {x y y' : Text} {m : ℕ} (ha : Derives rules a y m (.consumed x y')) :
      Derives rules (.choice a b) y (m + 1) (.consumed x y')
  | choice_second {a b : Peg} {y : Text} {m n : ℕ} {o : Effect} (ha : Derives rules a y m .failed)
      (hb : Derives rules b y n o) : Derives rules (.choice a b) y (m + n + 1) o
  | star_ends {a : Peg} {y : Text} {m : ℕ} (ha : Derives rules a y m .failed) :
      Derives rules (.star a) y (m + 1) (.consumed [] y)
  | star_stays {a : Peg} {y y' : Text} {m : ℕ} (ha : Derives rules a y m (.consumed [] y')) :
      Derives rules (.star a) y (m + 1) (.consumed [] y')
  | star_moves {a : Peg} {x x' y y' y'' : Text} {m n : ℕ}
      (ha : Derives rules a y m (.consumed x y')) (hx : x ≠ [])
      (hs : Derives rules (.star a) y' n (.consumed x' y'')) :
      Derives rules (.star a) y (m + n + 1) (.consumed (x ++ x') y'')
  | ahead {a : Peg} {x y y' : Text} {m : ℕ} (ha : Derives rules a y m (.consumed x y')) :
      Derives rules (.ahead a) y (m + 1) (.consumed [] y)
  | ahead_fails {a : Peg} {y : Text} {m : ℕ} (ha : Derives rules a y m .failed) :
      Derives rules (.ahead a) y (m + 1) .failed
  | not {a : Peg} {y : Text} {m : ℕ} (ha : Derives rules a y m .failed) :
      Derives rules (.not a) y (m + 1) (.consumed [] y)
  | not_fails {a : Peg} {x y y' : Text} {m : ℕ} (ha : Derives rules a y m (.consumed x y')) :
      Derives rules (.not a) y (m + 1) .failed
  | ref {name : String} {a : Peg} {y : Text} {m : ℕ} {o : Effect} (hname : rules name = some a)
      (ha : Derives rules a y m o) : Derives rules (.ref name) y (m + 1) o
  | ref_fails {name : String} {y : Text} (hname : rules name = none) :
      Derives rules (.ref name) y 1 .failed

namespace Derives
variable {rules : String → Option Peg} {a : Peg} {y : Text} {m n : ℕ} {o o' : Effect}

/-- **There is one effect.** -/
theorem unique (h : Derives rules a y m o) (h' : Derives rules a y n o') : o = o' := by
  -- another derivation has the same parts, or begins with an effect that they do not have
  induction h generalizing n o' with
  | empty | any | any_fails => cases h'; rfl
  | text h =>
    cases h' with
    | text h' => cases List.append_cancel_left (h.symm.trans h'); rfl
    | text_fails h' => exact (h' ⟨_, h.symm⟩).elim
  | text_fails h =>
    cases h' with
    | text h' => exact (h ⟨_, h'.symm⟩).elim
    | text_fails => rfl
  | seq _ _ iha ihb | seq_fails_second _ _ iha ihb | choice_second _ _ iha ihb
    | star_moves _ _ _ iha ihb => cases h' <;> grind
  | seq_fails_first _ ih | choice_first _ ih | star_ends _ ih | star_stays _ ih | ahead _ ih
    | ahead_fails _ ih | not _ ih | not_fails _ ih | ref _ _ ih => cases h' <;> grind
  | ref_fails => cases h' <;> grind

end Derives

end Peg

end Descent
