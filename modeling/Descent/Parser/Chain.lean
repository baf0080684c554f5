import Descent.Parser.Basic

/-! Operands with operators between them.

An operator finds the function that combines the operands around it. An operator
whose operand is missing is undone in state and stream, and the chain ends before
it. Neither chain checks that it moves; each takes the number of rounds it may
go. -/
namespace Descent.Parser
variable {ω σ α : Type}

/-- Goes on with an operator and its right operand, or, if one of them fails, ends. -/
@[inline] def link (operator : Parser ω σ (α → α → α)) (operand : Parser ω σ α)
    (s : σ) (t : Stream) (w : ω)
    (more : (α → α → α) → α → σ → Stream → ω → Result ω (Reply σ α))
    (ends : ω → Result ω (Reply σ α)) : Result ω (Reply σ α) :=
  (operator s t w).next fun operation w =>
    match operation.outcome with
    | .error _ => ends w
    | .ok f =>
      (operand operation.state operation.stream w).next fun right w =>
        match right.outcome with
        | .error _ => ends w
        | .ok b => more f b right.state right.stream w

/-- The rest of a chain that groups to the left, whose value so far is `acc`. -/
def chainLeftFrom (operator : Parser ω σ (α → α → α)) (operand : Parser ω σ α) (acc : α) :
    (rounds : Nat) → Parser ω σ α
  | 0, _, _, _ => .outOfFuel
  | rounds + 1, s, t, w =>
    link operator operand s t w
      (fun f b s t w => chainLeftFrom operator operand (f acc b) rounds s t w)
      (fun w => accept s t acc w)

/-- A chain that groups to the left. -/
def chainLeft (rounds : Nat) (operator : Parser ω σ (α → α → α)) (operand : Parser ω σ α) :
    Parser ω σ α := fun s t w =>
  andThen (operand s t w) fun first s t w => chainLeftFrom operator operand first rounds s t w

/-- Combines the left operands that wait, the latest first, with what is right of them. -/
def combineRight (pending : List (α × (α → α → α))) (last : α) : α :=
  pending.foldl (fun acc entry => entry.2 entry.1 acc) last

/-- The rest of a chain that groups to the right, whose left operands wait in
`pending` (the latest first) and whose rightmost operand is `last`. -/
def chainRightFrom (operator : Parser ω σ (α → α → α)) (operand : Parser ω σ α)
    (pending : List (α × (α → α → α))) (last : α) : (rounds : Nat) → Parser ω σ α
  | 0, _, _, _ => .outOfFuel
  | rounds + 1, s, t, w =>
    link operator operand s t w
      (fun f b s t w => chainRightFrom operator operand ((last, f) :: pending) b rounds s t w)
      (fun w => accept s t (combineRight pending last) w)

/-- A chain that groups to the right. -/
def chainRight (rounds : Nat) (operator : Parser ω σ (α → α → α)) (operand : Parser ω σ α) :
    Parser ω σ α := fun s t w =>
  andThen (operand s t w) fun first s t w => chainRightFrom operator operand [] first rounds s t w

end Descent.Parser
