import Descent.Parser.Basic

/-! One parser after another.

The next parser goes on where the last one stopped, with its state. The first
failure is the failure of the whole and nothing after it is applied. -/
namespace Descent.Parser
variable {ω σ α β γ : Type}

/-- Both, of which the second value counts. -/
def then_ (first : Parser ω σ α) (second : Parser ω σ β) : Parser ω σ β := fun s t w =>
  andThen (first s t w) fun _ s t w => second s t w

/-- Both values. -/
def pair (first : Parser ω σ α) (second : Parser ω σ β) : Parser ω σ (α × β) := fun s t w =>
  andThen (first s t w) fun a s t w =>
    (second s t w).next fun reply w => .done (reply.map fun b => (a, b)) w

/-- Both, of which the first value counts. -/
def skipRight (first : Parser ω σ α) (second : Parser ω σ β) : Parser ω σ α :=
  map Prod.fst (pair first second)

/-- A function and what it is applied to. -/
def ap (function : Parser ω σ (α → β)) (p : Parser ω σ α) : Parser ω σ β :=
  map (fun fa => fa.1 fa.2) (pair function p)

/-- Between two parsers whose values do not count. -/
def between (opening : Parser ω σ α) (closing : Parser ω σ β) (p : Parser ω σ γ) : Parser ω σ γ :=
  skipRight (then_ opening p) closing

/-! ### In terms of `bind` -/

theorem pair_eq_bind (first : Parser ω σ α) (second : Parser ω σ β) :
    pair first second = bind first fun a => bind second fun b => succeed (a, b) := by
  have hpair : pair first second = bind first fun a => map (fun b => (a, b)) second := rfl
  simp only [hpair, map_eq_bind]

theorem skipRight_eq_bind (first : Parser ω σ α) (second : Parser ω σ β) :
    skipRight first second = bind first fun a => bind second fun _ => succeed a := by
  simp only [skipRight, pair_eq_bind, map_eq_bind, bind_bind, succeed_bind]

theorem ap_eq_bind (function : Parser ω σ (α → β)) (p : Parser ω σ α) :
    ap function p = bind function fun f => bind p fun a => succeed (f a) := by
  simp only [ap, pair_eq_bind, map_eq_bind, bind_bind, succeed_bind]

theorem between_eq_bind (opening : Parser ω σ α) (closing : Parser ω σ β) (p : Parser ω σ γ) :
    between opening closing p =
      bind opening fun _ => bind p fun c => bind closing fun _ => succeed c := by
  have hthen : then_ opening p = bind opening fun _ => p := rfl
  simp only [between, skipRight_eq_bind, hthen, bind_bind]

/-! ### Any number of parsers -/

/-- All of them in order, after the values `found` (kept in reverse). -/
def sequenceFrom (found : List α) : List (Parser ω σ α) → Parser ω σ (List α)
  | [], s, t, w => accept s t found.reverse w
  | p :: ps, s, t, w => andThen (p s t w) fun a s t w => sequenceFrom (a :: found) ps s t w

/-- All of them in order. -/
def sequence (ps : List (Parser ω σ α)) : Parser ω σ (List α) := sequenceFrom [] ps

/-- The same parser `n` more times, after the values `found` (kept in reverse). -/
def countFrom (p : Parser ω σ α) (found : List α) : Nat → Parser ω σ (List α)
  | 0, s, t, w => accept s t found.reverse w
  | n + 1, s, t, w => andThen (p s t w) fun a s t w => countFrom p (a :: found) n s t w

/-- The same parser `n` times. -/
def count (n : Nat) (p : Parser ω σ α) : Parser ω σ (List α) := countFrom p [] n

end Descent.Parser
