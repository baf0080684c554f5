import Descent.Parser.Basic

/-! One parser or another.

Alternatives are tried in order, each with the state and at the stream of the
choice: what a failed one did to either is gone. The first success is the answer.
When all fail, the choice fails where it began, with the messages of all. -/
namespace Descent.Parser
variable {ω σ α β γ : Type}

/-- The left one, else the right one. -/
def or (left right : Parser ω σ α) : Parser ω σ α := fun s t w =>
  orElse (left s t w) fun messages w =>
    orElse (right s t w) fun more w => reject s t (messages ++ more) w

/-- The first of these to succeed, when `messages` were collected before. -/
def choiceFrom (messages : List String) : List (Parser ω σ α) → Parser ω σ α
  | [], s, t, w => reject s t messages w
  | p :: ps, s, t, w =>
    orElse (p s t w) fun more w => choiceFrom (messages ++ more) ps s t w

/-- The first of these to succeed. -/
def choice (ps : List (Parser ω σ α)) : Parser ω σ α := choiceFrom [] ps

/-- A value in place of a failure. -/
def optional (default : α) (p : Parser ω σ α) : Parser ω σ α := or p (succeed default)

/-- Turns a failure into nothing. -/
def maybe (p : Parser ω σ α) : Parser ω σ (Option α) := fun s t w =>
  (p s t w).next fun reply w =>
    match reply.outcome with
    | .ok value => accept reply.state reply.stream (some value) w
    | .error _ => accept s t none w

/-- Says in one message what was expected. -/
def label (name : String) (p : Parser ω σ α) : Parser ω σ α :=
  mapMessages (fun _ => [s!"expected {name}"]) p

end Descent.Parser
