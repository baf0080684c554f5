import Descent.Stream

/-! Parsers.

A parser takes the caller's state and a stream and gives a `Reply`: a state, a
stream and an outcome, which is a value or a list of messages. On the way it may
use and change a *world*, of which the combinators know nothing: they only hand
it from one application to the next, in order. What else can happen to an
application is in `Result`: a stream was moved to where it cannot stand
(`fault`), or the fuel that bounds loops and recursion ran out (`outOfFuel`).
Both end everything around them, which is what `Result.next` says. -/
namespace Descent

/-- How a computation in a world ends. -/
inductive Result (ω β : Type) where
  | done (value : β) (world : ω)
  /-- A stream could not be moved as asked; the world is as it was at that moment. -/
  | fault (cause : Fault) (world : ω)
  | outOfFuel

namespace Result
variable {ω β γ : Type}

/-- Goes on with the value and the world of a computation that is done. -/
@[inline] def next (r : Result ω β) (k : β → ω → Result ω γ) : Result ω γ :=
  match r with
  | .done value world => k value world
  | .fault cause world => .fault cause world
  | .outOfFuel => .outOfFuel

/-- Changes the world in which a computation ended, whether it is done or not. -/
@[inline] def settle (r : Result ω β) (f : ω → ω) : Result ω β :=
  match r with
  | .done value world => .done value (f world)
  | .fault cause world => .fault cause (f world)
  | .outOfFuel => .outOfFuel

@[simp] theorem next_done (b : β) (w : ω) (k : β → ω → Result ω γ) :
    (done b w).next k = k b w := rfl

@[simp] theorem next_fault (f : Fault) (w : ω) (k : β → ω → Result ω γ) :
    (fault f w).next k = fault f w := rfl

@[simp] theorem next_outOfFuel (k : β → ω → Result ω γ) :
    (outOfFuel : Result ω β).next k = outOfFuel := rfl

theorem next_next {δ : Type} (r : Result ω β) (k : β → ω → Result ω γ) (l : γ → ω → Result ω δ) :
    (r.next k).next l = r.next fun b w => (k b w).next l := by
  cases r <;> rfl

end Result

/-- What a parser found, or the messages that say what it did not find. -/
abbrev Outcome (α : Type) := Except (List String) α

/-- The answer of a parser. -/
structure Reply (σ α : Type) where
  state : σ
  stream : Stream
  outcome : Outcome α

namespace Reply
variable {σ α β : Type}

def map (f : α → β) (r : Reply σ α) : Reply σ β :=
  { state := r.state, stream := r.stream, outcome := r.outcome.map f }

def mapMessages (f : List String → List String) (r : Reply σ α) : Reply σ α :=
  { r with outcome := r.outcome.mapError f }

/-- Equal state, equal stream and equal outcome. -/
def same [BEq σ] [BEq α] (r s : Reply σ α) : Bool :=
  r.state == s.state && r.stream == s.stream &&
    match r.outcome, s.outcome with
    | .ok a, .ok b => a == b
    | .error l, .error m => l == m
    | _, _ => false

end Reply

/-- A parser over worlds `ω` and caller states `σ` for values in `α`. -/
abbrev Parser (ω σ α : Type) := σ → Stream → ω → Result ω (Reply σ α)

namespace Parser
variable {ω σ α β γ : Type}

/-- The reply of success. -/
@[inline] def accept (state : σ) (stream : Stream) (value : α) (world : ω) : Result ω (Reply σ α) :=
  .done ⟨state, stream, .ok value⟩ world

/-- The reply of failure. -/
@[inline] def reject (state : σ) (stream : Stream) (messages : List String) (world : ω) :
    Result ω (Reply σ α) :=
  .done ⟨state, stream, .error messages⟩ world

/-- Goes on after a success and lets a failure pass as it is. -/
@[inline] def andThen (r : Result ω (Reply σ α))
    (k : α → σ → Stream → ω → Result ω (Reply σ β)) : Result ω (Reply σ β) :=
  r.next fun reply world =>
    match reply.outcome with
    | .ok value => k value reply.state reply.stream world
    | .error messages => reject reply.state reply.stream messages world

/-- Goes on after a failure and lets a success pass as it is. -/
@[inline] def orElse (r : Result ω (Reply σ α))
    (k : List String → ω → Result ω (Reply σ α)) : Result ω (Reply σ α) :=
  r.next fun reply world =>
    match reply.outcome with
    | .ok _ => .done reply world
    | .error messages => k messages world

/-! ### Values and failures -/

/-- Finds the value without reading anything. -/
def succeed (value : α) : Parser ω σ α := fun s t w => accept s t value w

/-- Finds nothing. -/
def fail (message : String) : Parser ω σ α := fun s t w => reject s t [message] w

/-- Changes the value. -/
def map (f : α → β) (p : Parser ω σ α) : Parser ω σ β := fun s t w =>
  (p s t w).next fun reply w => .done (reply.map f) w

/-- Changes the messages of a failure. -/
def mapMessages (f : List String → List String) (p : Parser ω σ α) : Parser ω σ α := fun s t w =>
  (p s t w).next fun reply w => .done (reply.mapMessages f) w

/-- Chooses the next parser by the value found. -/
def bind (p : Parser ω σ α) (f : α → Parser ω σ β) : Parser ω σ β := fun s t w =>
  andThen (p s t w) fun value s t w => f value s t w

/-! ### Laws of `bind` -/

theorem succeed_bind (value : α) (f : α → Parser ω σ β) : bind (succeed value) f = f value := rfl

theorem bind_succeed (p : Parser ω σ α) : bind p succeed = p := by
  funext s t w
  show (p s t w).next _ = _
  cases p s t w with
  | done reply w' => obtain ⟨s', t', messages | value⟩ := reply <;> rfl
  | fault cause w' => rfl
  | outOfFuel => rfl

theorem bind_bind (p : Parser ω σ α) (f : α → Parser ω σ β) (g : β → Parser ω σ γ) :
    bind (bind p f) g = bind p fun value => bind (f value) g := by
  funext s t w
  simp only [bind, andThen, Result.next_next]
  congr 1
  funext reply w
  obtain ⟨s', t', messages | value⟩ := reply <;> rfl

theorem map_eq_bind (f : α → β) (p : Parser ω σ α) :
    map f p = bind p fun value => succeed (f value) := by
  funext s t w
  show (p s t w).next _ = (p s t w).next _
  congr 1
  funext reply w
  obtain ⟨s', t', messages | value⟩ := reply <;> rfl

end Parser

end Descent
