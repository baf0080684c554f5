import Descent.Parser.Choice

/-! Ordered choice.

However alternatives are bracketed two by two, they are tried in the same order, each with
the state and at the stream of the whole, and what they say when they fail is put together
in that order. So a tree of `or` is the `choice` of its leaves, and a choice may be split
anywhere (`alternatives_flatten`). A choice fails where it began, whatever its alternatives
did on the way, when all of them have failed, and with all that they said (`Refused`). -/
namespace Descent.Parser
variable {ω σ α : Type}

/-- Alternatives, bracketed two by two. -/
inductive Alternatives (P : Type) where
  | one (p : P)
  | either (left right : Alternatives P)

namespace Alternatives

/-- The alternatives themselves, from left to right. -/
def leaves {P : Type} : Alternatives P → List P
  | one p => [p]
  | either left right => left.leaves ++ right.leaves

/-- The parser in which every bracket is an `or`. -/
def parser : Alternatives (Parser ω σ α) → Parser ω σ α
  | one p => p
  | either left right => or left.parser right.parser

end Alternatives

/-- The alternatives fail one after another, all with the same state and at the same
stream, with these messages `each`. Only the world goes from one to the next. -/
inductive Refused (s : σ) (t : Stream) :
    List (Parser ω σ α) → ω → (each : List (List String)) → ω → Prop
  | nil (w : ω) : Refused s t [] w [] w
  | cons {p : Parser ω σ α} {ps : List (Parser ω σ α)} {s' : σ} {t' : Stream}
      {messages : List String} {each : List (List String)} {w w' w'' : ω}
      (fails : p s t w = reject s' t' messages w') (more : Refused s t ps w' each w'') :
      Refused s t (p :: ps) w (messages :: each) w''

/-! ### After a failure -/

section
variable {r : Result ω (Reply σ α)} {s : σ} {t : Stream} {messages : List String} {w : ω}

@[simp] theorem orElse_reject (k : List String → ω → Result ω (Reply σ α)) :
    orElse (reject s t messages w) k = k messages w := rfl

theorem orElse_orElse (k l : List String → ω → Result ω (Reply σ α)) :
    orElse (orElse r k) l = orElse r fun messages w => orElse (k messages w) l := by
  unfold orElse
  rw [Result.next_next]
  congr 1
  funext reply w
  obtain ⟨s', t', messages | v⟩ := reply <;> rfl

/-- What is replied is what went before replied, if it succeeded, or comes after its failure. -/
theorem orElse_eq_done_iff {k : List String → ω → Result ω (Reply σ α)} {reply : Reply σ α}
    {w' : ω} :
    orElse r k = .done reply w' ↔
      (r = .done reply w' ∧ ∃ v, reply.outcome = .ok v) ∨
        ∃ s t messages w, r = reject s t messages w ∧ k messages w = .done reply w' := by
  constructor
  · intro h
    cases r with
    | outOfFuel => cases h
    | fault f w => cases h
    | done first w =>
      obtain ⟨s, t, messages | v⟩ := first
      · exact .inr ⟨s, t, messages, w, rfl, h⟩
      · cases h
        exact .inl ⟨rfl, v, rfl⟩
  · rintro (⟨rfl, v, hv⟩ | ⟨s, t, messages, w, rfl, h⟩)
    · obtain ⟨s, t, outcome⟩ := reply
      obtain rfl : outcome = .ok v := hv
      rfl
    · exact h

theorem orElse_eq_accept_iff {k : List String → ω → Result ω (Reply σ α)} {s' : σ} {t' : Stream}
    {v : α} {w' : ω} :
    orElse r k = accept s' t' v w' ↔
      r = accept s' t' v w' ∨
        ∃ s t messages w, r = reject s t messages w ∧ k messages w = accept s' t' v w' :=
  orElse_eq_done_iff.trans (or_congr_left (and_iff_left ⟨v, rfl⟩))

theorem orElse_eq_reject_iff {k : List String → ω → Result ω (Reply σ α)} {s' : σ} {t' : Stream}
    {messages' : List String} {w' : ω} :
    orElse r k = reject s' t' messages' w' ↔
      ∃ s t messages w, r = reject s t messages w ∧ k messages w = reject s' t' messages' w' :=
  orElse_eq_done_iff.trans (or_iff_right nofun)

end

/-! ### Choices -/

section
variable (found : List String) (ps qs : List (Parser ω σ α)) (s : σ) (t : Stream) (w : ω)

/-- More alternatives come after the failure of the first ones. -/
theorem choiceFrom_append : choiceFrom found (ps ++ qs) s t w =
    orElse (choiceFrom found ps s t w) fun found w => choiceFrom found qs s t w := by
  induction ps generalizing found w with
  | nil => rfl
  | cons p ps ih => simp only [List.cons_append, choiceFrom, ih, orElse_orElse]

/-- The messages from before stand before those of the alternatives. -/
theorem choiceFrom_eq_orElse : choiceFrom found ps s t w =
    orElse (choice ps s t w) fun more w => reject s t (found ++ more) w := by
  induction ps generalizing found w with
  | nil => simp only [choice, choiceFrom, orElse_reject, List.append_nil]
  | cons p ps ih =>
    have hmore (more : List String) (w : ω) : choiceFrom (found ++ more) ps s t w =
        orElse (choiceFrom more ps s t w) fun more w => reject s t (found ++ more) w := by
      rw [ih, ih more, orElse_orElse]
      simp only [orElse_reject, List.append_assoc]
    simp only [choice, choiceFrom, orElse_orElse, List.nil_append, hmore]

variable {found ps s t w}

theorem choiceFrom_eq_reject_iff {s' : σ} {t' : Stream} {messages : List String} {w' : ω} :
    choiceFrom found ps s t w = reject s' t' messages w' ↔
      s' = s ∧ t' = t ∧ ∃ each, Refused s t ps w each w' ∧ messages = found ++ each.flatten := by
  induction ps generalizing found w with
  | nil =>
    constructor
    · intro h
      cases h
      exact ⟨rfl, rfl, [], .nil _, (List.append_nil _).symm⟩
    · rintro ⟨rfl, rfl, each, hrefused, rfl⟩
      cases hrefused
      rw [List.flatten_nil, List.append_nil]
      rfl
  | cons p ps ih =>
    rw [choiceFrom, orElse_eq_reject_iff]
    simp only [ih]
    constructor
    · rintro ⟨s₁, t₁, more, w₁, hp, rfl, rfl, each, hrefused, rfl⟩
      exact ⟨rfl, rfl, more :: each, .cons hp hrefused, by
        rw [List.flatten_cons, List.append_assoc]⟩
    · rintro ⟨rfl, rfl, each, hrefused, rfl⟩
      cases hrefused with
      | @cons _ _ s₁ t₁ more each _ w₁ _ hp hrefused =>
        exact ⟨s₁, t₁, more, w₁, hp, rfl, rfl, each, hrefused, by
          rw [List.flatten_cons, List.append_assoc]⟩

theorem choiceFrom_eq_accept_iff {s' : σ} {t' : Stream} {v : α} {w' : ω} :
    choiceFrom found ps s t w = accept s' t' v w' ↔
      ∃ before p after each w₁, ps = before ++ p :: after ∧ Refused s t before w each w₁ ∧
        p s t w₁ = accept s' t' v w' := by
  induction ps generalizing found w with
  | nil =>
    constructor
    · intro h
      cases h
    · rintro ⟨before, p, after, each, w₁, hsplit, -⟩
      exact (List.append_ne_nil_of_right_ne_nil before (List.cons_ne_nil p after) hsplit.symm).elim
  | cons p ps ih =>
    rw [choiceFrom, orElse_eq_accept_iff]
    simp only [ih]
    constructor
    · rintro (hp | ⟨s₁, t₁, messages, w₁, hp, before, q, after, each, w₂, rfl, hrefused, hq⟩)
      · exact ⟨[], p, ps, [], w, rfl, .nil w, hp⟩
      · exact ⟨p :: before, q, after, messages :: each, w₂, rfl, .cons hp hrefused, hq⟩
    · rintro ⟨before, q, after, each, w₂, hsplit, hrefused, hq⟩
      cases hrefused with
      | nil =>
        cases hsplit
        exact .inl hq
      | @cons _ before s₁ t₁ messages each _ w₁ _ hp hrefused =>
        cases hsplit
        exact .inr ⟨s₁, t₁, messages, w₁, hp, before, q, after, each, w₂, rfl, hrefused, hq⟩

end

section
variable (p q : Parser ω σ α)

theorem choice_append (ps qs : List (Parser ω σ α)) :
    choice (ps ++ qs) = or (choice ps) (choice qs) := by
  funext s t w
  rw [choice, choiceFrom_append]
  simp only [or, choiceFrom_eq_orElse _ qs]
  rfl

theorem or_eq_choice : or p q = choice [p, q] := by
  funext s t w
  simp only [or, choice, choiceFrom, List.nil_append]

/-- A bracket fails where it began, as the choice around it would. -/
theorem choice_or : choice [or p q] = or p q := by
  funext s t w
  simp only [choice, choiceFrom, or, orElse_orElse, orElse_reject, List.nil_append]

end

/-- As one alternative of a choice, a tree is its leaves. -/
theorem Alternatives.choice_parser (tree : Alternatives (Parser ω σ α)) :
    choice [tree.parser] = choice tree.leaves := by
  induction tree with
  | one p => rfl
  | either left right ihleft ihright =>
    calc choice [or left.parser right.parser]
        = choice ([left.parser] ++ [right.parser]) := by rw [choice_or, or_eq_choice]; rfl
      _ = or (choice left.leaves) (choice right.leaves) := by rw [choice_append, ihleft, ihright]
      _ = choice (left.leaves ++ right.leaves) := (choice_append _ _).symm

/-- **How alternatives are bracketed is of no matter.** A tree of `or` with two leaves or
more is the choice of its leaves: it replies the same and leaves the same world. A choice is
split anywhere by an `or` of choices. It succeeds as the first alternative that does not fail,
if that succeeds. And it fails if and only if all its alternatives do, each in the state and
at the stream of the choice, which are then those of the failure too, with the messages of
all. -/
theorem alternatives_flatten :
    (∀ left right : Alternatives (Parser ω σ α),
      (Alternatives.either left right).parser = choice (Alternatives.either left right).leaves) ∧
    (∀ ps qs : List (Parser ω σ α), choice (ps ++ qs) = or (choice ps) (choice qs)) ∧
    (∀ (ps : List (Parser ω σ α)) (s s' : σ) (t t' : Stream) (v : α) (w w' : ω),
      choice ps s t w = accept s' t' v w' ↔
        ∃ before p after each w₁, ps = before ++ p :: after ∧ Refused s t before w each w₁ ∧
          p s t w₁ = accept s' t' v w') ∧
    ∀ (ps : List (Parser ω σ α)) (s s' : σ) (t t' : Stream) (messages : List String) (w w' : ω),
      choice ps s t w = reject s' t' messages w' ↔
        s' = s ∧ t' = t ∧ ∃ each, Refused s t ps w each w' ∧ messages = each.flatten := by
  refine ⟨fun left right => ?_, choice_append, fun ps s s' t t' v w w' => choiceFrom_eq_accept_iff,
    fun ps s s' t t' messages w w' => choiceFrom_eq_reject_iff⟩
  rw [← Alternatives.choice_parser]
  exact (choice_or left.parser right.parser).symm

end Descent.Parser
