import Descent.Parser.Primitive
import Descent.Proofs.Repetition

/-! One parser after another.

Two parsers, or three, in order are a `bind` that gives back the values that count, and the
parsers of a list are its first one bound to the others. So a list may be cut anywhere into a
pair of lists, and a number of times is a list of copies (`sequencing_binds`). A list of
parsers finds something when its parsers are `Passed` one after another, and its values are
theirs. Otherwise it ends as the first parser that fails ends, in the world which that one
left: nothing after it was applied. -/
namespace Descent.Parser
variable {ω σ α β γ : Type}

/-- Parsers in order succeed with these values, each where the one before it stopped. -/
inductive Passed : Point ω σ → List (Parser ω σ α) → List α → Point ω σ → Prop
  | nil (a : Point ω σ) : Passed a [] [] a
  | cons {p : Parser ω σ α} {ps : List (Parser ω σ α)} {a b c : Point ω σ} {v : α} {vs : List α}
      (succeeds : a.apply p = b.found v) (more : Passed b ps vs c) : Passed a (p :: ps) (v :: vs) c

/-! ### What a continuation comes to -/

section
variable {p : Parser ω σ α} {k : α → Parser ω σ β} {a c : Point ω σ} {s : σ} {t : Stream}
variable {messages : List String} {w : ω}

/-- It is applied where the first parser succeeds. -/
theorem bind_of_found {b : Point ω σ} {v : α} (h : a.apply p = b.found v) :
    a.apply (bind p k) = b.apply (k v) := by
  show andThen (a.apply p) k = _
  rw [h]
  rfl

/-- It is not where the first parser fails. -/
theorem bind_of_reject (h : a.apply p = reject s t messages w) :
    a.apply (bind p k) = reject s t messages w := by
  show andThen (a.apply p) k = _
  rw [h]
  rfl

/-- A reply comes from the continuation, or it is the first parser's failure. -/
theorem bind_eq_done_iff {reply : Reply σ β} :
    a.apply (bind p k) = .done reply w ↔
      (∃ (b : Point ω σ) (v : α), a.apply p = b.found v ∧ b.apply (k v) = .done reply w) ∨
        ∃ s t messages, a.apply p = reject s t messages w ∧ reply = ⟨s, t, .error messages⟩ := by
  constructor
  · intro h
    obtain ⟨⟨s, t, messages | v⟩, w', hfirst, hrest⟩ := next_eq_done h
    · cases hrest
      exact .inr ⟨s, t, messages, hfirst, rfl⟩
    · exact .inl ⟨⟨s, t, w'⟩, v, hfirst, hrest⟩
  · rintro (⟨b, v, hfirst, hrest⟩ | ⟨s, t, messages, hfirst, rfl⟩)
    · rw [bind_of_found hfirst, hrest]
    · exact bind_of_reject hfirst

theorem bind_eq_found_iff {u : β} :
    a.apply (bind p k) = c.found u ↔
      ∃ (b : Point ω σ) (v : α), a.apply p = b.found v ∧ b.apply (k v) = c.found u :=
  bind_eq_done_iff.trans (or_iff_left fun ⟨_, _, _, _, hreply⟩ => by cases hreply)

theorem bind_eq_reject_iff :
    a.apply (bind p k) = reject s t messages w ↔
      a.apply p = reject s t messages w ∨
        ∃ (b : Point ω σ) (v : α), a.apply p = b.found v ∧
          b.apply (k v) = reject s t messages w := by
  rw [or_comm]
  refine bind_eq_done_iff.trans (or_congr_right ⟨?_, fun h => ⟨s, t, messages, h, rfl⟩⟩)
  rintro ⟨s', t', messages', hfirst, hreply⟩
  cases hreply
  exact hfirst

theorem map_eq_found_iff {f : α → β} {u : β} :
    a.apply (map f p) = c.found u ↔ ∃ v, a.apply p = c.found v ∧ f v = u := by
  rw [map_eq_bind, bind_eq_found_iff]
  constructor
  · rintro ⟨b, v, hfirst, hvalue⟩
    obtain ⟨rfl, rfl⟩ := Point.found_inj hvalue
    exact ⟨v, hfirst, rfl⟩
  · rintro ⟨v, hfirst, rfl⟩
    exact ⟨c, v, hfirst, rfl⟩

theorem map_eq_reject_iff {f : α → β} :
    a.apply (map f p) = reject s t messages w ↔ a.apply p = reject s t messages w := by
  rw [map_eq_bind, bind_eq_reject_iff]
  exact or_iff_left fun ⟨b, v, _, hvalue⟩ => by cases hvalue

end

/-! ### Lists of parsers -/

section
variable (p : Parser ω σ α) (ps qs : List (Parser ω σ α)) (m n : Nat)

theorem sequence_nil : sequence ([] : List (Parser ω σ α)) = succeed [] := rfl

/-- The values found before stand before those of the parsers. -/
theorem sequenceFrom_eq_map (found : List α) :
    sequenceFrom found ps = map (found.reverse ++ ·) (sequence ps) := by
  induction ps generalizing found with
  | nil =>
    show succeed found.reverse = succeed (found.reverse ++ [])
    rw [List.append_nil]
  | cons p ps ih =>
    show (bind p fun v => sequenceFrom (v :: found) ps) =
      map (found.reverse ++ ·) (bind p fun v => sequenceFrom [v] ps)
    simp only [ih (_ :: _), map_eq_bind, bind_bind, succeed_bind, List.reverse_cons,
      List.reverse_nil, List.nil_append, List.append_assoc]

theorem sequence_cons : sequence (p :: ps) = bind p fun v => map (v :: ·) (sequence ps) := by
  show (bind p fun v => sequenceFrom [v] ps) = _
  simp only [sequenceFrom_eq_map ps [_], List.reverse_singleton, List.singleton_append]

theorem sequence_append :
    sequence (ps ++ qs) =
      map (fun both => both.1 ++ both.2) (pair (sequence ps) (sequence qs)) := by
  induction ps with
  | nil =>
    simp only [List.nil_append, sequence_nil, pair_eq_bind, map_eq_bind, bind_bind, succeed_bind,
      bind_succeed]
  | cons p ps ih =>
    simp only [List.cons_append, sequence_cons, ih, pair_eq_bind, map_eq_bind, bind_bind,
      succeed_bind]

theorem countFrom_eq_sequenceFrom (found : List α) :
    countFrom p found n = sequenceFrom found (List.replicate n p) := by
  induction n generalizing found with
  | zero => rfl
  | succ n ih =>
    show (bind p fun v => countFrom p (v :: found) n) =
      bind p fun v => sequenceFrom (v :: found) (List.replicate n p)
    simp only [ih]

theorem count_eq_sequence : count n p = sequence (List.replicate n p) :=
  countFrom_eq_sequenceFrom p n []

theorem count_add :
    count (m + n) p = map (fun both => both.1 ++ both.2) (pair (count m p) (count n p)) := by
  simp only [count_eq_sequence, ← List.replicate_append_replicate, sequence_append]

end

section
variable {ps : List (Parser ω σ α)} {a c : Point ω σ} {vs : List α}

theorem sequence_eq_found_iff : a.apply (sequence ps) = c.found vs ↔ Passed a ps vs c := by
  induction ps generalizing a vs with
  | nil =>
    constructor
    · intro h
      obtain ⟨rfl, rfl⟩ := Point.found_inj (a := a) (v := []) h
      exact .nil a
    · rintro ⟨⟩
      rfl
  | cons p ps ih =>
    rw [sequence_cons, bind_eq_found_iff]
    simp only [map_eq_found_iff, ih]
    constructor
    · rintro ⟨b, v, hfirst, vs, hmore, rfl⟩
      exact .cons hfirst hmore
    · rintro ⟨⟩
      next hfirst hmore => exact ⟨_, _, hfirst, _, hmore, rfl⟩

/-- The parsers before one that fails have succeeded. Those after it are of no matter. -/
theorem sequence_eq_reject_iff {s : σ} {t : Stream} {messages : List String} {w : ω} :
    a.apply (sequence ps) = reject s t messages w ↔
      ∃ before p after vs, ∃ b : Point ω σ, ps = before ++ p :: after ∧ Passed a before vs b ∧
        b.apply p = reject s t messages w := by
  induction ps generalizing a with
  | nil =>
    constructor
    · rintro ⟨⟩
    · rintro ⟨before, p, after, vs, b, hsplit, -⟩
      exact (List.append_ne_nil_of_right_ne_nil before (List.cons_ne_nil p after) hsplit.symm).elim
  | cons p ps ih =>
    rw [sequence_cons, bind_eq_reject_iff]
    simp only [map_eq_reject_iff, ih]
    constructor
    · rintro (hfails | ⟨b, v, hfirst, before, q, after, vs, c, rfl, hpassed, hfails⟩)
      · exact ⟨[], p, ps, [], a, rfl, .nil a, hfails⟩
      · exact ⟨p :: before, q, after, v :: vs, c, rfl, .cons hfirst hpassed, hfails⟩
    · rintro ⟨before, q, after, vs, c, hsplit, hpassed, hfails⟩
      cases hpassed with
      | nil =>
        cases hsplit
        exact .inl hfails
      | cons hfirst hpassed =>
        cases hsplit
        exact .inr ⟨_, _, hfirst, _, _, _, _, _, rfl, hpassed, hfails⟩

end

/-! ### The whole family -/

/-- **Parsers in order are bound to one another.** No parsers find the empty list, and some
find the value of the first before those of the others, so a list can be cut anywhere. A number
of times is a list of copies, and can be cut as well. Two or three parsers in order are bound
and give back what counts. All this is meant of replies and of the worlds they leave. What is
bound is applied only after a success: a failure is the first parser's own, in the world that
this one left, or comes from the continuation. A list finds something when all its parsers
succeed in order, and it fails when one of them does after those before it have succeeded; then
state, stream, messages and world are as that one left them. -/
theorem sequencing_binds (p : Parser ω σ α) (q : Parser ω σ β) (r : Parser ω σ γ)
    (ps qs : List (Parser ω σ α)) :
    (sequence ([] : List (Parser ω σ α)) = succeed [] ∧
      sequence (p :: ps) = (bind p fun v => map (v :: ·) (sequence ps)) ∧
      sequence (ps ++ qs) =
        map (fun both => both.1 ++ both.2) (pair (sequence ps) (sequence qs))) ∧
    (∀ m n : Nat, count n p = sequence (List.replicate n p) ∧
      count (m + n) p = map (fun both => both.1 ++ both.2) (pair (count m p) (count n p))) ∧
    (then_ p q = (bind p fun _ => q) ∧
      pair p q = (bind p fun a => bind q fun b => succeed (a, b)) ∧
      skipRight p q = (bind p fun a => bind q fun _ => succeed a) ∧
      (∀ function : Parser ω σ (α → β),
        ap function p = bind function fun f => bind p fun a => succeed (f a)) ∧
      between p r q = bind p fun _ => bind q fun b => bind r fun _ => succeed b) ∧
    ∀ (a : Point ω σ) (s : σ) (t : Stream) (messages : List String) (w : ω),
      (∀ k : α → Parser ω σ β, a.apply (bind p k) = reject s t messages w ↔
        a.apply p = reject s t messages w ∨
          ∃ (b : Point ω σ) (v : α), a.apply p = b.found v ∧
            b.apply (k v) = reject s t messages w) ∧
      (∀ vs c, a.apply (sequence ps) = c.found vs ↔ Passed a ps vs c) ∧
      (a.apply (sequence ps) = reject s t messages w ↔
        ∃ before fails after vs, ∃ b : Point ω σ, ps = before ++ fails :: after ∧
          Passed a before vs b ∧ b.apply fails = reject s t messages w) := by
  refine ⟨⟨sequence_nil, sequence_cons p ps, sequence_append ps qs⟩,
    fun m n => ⟨count_eq_sequence p n, count_add p m n⟩,
    ⟨rfl, pair_eq_bind p q, skipRight_eq_bind p q, fun function => ap_eq_bind function p,
      between_eq_bind p r q⟩,
    fun a s t messages w => ⟨fun k => bind_eq_reject_iff, fun vs c => sequence_eq_found_iff,
      sequence_eq_reject_iff⟩⟩

end Descent.Parser
