import Descent.Proofs.Repetition
import Descent.Proofs.Replies

/-! Items until an ending.

A parser for items until an ending tries the ending before each item. So its items are
`Successes` of one relation, that an item is found where the ending fails (`Unless`), and it
ends where the ending succeeds, or where ending and item both fail (`Steady.manyTill_iff`). A
repetition of items with `notFollowedBy` before them, and then the ending, finds the same
items, though it tries the ending once more and keeps nothing of what that did
(`Grammar.manyTill_iff_many`). -/
namespace Descent
open Descent.Parser
open Filter (atTop eventually_gt_atTop)

section
variable {α β : Type}

/-- The second parser replies so, and the first one fails. -/
def Unless (ending : Semantics β) (item : Semantics α) : Semantics α := fun s t reply =>
  (∃ s' u messages, ending s t ⟨s', u, .error messages⟩) ∧ item s t reply

/-- Values that are found one after another. -/
inductive Successes (R : Semantics α) : Value → Stream → List α → Value → Stream → Prop
  | nil (s : Value) (t : Stream) : Successes R s t [] s t
  | cons {s s₁ s' : Value} {t t₁ u : Stream} {v : α} {vs : List α}
      (first : R s t ⟨s₁, t₁, .ok v⟩) (more : Successes R s₁ t₁ vs s' u) :
      Successes R s t (v :: vs) s' u

/-- From here on, as often as the parser succeeds in succession, it moves. -/
def NeverStays (R : Semantics α) (s : Value) (t : Stream) : Prop :=
  ∀ vs s₁ t₁ s₂ t₂ v, Successes R s t vs s₁ t₁ → R s₁ t₁ ⟨s₂, t₂, .ok v⟩ → (t₂ == t₁) = false

variable {R R' : Semantics α} {s s' : Value} {t u : Stream} {v : α} {vs : List α}

theorem Successes.imp (hR : ∀ s t s' u v, R s t ⟨s', u, .ok v⟩ → R' s t ⟨s', u, .ok v⟩)
    (h : Successes R s t vs s' u) : Successes R' s t vs s' u := by
  induction h with
  | nil s t => exact .nil s t
  | cons first _ ih => exact .cons (hR _ _ _ _ _ first) ih

theorem NeverStays.moves (h : NeverStays R s t) (first : R s t ⟨s', u, .ok v⟩) : (u == t) = false :=
  h [] s t s' u v (.nil s t) first

theorem NeverStays.after (h : NeverStays R s t) (first : R s t ⟨s', u, .ok v⟩) :
    NeverStays R s' u := fun vs s₁ t₁ s₂ t₂ v' hmore =>
  h (v :: vs) s₁ t₁ s₂ t₂ v' (.cons first hmore)

end

/-! ### Repetitions -/

section
variable {ω α β : Type} {I : ω → Prop} {p : ℕ → Parser ω Value α} {s s' : Value} {t u : Stream}
variable {vs : List α} {n : ℕ}

/-- The rounds of a repetition are successes, if the last of them leaves a world of the
kind. -/
theorem Steady.of_rounds (hp : ∀ s t, Steady I fun n => p n s t) {a b : Point ω Value}
    (h : Rounds (p n) a vs b) (hb : I b.world) :
    I a.world ∧ Successes (Settled I p) a.state a.stream vs b.state b.stream := by
  induction h with
  | nil a => exact ⟨hb, .nil _ _⟩
  | @cons a c b v vs succeeds _ _ ih =>
    obtain ⟨hc, hmore⟩ := ih hb
    exact ⟨(hp _ _).back succeeds hc, .cons ((hp _ _).settles succeeds hc) hmore⟩

/-- Successes that move are rounds of a repetition, with any fuel that is enough. -/
theorem Successes.rounds (h : Successes (Settled I p) s t vs s' u)
    (hmoves : NeverStays (Settled I p) s t) :
    ∀ᶠ n in atTop, ∀ w, I w → ∃ w', I w' ∧ Rounds (p n) ⟨s, t, w⟩ vs ⟨s', u, w'⟩ := by
  induction h with
  | nil s t => exact .of_forall fun n w hw => ⟨w, hw, .nil _⟩
  | @cons s s₁ s' t t₁ u v vs first _ ih =>
    filter_upwards [first, ih (hmoves.after first)] with n hfirst hmore w hw
    obtain ⟨w₁, hw₁, hdone⟩ := hfirst w hw
    obtain ⟨w', hw', hrounds⟩ := hmore w₁ hw₁
    exact ⟨w', hw', .cons (b := ⟨s₁, t₁, w₁⟩) hdone (hmoves.moves first) hrounds⟩

/-- A repetition that ends has found successes up to a failure. -/
theorem Steady.of_many (hp : ∀ s t, Steady I fun n => p n s t) {rounds : ℕ} {w w' : ω}
    {reply : Reply Value (List α)} (hmoves : NeverStays (Settled I p) s t)
    (h : many rounds (p n) s t w = .done reply w') (hw' : I w') :
    I w ∧ ∃ vs s' u, reply = ⟨s', u, .ok vs⟩ ∧ Successes (Settled I p) s t vs s' u ∧
      ∃ s₁ t₁ messages, Settled I p s' u ⟨s₁, t₁, .error messages⟩ := by
  obtain ⟨⟨vs, last, stop, hrounds, hstops⟩, htrace⟩ := exists_trace (a := ⟨s, t, w⟩) h
  cases htrace
  cases hstops with
  | @undone s₁ t₁ messages w₁ fails =>
    obtain ⟨hw, hsuccesses⟩ := Steady.of_rounds hp hrounds ((hp _ _).back fails hw')
    exact ⟨hw, vs, _, _, rfl, hsuccesses, s₁, t₁, messages, (hp _ _).settles fails hw'⟩
  | @still b v succeeds stays =>
    obtain ⟨-, hsuccesses⟩ := Steady.of_rounds hp hrounds ((hp _ _).back succeeds hw')
    have hmoved := hmoves _ _ _ _ _ _ hsuccesses ((hp _ _).settles succeeds hw')
    rw [hmoved] at stays
    cases stays

theorem Successes.many (h : Successes (Settled I p) s t vs s' u)
    (hmoves : NeverStays (Settled I p) s t) {s₁ : Value} {t₁ : Stream} {messages : List String}
    (hfails : Settled I p s' u ⟨s₁, t₁, .error messages⟩) :
    Settled I (fun n => Parser.many n (p n)) s t ⟨s', u, .ok vs⟩ := by
  filter_upwards [h.rounds hmoves, hfails, eventually_gt_atTop vs.length] with n hn hlast
    hlength w hw
  obtain ⟨w₁, hw₁, hrounds⟩ := hn w hw
  obtain ⟨w', hw', hdone⟩ := hlast w₁ hw₁
  exact ⟨w', hw', manyFrom_of_rounds hrounds (.undone hdone) [] hlength⟩

theorem Steady.many (hp : ∀ s t, Steady I fun n => p n s t)
    (hmoves : NeverStays (Settled I p) s t) : Steady I fun n => Parser.many n (p n) s t where
  back h hw' := (Steady.of_many hp hmoves h hw').1
  settles h hw' := by
    obtain ⟨-, vs, s', u, rfl, hsuccesses, s₁, t₁, messages, hfails⟩ :=
      Steady.of_many hp hmoves h hw'
    exact hsuccesses.many hmoves hfails

/-- A repetition of what moves finds successes, and stops where the parser fails. -/
theorem Steady.many_iff (hI : ∃ w, I w) (hp : ∀ s t, Steady I fun n => p n s t)
    (hmoves : NeverStays (Settled I p) s t) :
    Settled I (fun n => Parser.many n (p n)) s t ⟨s', u, .ok vs⟩ ↔
      Successes (Settled I p) s t vs s' u ∧
        ∃ s₁ t₁ messages, Settled I p s' u ⟨s₁, t₁, .error messages⟩ := by
  constructor
  · intro h
    obtain ⟨n, w, w', hw', hdone⟩ := h.exists_done hI
    obtain ⟨-, vs', s₁, t₁, hreply, hrest⟩ := Steady.of_many hp hmoves hdone hw'
    cases hreply
    exact hrest
  · rintro ⟨hsuccesses, s₁, t₁, messages, hfails⟩
    exact hsuccesses.many hmoves hfails

/-! ### Items until an ending -/

variable {e : ℕ → Parser ω Value β}

/-- What a parser for items until an ending comes to: values, each found where the ending
fails, and then the ending, or the failure of an item where the ending fails too. -/
def TillReply (ending : Semantics β) (item : Semantics α) (s : Value) (t : Stream)
    (found : List α) (reply : Reply Value (List α)) : Prop :=
  ∃ vs s₁ t₁, Successes (Unless ending item) s t vs s₁ t₁ ∧
    ((∃ s' u v, ending s₁ t₁ ⟨s', u, .ok v⟩ ∧ reply = ⟨s', u, .ok (found.reverse ++ vs)⟩) ∨
      ∃ s' u messages, Unless ending item s₁ t₁ ⟨s', u, .error messages⟩ ∧
        reply = ⟨s', u, .error messages⟩)

theorem Steady.of_manyTillFrom (hp : ∀ s t, Steady I fun n => p n s t)
    (he : ∀ s t, Steady I fun n => e n s t) {found : List α} {rounds : ℕ} {w w' : ω}
    {reply : Reply Value (List α)}
    (h : manyTillFrom (p n) (e n) found rounds s t w = .done reply w') (hw' : I w') :
    I w ∧ TillReply (Settled I e) (Settled I p) s t found reply := by
  induction rounds generalizing found s t w with
  | zero => cases h
  | succ rounds ih =>
    obtain ⟨⟨s₁, t₁, messages | v⟩, w₁, hending, h⟩ := next_eq_done h
    · obtain ⟨⟨s₂, t₂, messages' | v⟩, w₂, hitem, h⟩ := next_eq_done h
      · cases h
        have hw₁ : I w₁ := (hp s t).back hitem hw'
        exact ⟨(he s t).back hending hw₁, [], s, t, .nil s t, .inr ⟨s₂, t₂, messages',
          ⟨⟨s₁, t₁, messages, (he s t).settles hending hw₁⟩, (hp s t).settles hitem hw'⟩, rfl⟩⟩
      · obtain ⟨hw₂, vs, s₃, t₃, hmore, hlast⟩ := ih h
        have hw₁ : I w₁ := (hp s t).back hitem hw₂
        have hfirst : Unless (Settled I e) (Settled I p) s t ⟨s₂, t₂, .ok v⟩ :=
          ⟨⟨s₁, t₁, messages, (he s t).settles hending hw₁⟩, (hp s t).settles hitem hw₂⟩
        simp only [List.reverse_cons, List.append_assoc, List.singleton_append] at hlast
        exact ⟨(he s t).back hending hw₁, v :: vs, s₃, t₃, .cons hfirst hmore, hlast⟩
    · cases h
      exact ⟨(he s t).back hending hw', [], s, t, .nil s t, .inl ⟨s₁, t₁, v,
        (he s t).settles hending hw', by rw [List.append_nil]⟩⟩

/-- Where the ending fails, an item that is found is one more value. -/
theorem Unless.manyTillFrom (h : Unless (Settled I e) (Settled I p) s t ⟨s', u, .ok v⟩) :
    ∀ᶠ n in atTop, ∀ w, I w → ∃ w', I w' ∧ ∀ found rounds,
      manyTillFrom (p n) (e n) found (rounds + 1) s t w =
        manyTillFrom (p n) (e n) (v :: found) rounds s' u w' := by
  obtain ⟨⟨s₁, t₁, messages, hfails⟩, hitem⟩ := h
  filter_upwards [hfails, hitem] with n hfails hitem w hw
  obtain ⟨w₁, hw₁, hending⟩ := hfails w hw
  obtain ⟨w', hw', hfound⟩ := hitem w₁ hw₁
  refine ⟨w', hw', fun found rounds => ?_⟩
  simp only [Parser.manyTillFrom, hending, Result.next_done, Parser.andThen, hfound]

theorem Successes.manyTillFrom
    (h : Successes (Unless (Settled I e) (Settled I p)) s t vs s' u) :
    ∀ᶠ n in atTop, ∀ w, I w → ∃ w', I w' ∧ ∀ found rounds,
      manyTillFrom (p n) (e n) found (vs.length + rounds) s t w =
        manyTillFrom (p n) (e n) (vs.reverse ++ found) rounds s' u w' := by
  induction h with
  | nil s t =>
    refine .of_forall fun n w hw => ⟨w, hw, fun found rounds => ?_⟩
    rw [List.length_nil, Nat.zero_add, List.reverse_nil, List.nil_append]
  | @cons s s₁ s' t t₁ u v vs first _ ih =>
    filter_upwards [first.manyTillFrom, ih] with n hfirst hmore w hw
    obtain ⟨w₁, hw₁, hround⟩ := hfirst w hw
    obtain ⟨w', hw', hrounds⟩ := hmore w₁ hw₁
    refine ⟨w', hw', fun found rounds => ?_⟩
    rw [List.length_cons, Nat.add_right_comm, hround, hrounds, List.reverse_cons,
      List.append_assoc, List.singleton_append]

theorem TillReply.manyTill {reply : Reply Value (List α)}
    (h : TillReply (Settled I e) (Settled I p) s t [] reply) :
    Settled I (fun n => Parser.manyTill n (p n) (e n)) s t reply := by
  obtain ⟨vs, s₁, t₁, hsuccesses, hlast⟩ := h
  -- one round more than there are items
  have hend (h : ∀ᶠ n in atTop, ∀ w, I w → ∃ w', I w' ∧ ∀ rounds,
      manyTillFrom (p n) (e n) vs.reverse (rounds + 1) s₁ t₁ w = .done reply w') :
      Settled I (fun n => Parser.manyTill n (p n) (e n)) s t reply := by
    filter_upwards [hsuccesses.manyTillFrom, h, eventually_gt_atTop vs.length] with
      n hitems hend hlength w hw
    obtain ⟨w₁, hw₁, hitems⟩ := hitems w hw
    obtain ⟨w', hw', hend⟩ := hend w₁ hw₁
    obtain ⟨rounds, rfl⟩ := Nat.exists_eq_add_of_lt hlength
    refine ⟨w', hw', (hitems [] (rounds + 1)).trans ?_⟩
    rw [List.append_nil]
    exact hend rounds
  obtain ⟨s', u, v, hending, rfl⟩ | ⟨s', u, messages, ⟨⟨_, _, _, hfails⟩, hitem⟩, rfl⟩ := hlast
  · refine hend ?_
    filter_upwards [hending] with n hending w hw
    obtain ⟨w', hw', hfound⟩ := hending w hw
    refine ⟨w', hw', fun rounds => ?_⟩
    simp only [Parser.manyTillFrom, hfound, Result.next_done, accept, List.reverse_reverse,
      List.reverse_nil, List.nil_append]
  · refine hend ?_
    filter_upwards [hfails, hitem] with n hfails hitem w hw
    obtain ⟨w₁, hw₁, hending⟩ := hfails w hw
    obtain ⟨w', hw', hfound⟩ := hitem w₁ hw₁
    refine ⟨w', hw', fun rounds => ?_⟩
    simp only [Parser.manyTillFrom, hending, Result.next_done, Parser.andThen, hfound, reject]

theorem Steady.manyTill (hp : ∀ s t, Steady I fun n => p n s t)
    (he : ∀ s t, Steady I fun n => e n s t) :
    Steady I fun n => Parser.manyTill n (p n) (e n) s t where
  back h hw' := (Steady.of_manyTillFrom hp he h hw').1
  settles h hw' := (Steady.of_manyTillFrom hp he h hw').2.manyTill

theorem Steady.manyTill_iff (hI : ∃ w, I w) (hp : ∀ s t, Steady I fun n => p n s t)
    (he : ∀ s t, Steady I fun n => e n s t) {reply : Reply Value (List α)} :
    Settled I (fun n => Parser.manyTill n (p n) (e n)) s t reply ↔
      TillReply (Settled I e) (Settled I p) s t [] reply := by
  refine ⟨fun h => ?_, TillReply.manyTill⟩
  obtain ⟨n, w, w', hw', hdone⟩ := h.exists_done hI
  exact (Steady.of_manyTillFrom hp he hdone hw').2

end

namespace Grammar
variable {setting : Setting} {l : Ledger} {p ending : Grammar} {s s' : Value} {t u : Stream}
variable {v : Value}

section
variable (hl : l.tripped = none)
include hl

theorem means_notFollowedBy_iff {reply : Reply Value Value} :
    Means setting l (.notFollowedBy p) s t reply ↔
      (∃ s' u v, Means setting l p s t ⟨s', u, .ok v⟩ ∧
        reply = ⟨s, t, .error [s!"unexpected \"{String.ofList (t.consumedUntil u)}\""]⟩) ∨
      (∃ s' u messages, Means setting l p s t ⟨s', u, .error messages⟩) ∧
        reply = ⟨s, t, .ok .null⟩ := by
  have hp := meaning_steady setting hl p s t
  have hasked {found : Reply Value Unit} : Settles (Under l)
      (fun n => Parser.notFollowedBy (meaning setting n p) s t) found ↔ _ :=
    hp.notFollowedBy_iff (exists_under l)
  rw [means_succ_iff]
  refine (hp.notFollowedBy.map_iff (exists_under l) fun _ => Value.null).trans ⟨?_, ?_⟩
  · rintro ⟨found, hfound, rfl⟩
    obtain ⟨s', u, v, hsucceeds, rfl⟩ | ⟨hfails, rfl⟩ := hasked.1 hfound
    · exact .inl ⟨s', u, v, hsucceeds, rfl⟩
    · exact .inr ⟨hfails, rfl⟩
  · rintro (⟨s', u, v, hsucceeds, rfl⟩ | ⟨hfails, rfl⟩)
    · exact ⟨_, hasked.2 (.inl ⟨s', u, v, hsucceeds, rfl⟩), rfl⟩
    · exact ⟨_, hasked.2 (.inr ⟨hfails, rfl⟩), rfl⟩

/-- An item before which the ending is asked for: it is found where the ending fails, and not
where the ending succeeds. -/
theorem means_unless_iff {reply : Reply Value Value} :
    Means setting l (.then_ (.notFollowedBy ending) p) s t reply ↔
      Unless (Means setting l ending) (Means setting l p) s t reply ∨
        ∃ s' u v, Means setting l ending s t ⟨s', u, .ok v⟩ ∧
          reply = ⟨s, t, .error [s!"unexpected \"{String.ofList (t.consumedUntil u)}\""]⟩ := by
  rw [means_succ_iff]
  refine ((meaning_steady setting hl (.notFollowedBy ending) s t).andThen_iff (exists_under l)
    fun _ => meaning_steady setting hl p).trans ⟨?_, ?_⟩
  · rintro (⟨s₁, t₁, v, hasked, hitem⟩ | ⟨s₁, t₁, messages, hasked, rfl⟩)
    · obtain ⟨s', u, v', -, hreply⟩ | ⟨hfails, hreply⟩ := (means_notFollowedBy_iff hl).1 hasked
      · cases hreply
      · cases hreply
        exact .inl ⟨hfails, hitem⟩
    · obtain ⟨s', u, v, hsucceeds, hreply⟩ | ⟨-, hreply⟩ := (means_notFollowedBy_iff hl).1 hasked
      · exact .inr ⟨s', u, v, hsucceeds, hreply⟩
      · cases hreply
  · rintro (⟨hfails, hitem⟩ | ⟨s', u, v, hsucceeds, rfl⟩)
    · exact .inl ⟨s, t, .null, (means_notFollowedBy_iff hl).2 (.inr ⟨hfails, rfl⟩), hitem⟩
    · exact .inr ⟨s, t, _, (means_notFollowedBy_iff hl).2 (.inl ⟨s', u, v, hsucceeds, rfl⟩), rfl⟩

/-- The items of a repetition before each of which the ending is asked for. -/
theorem successes_unless_iff {vs : List Value} :
    Successes (Means setting l (.then_ (.notFollowedBy ending) p)) s t vs s' u ↔
      Successes (Unless (Means setting l ending) (Means setting l p)) s t vs s' u := by
  refine ⟨Successes.imp fun s t s' u v h => ?_, Successes.imp fun s t s' u v h => ?_⟩
  · obtain h | ⟨_, _, _, -, hreply⟩ := (means_unless_iff hl).1 h
    · exact h
    · cases hreply
  · exact (means_unless_iff hl).2 (.inl h)

theorem neverStays_unless
    (h : NeverStays (Unless (Means setting l ending) (Means setting l p)) s t) :
    NeverStays (Means setting l (.then_ (.notFollowedBy ending) p)) s t := by
  intro vs s₁ t₁ s₂ t₂ v hsuccesses hitem
  obtain hitem | ⟨_, _, _, -, hreply⟩ := (means_unless_iff hl).1 hitem
  · exact h vs s₁ t₁ s₂ t₂ v ((successes_unless_iff hl).1 hsuccesses) hitem
  · cases hreply

theorem means_manyTill_iff {reply : Reply Value Value} :
    Means setting l (.manyTill p ending) s t reply ↔
      ∃ found, TillReply (Means setting l ending) (Means setting l p) s t [] found ∧
        reply = found.map .array := by
  have hp := meaning_steady setting hl p
  have he := meaning_steady setting hl ending
  rw [means_succ_iff]
  exact ((Steady.manyTill hp he).map_iff (exists_under l) _).trans
    (exists_congr fun found => and_congr_left' (Steady.manyTill_iff (exists_under l) hp he))

/-- Items until an ending are found where the ending fails, and then the ending is. -/
theorem means_manyTill_ok_iff : Means setting l (.manyTill p ending) s t ⟨s', u, .ok v⟩ ↔
    ∃ vs s₁ t₁ v', Successes (Unless (Means setting l ending) (Means setting l p)) s t vs s₁ t₁ ∧
      Means setting l ending s₁ t₁ ⟨s', u, .ok v'⟩ ∧ v = .array vs := by
  rw [means_manyTill_iff hl]
  constructor
  · rintro ⟨found, ⟨vs, s₁, t₁, hitems, ⟨_, _, v', hending, rfl⟩ | ⟨_, _, _, _, rfl⟩⟩, hreply⟩
    · cases hreply
      exact ⟨vs, s₁, t₁, v', hitems, hending, rfl⟩
    · cases hreply
  · rintro ⟨vs, s₁, t₁, v', hitems, hending, rfl⟩
    exact ⟨_, ⟨vs, s₁, t₁, hitems, .inl ⟨s', u, v', hending, rfl⟩⟩, rfl⟩

/-- They fail as the first item does that fails where the ending fails too. -/
theorem means_manyTill_error_iff {messages : List String} :
    Means setting l (.manyTill p ending) s t ⟨s', u, .error messages⟩ ↔
      ∃ vs s₁ t₁, Successes (Unless (Means setting l ending) (Means setting l p)) s t vs s₁ t₁ ∧
        Unless (Means setting l ending) (Means setting l p) s₁ t₁ ⟨s', u, .error messages⟩ := by
  rw [means_manyTill_iff hl]
  constructor
  · rintro ⟨found, ⟨vs, s₁, t₁, hitems, ⟨_, _, _, _, rfl⟩ | ⟨_, _, _, hitem, rfl⟩⟩, hreply⟩
    · cases hreply
    · cases hreply
      exact ⟨vs, s₁, t₁, hitems, hitem⟩
  · rintro ⟨vs, s₁, t₁, hitems, hitem⟩
    exact ⟨_, ⟨vs, s₁, t₁, hitems, .inr ⟨s', u, messages, hitem, rfl⟩⟩, rfl⟩

theorem means_many_iff (hmoves : NeverStays (Means setting l p) s t) :
    Means setting l (.many p) s t ⟨s', u, .ok v⟩ ↔
      ∃ vs, v = .array vs ∧ Successes (Means setting l p) s t vs s' u ∧
        ∃ s₁ t₁ messages, Means setting l p s' u ⟨s₁, t₁, .error messages⟩ := by
  have hp := meaning_steady setting hl p
  have hmany {vs : List Value} : Settled (Under l)
      (fun n => Parser.many n (meaning setting n p)) s t ⟨s', u, .ok vs⟩ ↔ _ :=
    Steady.many_iff (exists_under l) hp hmoves
  rw [means_succ_iff]
  refine ((Steady.many hp hmoves).map_iff (exists_under l) _).trans ⟨?_, ?_⟩
  · rintro ⟨⟨s₁, t₁, messages | vs⟩, hfound, hreply⟩
    · cases hreply
    · cases hreply
      exact ⟨vs, rfl, hmany.1 hfound⟩
  · rintro ⟨vs, rfl, hrest⟩
    exact ⟨_, hmany.2 hrest, rfl⟩

theorem means_pair_iff {q : Grammar} : Means setting l (.pair p q) s t ⟨s', u, .ok v⟩ ↔
    ∃ s₁ t₁ v₁ v₂, Means setting l p s t ⟨s₁, t₁, .ok v₁⟩ ∧
      Means setting l q s₁ t₁ ⟨s', u, .ok v₂⟩ ∧ v = ofPair (v₁, v₂) := by
  have hp := meaning_steady setting hl p s t
  have hq := meaning_steady setting hl q
  rw [means_succ_iff]
  refine ((hp.pair hq).map_iff (exists_under l) _).trans ⟨?_, ?_⟩
  · rintro ⟨⟨s₁, t₁, messages | ⟨v₁, v₂⟩⟩, hfound, hreply⟩
    · cases hreply
    · cases hreply
      obtain ⟨s₁, t₁, hfirst, hsecond⟩ := (hp.pair_iff (exists_under l) hq).1 hfound
      exact ⟨s₁, t₁, v₁, v₂, hfirst, hsecond, rfl⟩
  · rintro ⟨s₁, t₁, v₁, v₂, hfirst, hsecond, rfl⟩
    exact ⟨_, (hp.pair_iff (exists_under l) hq).2 ⟨s₁, t₁, hfirst, hsecond⟩, rfl⟩

/-- A repetition of items without the ending, and the ending: the items are those that are
found where the ending fails. -/
theorem means_pair_many_iff
    (hmoves : NeverStays (Unless (Means setting l ending) (Means setting l p)) s t) :
    Means setting l (.pair (.many (.then_ (.notFollowedBy ending) p)) ending) s t
        ⟨s', u, .ok v⟩ ↔
      ∃ vs s₁ t₁ v', Successes (Unless (Means setting l ending) (Means setting l p)) s t vs s₁ t₁ ∧
        Means setting l ending s₁ t₁ ⟨s', u, .ok v'⟩ ∧ v = ofPair (.array vs, v') := by
  rw [means_pair_iff hl]
  constructor
  · rintro ⟨s₁, t₁, v₁, v', hitems, hending, rfl⟩
    obtain ⟨vs, rfl, hsuccesses, -⟩ := (means_many_iff hl (neverStays_unless hl hmoves)).1 hitems
    exact ⟨vs, s₁, t₁, v', (successes_unless_iff hl).1 hsuccesses, hending, rfl⟩
  · rintro ⟨vs, s₁, t₁, v', hsuccesses, hending, rfl⟩
    -- the ending, which comes next, is what stops the repetition
    have hstops := (means_unless_iff (p := p) hl).2 (.inr ⟨s', u, v', hending, rfl⟩)
    exact ⟨s₁, t₁, _, v', (means_many_iff hl (neverStays_unless hl hmoves)).2
      ⟨vs, rfl, (successes_unless_iff hl).2 hsuccesses, s₁, t₁, _, hstops⟩, hending, rfl⟩

end

section
variable {w : World Heap} {p₀ ending₀ : Grammar}

/-- Items until an ending, over parts that were built. -/
theorem PlainlyBuilt.manyTill (hp : PlainlyBuilt setting w p p₀)
    (hending : PlainlyBuilt setting w ending ending₀) :
    PlainlyBuilt setting w (.manyTill p ending) (.manyTill p₀ ending₀) :=
  .node (g := .manyTill p₀ ending₀) hp.faithful not_false trivial (fun _ => id)
    (.cons hp (.cons hending .nil))

/-- A repetition of items without the ending, and the ending, over parts that were built. -/
theorem PlainlyBuilt.pair_many (hp : PlainlyBuilt setting w p p₀)
    (hending : PlainlyBuilt setting w ending ending₀) :
    PlainlyBuilt setting w (.pair (.many (.then_ (.notFollowedBy ending) p)) ending)
      (.pair (.many (.then_ (.notFollowedBy ending₀) p₀)) ending₀) := by
  have hasked : PlainlyBuilt setting w (.notFollowedBy ending) (.notFollowedBy ending₀) :=
    .node (g := .notFollowedBy ending₀) hp.faithful not_false trivial (fun _ => id)
      (.cons hending .nil)
  have hitem : PlainlyBuilt setting w (.then_ (.notFollowedBy ending) p)
      (.then_ (.notFollowedBy ending₀) p₀) :=
    .node (g := .then_ _ p₀) hp.faithful not_false trivial (fun _ => id)
      (.cons hasked (.cons hp .nil))
  have hitems : PlainlyBuilt setting w (.many (.then_ (.notFollowedBy ending) p))
      (.many (.then_ (.notFollowedBy ending₀) p₀)) :=
    .node (g := .many _) hp.faithful not_false trivial (fun _ => id) (.cons hitem .nil)
  exact .node (g := .pair _ ending₀) hp.faithful not_false trivial (fun _ => id)
    (.cons hitems (.cons hending .nil))

/-- **Items until an ending in terms of a repetition.** The item and the ending may be any
that were built, of grammars whose definitions only construct parsers, in a world with any
account and any history, and the item, where the ending fails, does not succeed without
moving. Then items until the ending succeed if and only if a repetition of items, before
each of which the ending is asked for, and the ending after it do: with the same values, in
the same state and at the same stream. The values are of items found one after another where
the ending fails, and the rest of the reply is that of the ending. And items until an ending
fail if and only if, after such items, there is a place where both ending and item fail, and
then as the item does. All this is said of replies without an excess. -/
theorem manyTill_iff_many (hp : PlainlyBuilt setting w p p₀)
    (hending : PlainlyBuilt setting w ending ending₀) (s : Value) (t : Stream)
    (hmoves : NeverStays (Unless (Replies setting w ending) (Replies setting w p)) s t) :
    (∀ s' u v, Replies setting w (.manyTill p ending) s t ⟨s', u, .ok v⟩ ↔
      ∃ v', Replies setting w (.pair (.many (.then_ (.notFollowedBy ending) p)) ending) s t
        ⟨s', u, .ok (ofPair (v, v'))⟩) ∧
    (∀ s' u vs, Replies setting w (.manyTill p ending) s t ⟨s', u, .ok (.array vs)⟩ ↔
      ∃ s₁ t₁ v',
        Successes (Unless (Replies setting w ending) (Replies setting w p)) s t vs s₁ t₁ ∧
          Replies setting w ending s₁ t₁ ⟨s', u, .ok v'⟩) ∧
    ∀ s' u messages, Replies setting w (.manyTill p ending) s t ⟨s', u, .error messages⟩ ↔
      ∃ vs s₁ t₁,
        Successes (Unless (Replies setting w ending) (Replies setting w p)) s t vs s₁ t₁ ∧
          Unless (Replies setting w ending) (Replies setting w p) s₁ t₁
            ⟨s', u, .error messages⟩ := by
  by_cases htripped : w.ledger.tripped = none
  · rw [hp.replies_eq htripped, hending.replies_eq htripped] at hmoves ⊢
    rw [(hp.manyTill hending).replies_eq htripped, (hp.pair_many hending).replies_eq htripped]
    refine ⟨fun s' u v => ?_, fun s' u vs => ?_, fun s' u messages =>
      means_manyTill_error_iff htripped⟩
    · simp only [means_manyTill_ok_iff htripped, means_pair_many_iff htripped hmoves]
      constructor
      · rintro ⟨vs, s₁, t₁, v', hitems, hend, rfl⟩
        exact ⟨v', vs, s₁, t₁, v', hitems, hend, rfl⟩
      · rintro ⟨v', vs, s₁, t₁, v₁, hitems, hend, hvalue⟩
        cases hvalue
        exact ⟨vs, s₁, t₁, v', hitems, hend, rfl⟩
    · rw [means_manyTill_ok_iff htripped]
      constructor
      · rintro ⟨vs', s₁, t₁, v', hitems, hend, hvalue⟩
        cases hvalue
        exact ⟨s₁, t₁, v', hitems, hend⟩
      · rintro ⟨s₁, t₁, v', hitems, hend⟩
        exact ⟨vs, s₁, t₁, v', hitems, hend, rfl⟩
  · -- after an excess nothing is said of either
    have hnone {g : Grammar} {s : Value} {t : Stream} {reply : Reply Value Value} :
        ¬Replies setting w g s t reply := fun h => htripped h.untripped
    exact ⟨fun s' u v => iff_of_false hnone fun ⟨_, h⟩ => hnone h,
      fun s' u vs => iff_of_false hnone fun ⟨_, _, _, _, h⟩ => hnone h,
      fun s' u messages => iff_of_false hnone fun ⟨_, _, _, _, _, h⟩ => hnone h⟩

end

/-- The end of a comment, with its attempts counted in the state, also those that fail. -/
def commentEnd : Grammar :=
  .then_ (.transformState fun | .int k => .int (k + 1) | v => v) (.literal ['*', '/'])

theorem anyChar_moves {w : World Heap} {s s' : Value} {t u : Stream} {v : Value}
    (h : Replies setting w .anyChar s t ⟨s', u, .ok v⟩) : (u == t) = false := by
  obtain ⟨n, w', hdone, -⟩ := h
  cases n with
  | zero => cases hdone
  | succ n =>
    simp only [eval, layer, Parser.map, Parser.anyChar] at hdone
    split at hdone
    · next c rest _ =>
      cases hdone
      exact beq_eq_false_of_offset (Nat.ne_of_gt (Nat.lt_add_of_pos_right c.utf8Size_pos))
    · cases hdone

theorem plainlyBuilt_comment : PlainlyBuilt {} (Setting.initialWorld {}) .anyChar .anyChar ∧
    PlainlyBuilt {} (Setting.initialWorld {}) commentEnd commentEnd := by
  have hfaithful : Faithful {} none (Setting.initialHeap {}) :=
    initialHeap_faithful fun _ h => (List.not_mem_nil h).elim
  have hleaf (g : Grammar) (hg : g.children = []) (hrecursive : ¬g.Recursive) (hwritten : Written g)
      (hpicks : ∀ p, ¬g.Picks p) : PlainlyBuilt {} (Setting.initialWorld {}) (g.rebuild []) g :=
    .node hfaithful hrecursive hwritten hpicks (by rw [hg]; exact .nil)
  refine ⟨hleaf .anyChar rfl not_false trivial fun _ => id,
    .node (g := commentEnd) hfaithful not_false trivial (fun _ => id)
      (.cons ?_ (.cons ?_ .nil))⟩
  · exact hleaf (.transformState _) rfl not_false trivial fun _ => id
  · exact hleaf (.literal _) rfl not_false trivial fun _ => id

/-- A comment up to its end, of which only the last attempt is counted, and one without an
end. -/
theorem comment_till : ∃ w,
    PlainlyBuilt {} w .anyChar .anyChar ∧ PlainlyBuilt {} w commentEnd commentEnd ∧
    (∃ v', Replies {} w (.pair (.many (.then_ (.notFollowedBy commentEnd) .anyChar)) commentEnd)
      (.int 0) (.start ⟨['a', '*', 'b', '*', '/', 'c'], 0⟩)
      ⟨.int 1, ⟨⟨['a', '*', 'b', '*', '/', 'c'], 0⟩, 5, ['c']⟩,
        .ok (ofPair (.array [ofText ['a'], ofText ['*'], ofText ['b']], v'))⟩) ∧
    ∃ vs s₁ t₁, Successes (Unless (Replies {} w commentEnd) (Replies {} w .anyChar)) (.int 0)
        (.start ⟨['a', '*'], 0⟩) vs s₁ t₁ ∧
      Unless (Replies {} w commentEnd) (Replies {} w .anyChar) s₁ t₁
        ⟨.int 0, ⟨⟨['a', '*'], 0⟩, 2, []⟩, .error ["unexpected end of input"]⟩ := by
  obtain ⟨hitem, hending⟩ := plainlyBuilt_comment
  have hmoves (s : Value) (t : Stream) :
      NeverStays (Unless (Replies {} (Setting.initialWorld {}) commentEnd)
        (Replies {} (Setting.initialWorld {}) .anyChar)) s t :=
    fun _ _ _ _ _ _ _ h => anyChar_moves h.2
  have hclosed : eval {} 6 (.manyTill .anyChar commentEnd) (.int 0)
      (.start ⟨['a', '*', 'b', '*', '/', 'c'], 0⟩) (Setting.initialWorld {}) =
      .done ⟨.int 1, ⟨⟨['a', '*', 'b', '*', '/', 'c'], 0⟩, 5, ['c']⟩,
        .ok (.array [ofText ['a'], ofText ['*'], ofText ['b']])⟩ (Setting.initialWorld {}) := by rfl
  have hopen : eval {} 6 (.manyTill .anyChar commentEnd) (.int 0) (.start ⟨['a', '*'], 0⟩)
      (Setting.initialWorld {}) = .done ⟨.int 0, ⟨⟨['a', '*'], 0⟩, 2, []⟩,
        .error ["unexpected end of input"]⟩ (Setting.initialWorld {}) := by rfl
  exact ⟨_, hitem, hending,
    ((manyTill_iff_many hitem hending _ _ (hmoves _ _)).1 _ _ _).1 ⟨6, _, hclosed, rfl⟩,
    ((manyTill_iff_many hitem hending _ _ (hmoves _ _)).2.2 _ _ _).1 ⟨6, _, hopen, rfl⟩⟩

end Grammar

end Descent
