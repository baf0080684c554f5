import Descent.Proofs.Cells
import Descent.Proofs.Coupling.Loops

/-! What a grammar replies.

An evaluation takes fuel, a heap of cells and an account of nesting, and gives the last two
back. While there is no excess, fuel and heap do not matter for what is replied, which is
what was written means under that account (`PlainlyBuilt.replies_iff`), and is at most one
thing (`PlainlyBuilt.replies_unique`). So a grammar may be taken for a relation. What a
computation of two steps comes to is found from what the steps come to (`Steady.next_iff`),
in worlds of one kind (`Settles`); for the meaning of a grammar the kind is the account. -/
namespace Descent
open Descent.Parser Descent.Coupling
open Filter (atTop)

/-! ### Computations that settle -/

section
variable {ω β γ : Type} {I : ω → Prop} {b b' : β} {c : γ}

/-- With any fuel that is enough the computation finds the value, in every world of a kind,
and leaves a world of that kind. -/
def Settles (I : ω → Prop) (d : ℕ → ω → Result ω β) (b : β) : Prop :=
  ∀ᶠ n in atTop, ∀ w, I w → ∃ w', I w' ∧ d n w = .done b w'

/-- A computation that, where it leaves a world of the kind, began in one, and finds the same
in all of them. -/
structure Steady (I : ω → Prop) (d : ℕ → ω → Result ω β) : Prop where
  back : ∀ {n w w' b}, d n w = .done b w' → I w' → I w
  settles : ∀ {n w w' b}, d n w = .done b w' → I w' → Settles I d b

variable {d : ℕ → ω → Result ω β} {k : ℕ → β → ω → Result ω γ}

/-- What is found with one amount of fuel, in one world. -/
theorem Settles.exists_done (hI : ∃ w, I w) (h : Settles I d b) :
    ∃ n w w', I w' ∧ d n w = .done b w' := by
  obtain ⟨w, hw⟩ := hI
  obtain ⟨n, hn⟩ := h.exists
  exact ⟨n, w, hn w hw⟩

theorem Settles.unique (hI : ∃ w, I w) (h : Settles I d b) (h' : Settles I d b') : b = b' := by
  obtain ⟨w, hw⟩ := hI
  obtain ⟨n, hn, hn'⟩ := (h.and h').exists
  obtain ⟨w₁, -, hdone⟩ := hn w hw
  obtain ⟨w₁', -, hdone'⟩ := hn' w hw
  rw [hdone] at hdone'
  exact (Result.done.inj hdone').1

theorem settles_succ_iff : Settles I (fun n => d (n + 1)) b ↔ Settles I d b :=
  eventually_add 1 fun n => ∀ w, I w → ∃ w', I w' ∧ d n w = .done b w'

theorem Settles.next (h : Settles I d b) (hk : Settles I (fun n => k n b) c) :
    Settles I (fun n w => (d n w).next (k n)) c := by
  filter_upwards [h, hk] with n hn hkn w hw
  obtain ⟨w₁, hw₁, hdone⟩ := hn w hw
  obtain ⟨w', hw', hrest⟩ := hkn w₁ hw₁
  exact ⟨w', hw', by rw [hdone, Result.next_done, hrest]⟩

theorem settles_done_iff (hI : ∃ w, I w) : Settles I (fun _ w => .done b w) b' ↔ b' = b := by
  constructor
  · intro h
    obtain ⟨n, w, w', -, hdone⟩ := h.exists_done hI
    exact (Result.done.inj hdone).1.symm
  · rintro rfl
    exact .of_forall fun _ w hw => ⟨w, hw, rfl⟩

namespace Steady

theorem done (b : β) : Steady I fun _ w => .done b w where
  back h hw' := by
    cases h
    exact hw'
  settles h hw' := by
    cases h
    exact .of_forall fun _ w hw => ⟨w, hw, rfl⟩

/-- A computation of two steps leaves a world of the kind between them. -/
theorem between (h : Steady I d) (hk : ∀ b, Steady I fun n => k n b) {n : ℕ} {w w' : ω}
    (hdone : (d n w).next (k n) = .done c w') (hw' : I w') :
    ∃ b, I w ∧ Settles I d b ∧ Settles I (fun n => k n b) c := by
  cases hfirst : d n w with
  | outOfFuel => rw [hfirst] at hdone; cases hdone
  | fault f w₁ => rw [hfirst] at hdone; cases hdone
  | done b w₁ =>
    rw [hfirst, Result.next_done] at hdone
    have hw₁ : I w₁ := (hk b).back hdone hw'
    exact ⟨b, h.back hfirst hw₁, h.settles hfirst hw₁, (hk b).settles hdone hw'⟩

theorem next (h : Steady I d) (hk : ∀ b, Steady I fun n => k n b) :
    Steady I fun n w => (d n w).next (k n) where
  back hdone hw' := (h.between hk hdone hw').choose_spec.1
  settles hdone hw' := by
    obtain ⟨b, -, hfirst, hrest⟩ := h.between hk hdone hw'
    exact hfirst.next hrest

/-- **What two steps come to** is what the second comes to after what the first does. -/
theorem next_iff (hI : ∃ w, I w) (h : Steady I d) (hk : ∀ b, Steady I fun n => k n b) :
    Settles I (fun n w => (d n w).next (k n)) c ↔
      ∃ b, Settles I d b ∧ Settles I (fun n => k n b) c := by
  constructor
  · intro hsettles
    obtain ⟨n, w, w', hw', hdone⟩ := hsettles.exists_done hI
    obtain ⟨b, -, hfirst, hrest⟩ := h.between hk hdone hw'
    exact ⟨b, hfirst, hrest⟩
  · rintro ⟨b, hfirst, hrest⟩
    exact hfirst.next hrest

end Steady

end

/-! ### Parsers that settle -/

/-- What a parser replies to a state at a stream. -/
abbrev Semantics (α : Type) := Value → Stream → Reply Value α → Prop

/-- The replies on which a parser settles. -/
def Settled {ω α : Type} (I : ω → Prop) (p : ℕ → Parser ω Value α) : Semantics α := fun s t =>
  Settles I fun n => p n s t

namespace Steady
variable {ω α β : Type} {I : ω → Prop} {p : ℕ → Parser ω Value α} {q : ℕ → Parser ω Value β}
variable {s s' : Value} {t u : Stream} {d : ℕ → ω → Result ω (Reply Value α)}

theorem map (h : Steady I fun n => p n s t) (f : α → β) :
    Steady I fun n => Parser.map f (p n) s t :=
  h.next fun _ => .done _

theorem map_iff (hI : ∃ w, I w) (h : Steady I fun n => p n s t) (f : α → β)
    {reply : Reply Value β} : Settles I (fun n => Parser.map f (p n) s t) reply ↔
      ∃ found, Settles I (fun n => p n s t) found ∧ reply = found.map f :=
  (h.next_iff hI fun _ => .done _).trans
    (exists_congr fun _ => and_congr_right' (settles_done_iff hI))

section
variable {k : ℕ → α → Value → Stream → ω → Result ω (Reply Value β)} {reply : Reply Value β}

theorem afterFirst (hk : ∀ v s t, Steady I fun n => k n v s t) (first : Reply Value α) :
    Steady I fun n w =>
      match first.outcome with
      | .ok v => k n v first.state first.stream w
      | .error messages => reject first.state first.stream messages w := by
  obtain ⟨s, t, messages | v⟩ := first
  · exact .done _
  · exact hk v s t

theorem andThen (h : Steady I d) (hk : ∀ v s t, Steady I fun n => k n v s t) :
    Steady I fun n w => Parser.andThen (d n w) (k n) :=
  h.next (afterFirst hk)

/-- What goes on after a success comes to what the success leads to, or to the failure. -/
theorem andThen_iff (hI : ∃ w, I w) (h : Steady I d) (hk : ∀ v s t, Steady I fun n => k n v s t) :
    Settles I (fun n w => Parser.andThen (d n w) (k n)) reply ↔
      (∃ s t v, Settles I d ⟨s, t, .ok v⟩ ∧ Settles I (fun n => k n v s t) reply) ∨
        ∃ s t messages, Settles I d ⟨s, t, .error messages⟩ ∧ reply = ⟨s, t, .error messages⟩ := by
  refine (h.next_iff hI (afterFirst hk)).trans ⟨?_, ?_⟩
  · rintro ⟨⟨s, t, messages | v⟩, hfirst, hrest⟩
    · exact .inr ⟨s, t, messages, hfirst, (settles_done_iff hI).1 hrest⟩
    · exact .inl ⟨s, t, v, hfirst, hrest⟩
  · rintro (⟨s, t, v, hfirst, hrest⟩ | ⟨s, t, messages, hfirst, rfl⟩)
    · exact ⟨_, hfirst, hrest⟩
    · exact ⟨_, hfirst, (settles_done_iff hI).2 rfl⟩

end

theorem pair (hp : Steady I fun n => p n s t) (hq : ∀ s t, Steady I fun n => q n s t) :
    Steady I fun n => Parser.pair (p n) (q n) s t :=
  hp.andThen fun _ s t => (hq s t).map _

/-- The values of both, if both succeed. -/
theorem pair_iff (hI : ∃ w, I w) (hp : Steady I fun n => p n s t)
    (hq : ∀ s t, Steady I fun n => q n s t) {v : α} {v' : β} :
    Settles I (fun n => Parser.pair (p n) (q n) s t) ⟨s', u, .ok (v, v')⟩ ↔
      ∃ s₁ t₁, Settles I (fun n => p n s t) ⟨s₁, t₁, .ok v⟩ ∧
        Settles I (fun n => q n s₁ t₁) ⟨s', u, .ok v'⟩ := by
  refine (hp.andThen_iff hI fun v s t => (hq s t).map fun v' => (v, v')).trans ⟨?_, ?_⟩
  · rintro (⟨s₁, t₁, v₁, hfirst, hrest⟩ | ⟨s₁, t₁, messages, -, hfails⟩)
    · obtain ⟨⟨s₂, t₂, messages | v₂⟩, hsecond, hreply⟩ := ((hq s₁ t₁).map_iff hI _).1 hrest
      · cases hreply
      · cases hreply
        exact ⟨s₁, t₁, hfirst, hsecond⟩
    · cases hfails
  · rintro ⟨s₁, t₁, hfirst, hsecond⟩
    exact .inl ⟨s₁, t₁, v, hfirst, ((hq s₁ t₁).map_iff hI _).2 ⟨_, hsecond, rfl⟩⟩

theorem afterAsked (first : Reply Value α) : Steady I fun _ w =>
    match first.outcome with
    | .ok _ => reject s t [s!"unexpected \"{String.ofList (t.consumedUntil first.stream)}\""] w
    | .error _ => accept s t () w := by
  obtain ⟨s', u, messages | v⟩ := first <;> exact .done _

theorem notFollowedBy (h : Steady I fun n => p n s t) :
    Steady I fun n => Parser.notFollowedBy (p n) s t :=
  h.next afterAsked

/-- It succeeds where the parser fails, and fails where the parser succeeds. -/
theorem notFollowedBy_iff (hI : ∃ w, I w) (h : Steady I fun n => p n s t)
    {reply : Reply Value Unit} : Settles I (fun n => Parser.notFollowedBy (p n) s t) reply ↔
      (∃ s' u v, Settles I (fun n => p n s t) ⟨s', u, .ok v⟩ ∧
        reply = ⟨s, t, .error [s!"unexpected \"{String.ofList (t.consumedUntil u)}\""]⟩) ∨
      (∃ s' u messages, Settles I (fun n => p n s t) ⟨s', u, .error messages⟩) ∧
        reply = ⟨s, t, .ok ()⟩ := by
  refine (h.next_iff hI afterAsked).trans ⟨?_, ?_⟩
  · rintro ⟨⟨s', u, messages | v⟩, hfirst, hrest⟩
    · exact .inr ⟨⟨s', u, messages, hfirst⟩, (settles_done_iff hI).1 hrest⟩
    · exact .inl ⟨s', u, v, hfirst, (settles_done_iff hI).1 hrest⟩
  · rintro (⟨s', u, v, hfirst, rfl⟩ | ⟨⟨s', u, messages, hfirst⟩, rfl⟩)
    · exact ⟨_, hfirst, (settles_done_iff hI).2 rfl⟩
    · exact ⟨_, hfirst, (settles_done_iff hI).2 rfl⟩

end Steady

namespace Grammar
variable {setting : Setting} {l : Ledger} {g p q : Grammar} {s : Value} {t : Stream}
variable {reply : Reply Value Value}

/-! ### The meaning of a grammar as a relation -/

/-- Worlds with this account. -/
def Under (l : Ledger) (w : World Log) : Prop := w.ledger = l

theorem exists_under (l : Ledger) : ∃ w, Under l w := ⟨⟨l, []⟩, rfl⟩

/-- What the grammar replies as it is written, under an account which it leaves as it is. -/
def Means (setting : Setting) (l : Ledger) (g : Grammar) : Semantics Value :=
  Settled (Under l) fun n => meaning setting n g

theorem means_succ_iff : Means setting l g s t reply ↔
    Settles (Under l) (fun n => meaning setting (n + 1) g s t) reply :=
  settles_succ_iff.symm

/-- While there is no excess, fuel and log do not matter. -/
theorem meaning_steady (setting : Setting) (hl : l.tripped = none) (g : Grammar) (s : Value)
    (t : Stream) : Steady (Under l) fun n => meaning setting n g s t := by
  have hback {n w w' reply} (hdone : meaning setting n g s t w = .done reply w')
      (hw' : Under l w') : Under l w := by
    have hkept := (meaning_accounts setting n g).apply s t w
    rw [hdone] at hkept
    have huntripped : w'.ledger.tripped = none := hw' ▸ hl
    exact (Ledger.Kept.eq_of_untripped hkept huntripped).symm.trans hw'
  refine ⟨hback, fun {n w w' reply} hdone hw' => ?_⟩
  have hmore (m : ℕ) (v : World Log) (hv : Under l v) :
      ∃ v', Under l v' ∧ meaning setting (m + n) g s t v = .done reply v' := by
    have hmatches := follows_lockstep.mp (meaning_beside (H := fun _ _ => True) trivial
      (fun _ _ _ _ => trivial) ⊤ setting n g) s t w v ⟨(hback hdone hw').trans hv.symm, trivial⟩
    rw [hdone] at hmatches
    obtain ⟨v', hv', hledger, -⟩ := hmatches
    rw [Nat.add_comm]
    exact ⟨v', hledger.symm.trans hw', Filter.eventually_top.mp hv' m⟩
  exact (eventually_add n fun m => ∀ v, Under l v → ∃ v', Under l v' ∧
    meaning setting m g s t v = .done reply v').mp (.of_forall hmore)

/-! ### What was built -/

/-- What the grammar, which was built, replies in this world, if there is no excess. -/
def Replies (setting : Setting) (w : World Heap) (g : Grammar) : Semantics Value :=
  fun s t reply => ∃ n w', eval setting n g s t w = .done reply w' ∧ w'.ledger.tripped = none

theorem Replies.untripped {w : World Heap} (h : Replies setting w g s t reply) :
    w.ledger.tripped = none := by
  obtain ⟨n, w', hdone, htripped⟩ := h
  have hkept := (eval_accounts setting n g).apply s t w
  rw [hdone] at hkept
  exact Ledger.Kept.untripped hkept htripped

/-- The grammar was built in this world, where only grammars are built that construct nothing
but parsers. -/
structure PlainlyBuilt (setting : Setting) (w : World Heap) (g g₀ : Grammar) : Prop where
  faithful : Faithful setting none w.heap
  stands : Stands setting w.heap g g₀
  plain : Plain g₀

/-- **What was built replies what was written means.** -/
theorem PlainlyBuilt.replies_iff {w : World Heap} (h : PlainlyBuilt setting w g p)
    (htripped : w.ledger.tripped = none) :
    Replies setting w g s t reply ↔ Means setting w.ledger p s t reply := by
  have halong (n : ℕ) := (eval_lockstep setting n).along w ⟨w.ledger, []⟩ rfl h.faithful
    (.refl w.heap) h.stands h.plain s t
  constructor
  · rintro ⟨n, w', hdone, hw'⟩
    have hkept := (eval_accounts setting n g).apply s t w
    have hmatches := halong n
    rw [hdone] at hkept hmatches
    obtain ⟨v', hv', hledger, -⟩ := hmatches
    exact (meaning_steady setting htripped p s t).settles (Filter.eventually_pure.mp hv')
      (hledger.symm.trans (Ledger.Kept.eq_of_untripped hkept hw'))
  · intro hmeans
    obtain ⟨n, hn⟩ := Filter.Eventually.exists hmeans
    obtain ⟨v', hv', hdone : meaning setting n p s t ⟨w.ledger, []⟩ = _⟩ := hn ⟨w.ledger, []⟩ rfl
    obtain ⟨b, w', v'', hdone', hmeaning, hledger, -⟩ | ⟨f, w', v'', -, hfault, -⟩ |
      ⟨-, hstarved⟩ := (halong n).cases
    · rw [hdone] at hmeaning
      cases hmeaning
      exact ⟨n, w', hdone', by rw [hledger, hv', htripped]⟩
    · rw [hdone] at hfault; cases hfault
    · rw [hdone] at hstarved; cases hstarved

theorem PlainlyBuilt.replies_eq {w : World Heap} (h : PlainlyBuilt setting w g p)
    (htripped : w.ledger.tripped = none) : Replies setting w g = Means setting w.ledger p := by
  funext s t reply
  exact propext (h.replies_iff htripped)

/-- There is at most one reply. -/
theorem PlainlyBuilt.replies_unique {w : World Heap} {reply' : Reply Value Value}
    (h : PlainlyBuilt setting w g p) (hreply : Replies setting w g s t reply)
    (hreply' : Replies setting w g s t reply') : reply = reply' :=
  Settles.unique (exists_under w.ledger) ((h.replies_iff hreply.untripped).1 hreply)
    ((h.replies_iff hreply.untripped).1 hreply')

/-- A node over parts that were built was built. -/
theorem PlainlyBuilt.node {w : World Heap} {ps : List Grammar}
    (hfaithful : Faithful setting none w.heap) (hrecursive : ¬g.Recursive) (hwritten : Written g)
    (hpicks : ∀ p, ¬g.Picks p) (hparts : List.Forall₂ (PlainlyBuilt setting w) ps g.children) :
    PlainlyBuilt setting w (g.rebuild ps) g where
  faithful := hfaithful
  stands := .node hrecursive (hparts.imp fun _ _ => stands)
  plain := (All.iff_children fun ⟨p, hp⟩ => hpicks p hp).2 ⟨hwritten, fun _ hq =>
    (forall₂_partner (.flip hparts) hq).elim fun _ h => plain h⟩

end Grammar

end Descent
