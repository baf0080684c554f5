import Descent.Proofs.Coupling.Loops
import Descent.Proofs.Peg.Soundness

/-! What can be derived is recognized.

Without a limit a grammar comes to whatever can be derived from the expression that it
is (`meaning_finds`). The induction is on the number of steps of the derivation, of which
a name takes one before its definition begins, and then on the grammar. -/
namespace Descent
open Descent.Parser Descent.Peg
open Filter (atTop eventually_atTop)

/-- There is no limit and no excess. -/
structure Unlimited (w : World Log) : Prop where
  limit : w.ledger.limit = 0
  tripped : w.ledger.tripped = none

theorem Unlimited.under {w : World Log} (hw : Unlimited w) : w.ledger.enter.overLimit = false := by
  simp [Ledger.overLimit, Ledger.enter, hw.limit]

/-- Without a limit nothing trips. -/
theorem Grammar.meaning_unlimited (setting : Setting) (n : ℕ) (g : Grammar) :
    Keeps Unlimited (meaning setting n g) := by
  induction n generalizing g with
  | zero => exact fun _ _ _ _ => trivial
  | succ n ih =>
    refine Keeps.layer ih ih (fun g s t w hw => ?_) (fun config p s t w hw => ?_) g
    · simp only [reference, recalled]
      cases body? setting g with
      | none => exact hw
      | some p =>
        simp only [deferred_under _ s t hw.tripped hw.under]
        exact (ih p s t ⟨w.ledger.enter, _⟩ ⟨hw.limit, hw.tripped⟩).settle
          (fun _ _ h => ⟨h.limit, h.tripped⟩) fun _ h => ⟨h.limit, h.tripped⟩
    · exact ((meaning_accounts setting n p).apart_nestedRun config s t w).mono
        (fun _ _ h => h ▸ hw) fun _ h => h ▸ hw

namespace Parser
variable {rules : String → Option Peg} {a b : Peg} {k : ℕ} {α β : Type}

/-- With any fuel that is enough the computation shows the effect. -/
def Reaches (o : Effect) (t : Stream) (d : ℕ → Result (World Log) (Reply Value α)) : Prop :=
  ∃ reply w, (∀ᶠ n in atTop, d n = .done reply w) ∧ Unlimited w ∧ o.Shown t reply

/-- Without a limit the parser comes to whatever is derived in at most so many steps. -/
def Finds (rules : String → Option Peg) (k : ℕ) (a : Peg)
    (q : ℕ → Parser (World Log) Value α) : Prop :=
  ∀ s t w, Unlimited w → ∀ m ≤ k, ∀ o, Derives rules a t.rest m o →
    Reaches o t fun n => q n s t w

namespace Reaches
variable {o o' : Effect} {t t' : Stream} {d : ℕ → Result (World Log) (Reply Value α)}

theorem here {reply : Reply Value α} {w : World Log} (hw : Unlimited w) (ho : o.Shown t reply) :
    Reaches o t fun _ => .done reply w := ⟨reply, w, .of_forall fun _ => rfl, hw, ho⟩

theorem of_succ (h : Reaches o t fun n => d (n + 1)) : Reaches o t d := by
  obtain ⟨reply, w, hd, hrest⟩ := h
  exact ⟨reply, w, (Coupling.eventually_add 1 fun n => d n = .done reply w).mp hd, hrest⟩

/-- Going on after what is derived. -/
theorem next {e : ℕ → Reply Value α → World Log → Result (World Log) (Reply Value β)}
    (h : Reaches o t d)
    (he : ∀ reply w, Unlimited w → o.Shown t reply → Reaches o' t' fun n => e n reply w) :
    Reaches o' t' fun n => (d n).next (e n) := by
  obtain ⟨reply, w, hd, hw, hshown⟩ := h
  obtain ⟨reply', w', he, hrest⟩ := he reply w hw hshown
  refine ⟨reply', w', ?_, hrest⟩
  filter_upwards [hd, he] with n hn hn'
  rw [hn, Result.next_done, hn']

theorem next_failed {e : ℕ → Reply Value α → World Log → Result (World Log) (Reply Value β)}
    (h : Reaches .failed t d)
    (he : ∀ s u l w, Unlimited w → Reaches o' t' fun n => e n ⟨s, u, .error l⟩ w) :
    Reaches o' t' fun n => (d n).next (e n) := by
  refine h.next fun ⟨s, u, o⟩ w hw ⟨l, hl⟩ => ?_
  obtain rfl : o = .error l := hl
  exact he s u l w hw

theorem next_consumed {e : ℕ → Reply Value α → World Log → Result (World Log) (Reply Value β)}
    {x y : Text} (h : Reaches (.consumed x y) t d)
    (he : ∀ s v w, Unlimited w → Reaches o' t' fun n => e n ⟨s, t.past x y, .ok v⟩ w) :
    Reaches o' t' fun n => (d n).next (e n) := by
  refine h.next fun ⟨s, u, o⟩ w hw ⟨⟨v, hv⟩, hu⟩ => ?_
  obtain rfl : o = .ok v := hv
  obtain rfl : u = t.past x y := hu
  exact he s v w hw

theorem after {x x' y y' : Text} (h : Reaches (.consumed x' y') (t.past x y) d) :
    Reaches (.consumed (x ++ x') y') t d := by
  obtain ⟨reply, w, hd, hw, ho⟩ := h
  exact ⟨reply, w, hd, hw, ho.after⟩

theorem settle (h : Reaches o t d) {f : World Log → World Log}
    (hf : ∀ w, Unlimited w → Unlimited (f w)) : Reaches o t fun n => (d n).settle f := by
  obtain ⟨reply, w, hd, hw, ho⟩ := h
  exact ⟨reply, f w, hd.mono fun n hn => by simp only [hn, Result.settle], hf w hw, ho⟩

end Reaches

namespace Finds

theorem of_succ {q : ℕ → Parser (World Log) Value α} (h : Finds rules k a fun n => q (n + 1)) :
    Finds rules k a q := fun s t w hw m hm o hd => .of_succ (h s t w hw m hm o hd)

theorem empty (v : α) : Finds rules k .empty fun _ => succeed v := fun s t w hw m _ o hd => by
  cases hd
  exact .here hw ⟨⟨v, rfl⟩, rfl⟩

theorem never (messages : List String) :
    Finds rules k .never fun _ s t => (reject s t messages : _ → Result _ (Reply _ α)) :=
  fun s t w hw m _ o hd => by
    cases hd with
    | not hd => cases hd
    | not_fails => exact .here hw ⟨messages, rfl⟩

theorem text (x : Text) : Finds rules k (.text x) fun _ => literal x := fun s t w hw m _ o hd => by
  cases hd with
  | text h =>
    simp only [literal, h, Text.after?_append]
    exact .here hw ⟨⟨x, rfl⟩, rfl⟩
  | text_fails h =>
    cases hafter : Text.after? x t.rest with
    | some rest => exact (h ⟨rest, (Text.eq_append_of_after? hafter).symm⟩).elim
    | none =>
      simp only [literal, hafter]
      exact .here hw ⟨_, rfl⟩

theorem any : Finds rules k .any fun _ => anyChar :=
  fun s ⟨source, offset, rest⟩ w hw m _ o hd => by
    unfold anyChar
    cases hd with
    | any => exact .here hw ⟨⟨_, rfl⟩, by simp [Stream.past]⟩
    | any_fails => exact .here hw ⟨_, rfl⟩

theorem finish : Finds rules k .finish fun _ => endOfInput :=
  fun s ⟨source, offset, rest⟩ w hw m _ o hd => by
    unfold endOfInput
    cases hd with
    | not hd => cases hd; exact .here hw ⟨⟨(), rfl⟩, rfl⟩
    | not_fails hd => cases hd; exact .here hw ⟨_, rfl⟩

theorem map {q : ℕ → Parser (World Log) Value α} (hq : Finds rules k a q) (f : α → β) :
    Finds rules k a fun n => map f (q n) := fun s t w hw m hm o hd =>
  (hq s t w hw m hm o hd).next fun _ _ hw' ho => .here hw' (ho.map f)

variable {q r : ℕ → Parser (World Log) Value α}

/-- One after another. -/
theorem andThen {r : ℕ → α → Parser (World Log) Value β} (hq : Finds rules k a q)
    (hr : ∀ v, Finds rules k b fun n => r n v) :
    Finds rules k (.seq a b) fun n s t w => andThen (q n s t w) (r n) :=
  fun s t w hw m hm o hd => by
  cases hd with
  | seq_fails_first ha =>
    exact (hq s t w hw _ (by omega) _ ha).next_failed fun s' u l w₁ hw₁ => .here hw₁ ⟨l, rfl⟩
  | seq ha hb =>
    exact (hq s t w hw _ (by omega) _ ha).next_consumed fun s' v w₁ hw₁ =>
      (hr v s' (t.past _ _) w₁ hw₁ _ (by omega) _ hb).after
  | seq_fails_second ha hb =>
    exact (hq s t w hw _ (by omega) _ ha).next_consumed fun s' v w₁ hw₁ =>
      hr v s' (t.past _ _) w₁ hw₁ _ (by omega) _ hb

/-- One or, where it fails, another. -/
theorem orElse {r : ℕ → List String → Parser (World Log) Value α} (hq : Finds rules k a q)
    (hr : ∀ l, Finds rules k b fun n => r n l) :
    Finds rules k (.choice a b) fun n s t w => orElse (q n s t w) fun l w => r n l s t w :=
  fun s t w hw m hm o hd => by
  cases hd with
  | choice_first ha =>
    exact (hq s t w hw _ (by omega) _ ha).next_consumed fun s' v w₁ hw₁ =>
      .here hw₁ ⟨⟨v, rfl⟩, rfl⟩
  | choice_second ha hb =>
    exact (hq s t w hw _ (by omega) _ ha).next_failed fun s' u l w₁ hw₁ =>
      hr l s t w₁ hw₁ _ (by omega) _ hb

/-- A failure may be told otherwise, and elsewhere. -/
theorem reworded (hq : Finds rules k a q) (f : List String → List String) :
    Finds rules k a fun n s t w => Parser.orElse (q n s t w) fun l w => reject s t (f l) w :=
  fun s t w hw m hm o hd => (hq s t w hw m hm o hd).next fun reply w' hw' ho => by
    obtain ⟨s', u, l | v⟩ := reply
    · exact .here hw' (Effect.shown_error.mpr (Effect.shown_error.mp ho))
    · exact .here hw' ho

theorem or (hq : Finds rules k a q) (hr : Finds rules k b r) :
    Finds rules k (.choice a b) fun n => or (q n) (r n) := hq.orElse fun l => hr.reworded (l ++ ·)

theorem maybe (hq : Finds rules k a q) : Finds rules k (.optional a) fun n => maybe (q n) :=
  fun s t w hw m hm o hd => by
  cases hd with
  | choice_first ha =>
    exact (hq s t w hw _ (by omega) _ ha).next_consumed fun s' v w₁ hw₁ =>
      .here hw₁ ⟨⟨some v, rfl⟩, rfl⟩
  | choice_second ha hb =>
    cases hb
    exact (hq s t w hw _ (by omega) _ ha).next_failed fun s' u l w₁ hw₁ =>
      .here hw₁ ⟨⟨none, rfl⟩, rfl⟩

theorem lookAhead (hq : Finds rules k a q) : Finds rules k (.ahead a) fun n => lookAhead (q n) :=
  fun s t w hw m hm o hd => by
  cases hd with
  | ahead ha =>
    exact (hq s t w hw _ (by omega) _ ha).next_consumed fun s' v w₁ hw₁ =>
      .here hw₁ ⟨⟨v, rfl⟩, rfl⟩
  | ahead_fails ha =>
    exact (hq s t w hw _ (by omega) _ ha).next_failed fun s' u l w₁ hw₁ => .here hw₁ ⟨l, rfl⟩

theorem notFollowedBy (hq : Finds rules k a q) :
    Finds rules k (.not a) fun n => notFollowedBy (q n) := fun s t w hw m hm o hd => by
  cases hd with
  | not ha =>
    exact (hq s t w hw _ (by omega) _ ha).next_failed fun s' u l w₁ hw₁ =>
      .here hw₁ ⟨⟨(), rfl⟩, rfl⟩
  | not_fails ha =>
    exact (hq s t w hw _ (by omega) _ ha).next_consumed fun s' v w₁ hw₁ => .here hw₁ ⟨_, rfl⟩

theorem deferred (hq : Finds rules k a q) : Finds rules k a fun n => deferred (noted (q n)) :=
  fun s t w hw m hm o hd => by
  simp only [deferred_under _ s t hw.tripped hw.under]
  exact (hq s t ⟨w.ledger.enter, _⟩ ⟨hw.limit, hw.tripped⟩ m hm o hd).settle
    fun _ h => ⟨h.limit, h.tripped⟩

/-- A loop shows the effect with enough fuel for its parser and enough rounds. -/
def Loops (o : Effect) (t : Stream) (d : ℕ → ℕ → Result (World Log) (Reply Value α)) : Prop :=
  ∃ reply w M, (∀ n ≥ M, ∀ rounds ≥ M, d n rounds = .done reply w) ∧ Unlimited w ∧ o.Shown t reply

/-- A round of a loop is its last, or the loop goes on. -/
theorem loops_of_round {o o' : Effect} {t t' : Stream} {reply : Reply Value α} {w : World Log}
    {c : ℕ → Result (World Log) (Reply Value α)}
    {next : ℕ → ℕ → Reply Value α → World Log → Result (World Log) (Reply Value (List α))}
    {loop : ℕ → ℕ → Result (World Log) (Reply Value (List α))}
    (hc : ∀ᶠ n in atTop, c n = .done reply w)
    (hloop : ∀ n rounds, loop n (rounds + 1) = (c n).next (next n rounds))
    (hnext : Loops o t fun n rounds => next n rounds reply w)
    (hshown : ∀ reply : Reply Value (List α), o.Shown t reply → o'.Shown t' reply) :
    Loops o' t' loop := by
  obtain ⟨M₁, hM₁⟩ := eventually_atTop.mp hc
  obtain ⟨reply', w', M₂, hM₂, hw', ho⟩ := hnext
  refine ⟨reply', w', max M₁ (M₂ + 1), fun n hn rounds hr => ?_, hw', hshown _ ho⟩
  obtain ⟨rounds, rfl⟩ := Nat.exists_eq_add_of_le' (Nat.one_le_of_lt (le_of_max_le_right hr))
  rw [hloop, hM₁ n (le_of_max_le_left hn), Result.next_done]
  exact hM₂ n (by omega) rounds (by omega)

/-- As often as it goes, which is as often as the derivation says. -/
theorem manyFrom (hq : Finds rules k a q) (found : List α) :
    Finds rules k (.star a) fun n => manyFrom (q n) found n := fun s t w hw m hm o hd => by
  have hloop : Loops o t fun n rounds => Parser.manyFrom (q n) found rounds s t w := by
    induction m using Nat.strong_induction_on generalizing found s t w o with
    | _ m ih =>
    cases hd with
    | star_ends ha =>
      obtain ⟨⟨s', u, o'⟩, w₁, hc, hw₁, l, rfl : o' = .error l⟩ := hq s t w hw _ (by omega) _ ha
      refine loops_of_round hc (fun n rounds => rfl) ?_ fun _ => id
      exact ⟨⟨s, t, .ok found.reverse⟩, w₁, 0, fun _ _ _ _ => rfl, hw₁, ⟨_, rfl⟩, rfl⟩
    | star_stays ha =>
      obtain ⟨⟨s', u, o'⟩, w₁, hc, hw₁, ⟨v, rfl : o' = .ok v⟩, rfl : u = _⟩ :=
        hq s t w hw _ (by omega) _ ha
      refine loops_of_round hc (fun n rounds => rfl) ?_ fun _ => id
      simp only [if_pos (past_beq.mpr rfl)]
      exact ⟨⟨s', _, .ok found.reverse⟩, w₁, 0, fun _ _ _ _ => rfl, hw₁, ⟨_, rfl⟩, rfl⟩
    | @star_moves _ x _ _ y' _ _ _ ha hx hs =>
      obtain ⟨⟨s', u, o'⟩, w₁, hc, hw₁, ⟨v, rfl : o' = .ok v⟩, rfl : u = t.past x y'⟩ :=
        hq s t w hw _ (by omega) _ ha
      have hmore := ih _ (by omega) (v :: found) s' (t.past x y') w₁ hw₁ (by omega) _ hs
      refine loops_of_round hc (fun n rounds => rfl) ?_ fun _ => Effect.Shown.after (y := y')
      simpa only [if_neg (mt past_beq.mp hx)] using hmore
  obtain ⟨reply, w', M, hdone, hrest⟩ := hloop
  exact ⟨reply, w', eventually_atTop.mpr ⟨M, fun n hn => hdone n hn n hn⟩, hrest⟩

end Finds

end Parser

namespace Grammar
variable {setting : Setting} {rules : String → Option Peg} {k : ℕ}

section
variable {apply : ℕ → Grammar → Parser (World Log) Value Value}

theorem finds_sequence {ps : List Grammar}
    (ih : ∀ p ∈ ps, ∀ a, Expresses p a → Finds rules k a fun n => apply n p) {a : Peg}
    (hps : Expresses (.sequence ps) a) (found : List Value) :
    Finds rules k a fun n => sequenceFrom found (ps.map (apply n)) := by
  induction ps generalizing a found with
  | nil => cases hps; exact .empty found.reverse
  | cons p ps ihps =>
    rw [List.forall_mem_cons] at ih
    cases hps with
    | sequence_cons hp hps => exact (ih.1 _ hp).andThen fun v => ihps ih.2 hps (v :: found)

theorem finds_choice {ps : List Grammar}
    (ih : ∀ p ∈ ps, ∀ a, Expresses p a → Finds rules k a fun n => apply n p) {a : Peg}
    (hps : Expresses (.choice ps) a) (messages : List String) :
    Finds rules k a fun n => choiceFrom messages (ps.map (apply n)) := by
  induction ps generalizing a messages with
  | nil => cases hps; exact .never messages
  | cons p ps ihps =>
    rw [List.forall_mem_cons] at ih
    cases hps with
    | choice_cons hp hps => exact (ih.1 _ hp).orElse fun l => ihps ih.2 hps (messages ++ l)

/-- What a name stands for, a step later. -/
theorem finds_recalled (hrules : Implements setting rules)
    (ih : ∀ k' < k, ∀ {g a}, Expresses g a → Finds rules k' a fun n => apply n g) {name : String}
    {g : Grammar} (hbody : body? setting g = setting.definition? name) :
    Finds rules k (.ref name) fun n => recalled setting (apply n) g := by
  intro s t w hw m hm o hd
  simp only [recalled, hbody]
  obtain ⟨hdef, hr⟩ | ⟨p, a, hdef, hr, hp⟩ := hrules.cases name
  · cases hd with
    | ref hname _ => rw [hr] at hname; cases hname
    | ref_fails => rw [hdef]; exact .here hw ⟨_, rfl⟩
  · cases hd with
    | ref hname ha =>
      rw [hr] at hname
      cases hname
      rw [hdef]
      exact (ih _ hm hp).deferred s t w hw _ le_rfl o ha
    | ref_fails hname => rw [hr] at hname; cases hname

end

/-- **What can be derived is what a grammar comes to**, without a limit. -/
theorem meaning_finds (hrules : Implements setting rules) (k : ℕ) {g : Grammar} {a : Peg}
    (hg : Expresses g a) : Finds rules k a fun n => meaning setting n g := by
  induction k using Nat.strong_induction_on generalizing g a with
  | _ k ihk =>
  induction g using children_induction generalizing a with
  | step g ih =>
  refine .of_succ ?_
  cases hg with
  | succeed v => exact .empty v
  | fail message => exact .never [message]
  | map f hp => exact (ih _ (by simp [children]) hp).map f
  | literal x => exact (Finds.text x).map _
  | anyChar => exact Finds.any.map _
  | endOfInput => exact Finds.finish.map _
  | lookAhead hp => exact (ih _ (by simp [children]) hp).lookAhead
  | notFollowedBy hp => exact (ih _ (by simp [children]) hp).notFollowedBy.map _
  | then_ hp hq =>
    exact (ih _ (by simp [children]) hp).andThen fun _ => ih _ (by simp [children]) hq
  | pair hp hq =>
    exact ((ih _ (by simp [children]) hp).andThen fun _ =>
      (ih _ (by simp [children]) hq).map _).map _
  | or hp hq => exact (ih _ (by simp [children]) hp).or (ih _ (by simp [children]) hq)
  | optional v hp => exact (ih _ (by simp [children]) hp).or (.empty v)
  | maybe hp => exact (ih _ (by simp [children]) hp).maybe.map _
  | many hp => exact ((ih _ (by simp [children]) hp).manyFrom []).map _
  | many1 hp =>
    have hq := ih _ (by simp [children]) hp
    exact (hq.andThen fun v => hq.manyFrom [v]).map _
  | rule name => exact finds_recalled hrules ihk rfl
  | fresh name => exact finds_recalled hrules ihk rfl
  | lazy hp => exact (ih _ (by simp [children]) hp).deferred
  | sequence_nil => exact (finds_sequence (fun p hp _ => ih p hp) .sequence_nil []).map _
  | sequence_cons hp hps =>
    exact (finds_sequence (fun p hp _ => ih p hp) (.sequence_cons hp hps) []).map _
  | choice_nil => exact finds_choice (fun p hp _ => ih p hp) .choice_nil []
  | choice_cons hp hps => exact finds_choice (fun p hp _ => ih p hp) (.choice_cons hp hps) []

end Grammar

end Descent
