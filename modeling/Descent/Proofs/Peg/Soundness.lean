import Descent.Proofs.Meaning
import Descent.Proofs.Peg

/-! What grammars recognize can be derived.

A grammar of plain combinators (`Recognizer`) expresses a parsing expression, and its
deferred parsers are the names of rules (`Expresses`). Whatever it replies, with whatever
fuel and under any limit, is what can be derived from that expression on the text that
remains, unless something was refused for its depth on the way (`meaning_truthful`). There
is one lemma for each way in which combinators go on after one another. -/
namespace Descent
open Descent.Parser

namespace Grammar

/-- A node that only recognizes, or defers. -/
def Recognizer : Grammar → Prop
  | .succeed _ | .fail _ | .map _ _ | .literal _ | .anyChar | .endOfInput => True
  | .then_ _ _ | .pair _ _ | .sequence _ => True
  | .or _ _ | .choice _ | .optional _ _ | .maybe _ | .many _ | .many1 _ => True
  | .lookAhead _ | .notFollowedBy _ | .rule _ | .fresh _ | .lazy _ => True
  | _ => False

/-- What a grammar of such nodes is as a parsing expression: values and messages do not
matter, nor whether something is deferred. -/
inductive Expresses : Grammar → Peg → Prop
  | succeed (v : Value) : Expresses (.succeed v) .empty
  | fail (message : String) : Expresses (.fail message) .never
  | map {p : Grammar} {a : Peg} (f : Value → Value) (hp : Expresses p a) : Expresses (.map f p) a
  | literal (x : Text) : Expresses (.literal x) (.text x)
  | anyChar : Expresses .anyChar .any
  | endOfInput : Expresses .endOfInput .finish
  | lookAhead {p : Grammar} {a : Peg} (hp : Expresses p a) : Expresses (.lookAhead p) (.ahead a)
  | notFollowedBy {p : Grammar} {a : Peg} (hp : Expresses p a) :
      Expresses (.notFollowedBy p) (.not a)
  | then_ {p q : Grammar} {a b : Peg} (hp : Expresses p a) (hq : Expresses q b) :
      Expresses (.then_ p q) (.seq a b)
  | pair {p q : Grammar} {a b : Peg} (hp : Expresses p a) (hq : Expresses q b) :
      Expresses (.pair p q) (.seq a b)
  | sequence_nil : Expresses (.sequence []) .empty
  | sequence_cons {p : Grammar} {ps : List Grammar} {a b : Peg} (hp : Expresses p a)
      (hps : Expresses (.sequence ps) b) : Expresses (.sequence (p :: ps)) (.seq a b)
  | or {p q : Grammar} {a b : Peg} (hp : Expresses p a) (hq : Expresses q b) :
      Expresses (.or p q) (.choice a b)
  | choice_nil : Expresses (.choice []) .never
  | choice_cons {p : Grammar} {ps : List Grammar} {a b : Peg} (hp : Expresses p a)
      (hps : Expresses (.choice ps) b) : Expresses (.choice (p :: ps)) (.choice a b)
  | optional {p : Grammar} {a : Peg} (v : Value) (hp : Expresses p a) :
      Expresses (.optional v p) (.optional a)
  | maybe {p : Grammar} {a : Peg} (hp : Expresses p a) : Expresses (.maybe p) (.optional a)
  | many {p : Grammar} {a : Peg} (hp : Expresses p a) : Expresses (.many p) (.star a)
  | many1 {p : Grammar} {a : Peg} (hp : Expresses p a) : Expresses (.many1 p) (.plus a)
  | rule (name : String) : Expresses (.rule name) (.ref name)
  | fresh (name : String) : Expresses (.fresh name) (.ref name)
  | lazy {p : Grammar} {a : Peg} (hp : Expresses p a) : Expresses (.lazy p) a

/-- The rules are what the definitions express. -/
def Implements (setting : Setting) (rules : String → Option Peg) : Prop :=
  ∀ name, Option.Rel Expresses (setting.definition? name) (rules name)

theorem Implements.cases {setting : Setting} {rules : String → Option Peg}
    (h : Implements setting rules) (name : String) :
    setting.definition? name = none ∧ rules name = none ∨
      ∃ p a, setting.definition? name = some p ∧ rules name = some a ∧ Expresses p a := by
  have hname := h name
  revert hname
  cases setting.definition? name <;> cases rules name <;> rintro ⟨⟩
  · exact .inl ⟨rfl, rfl⟩
  · next hp => exact .inr ⟨_, _, rfl, rfl, hp⟩

theorem Expresses.all {g : Grammar} {a : Peg} (h : Expresses g a) : All Recognizer g := by
  induction h with
  | sequence_cons _ _ ihp ihps | choice_cons _ _ ihp ihps =>
    rw [All.iff_children (by simp [Picks])] at ihps ⊢
    exact ⟨trivial, List.forall_mem_cons.mpr ⟨ihp, ihps.2⟩⟩
  | _ =>
    rw [All.iff_children (by simp [Picks])]
    simp_all [children, Recognizer]

/-- Every grammar of such nodes is a parsing expression. -/
theorem exists_expresses {g : Grammar} (h : All Recognizer g) : ∃ a, Expresses g a := by
  have hlist {node : List Grammar → Grammar} {a₀ : Peg} {join : Peg → Peg → Peg}
      (hnil : Expresses (node []) a₀)
      (hcons : ∀ {p ps a b}, Expresses p a → Expresses (node ps) b →
        Expresses (node (p :: ps)) (join a b))
      (ps : List Grammar) (hps : ∀ p ∈ ps, ∃ a, Expresses p a) : ∃ b, Expresses (node ps) b := by
    induction ps with
    | nil => exact ⟨_, hnil⟩
    | cons p ps ih =>
      obtain ⟨⟨a, ha⟩, hps⟩ := List.forall_mem_cons.mp hps
      obtain ⟨b, hb⟩ := ih hps
      exact ⟨_, hcons ha hb⟩
  induction h with
  | @node g here _ _ ih _ =>
    cases g with
    | succeed v => exact ⟨_, .succeed v⟩
    | fail message => exact ⟨_, .fail message⟩
    | literal x => exact ⟨_, .literal x⟩
    | anyChar => exact ⟨_, .anyChar⟩
    | endOfInput => exact ⟨_, .endOfInput⟩
    | rule name => exact ⟨_, .rule name⟩
    | fresh name => exact ⟨_, .fresh name⟩
    | sequence ps => exact hlist .sequence_nil .sequence_cons ps ih
    | choice ps => exact hlist .choice_nil .choice_cons ps ih
    | map f p => exact (ih p (by simp [children])).elim fun _ ha => ⟨_, .map f ha⟩
    | lookAhead p => exact (ih p (by simp [children])).elim fun _ ha => ⟨_, .lookAhead ha⟩
    | notFollowedBy p => exact (ih p (by simp [children])).elim fun _ ha => ⟨_, .notFollowedBy ha⟩
    | optional v p => exact (ih p (by simp [children])).elim fun _ ha => ⟨_, .optional v ha⟩
    | maybe p => exact (ih p (by simp [children])).elim fun _ ha => ⟨_, .maybe ha⟩
    | many p => exact (ih p (by simp [children])).elim fun _ ha => ⟨_, .many ha⟩
    | many1 p => exact (ih p (by simp [children])).elim fun _ ha => ⟨_, .many1 ha⟩
    | lazy p => exact (ih p (by simp [children])).elim fun _ ha => ⟨_, .lazy ha⟩
    | then_ p q =>
      obtain ⟨_, ha⟩ := ih p (by simp [children])
      exact (ih q (by simp [children])).elim fun _ hb => ⟨_, .then_ ha hb⟩
    | pair p q =>
      obtain ⟨_, ha⟩ := ih p (by simp [children])
      exact (ih q (by simp [children])).elim fun _ hb => ⟨_, .pair ha hb⟩
    | or p q =>
      obtain ⟨_, ha⟩ := ih p (by simp [children])
      exact (ih q (by simp [children])).elim fun _ hb => ⟨_, .or ha hb⟩
    | _ => exact here.elim

/-- So are rules whose definitions are. -/
theorem exists_implements {setting : Setting}
    (h : ∀ entry ∈ setting.rules, All Recognizer entry.2) : ∃ rules, Implements setting rules := by
  have hname (name : String) : ∃ a?, Option.Rel Expresses (setting.definition? name) a? := by
    cases hdef : setting.definition? name with
    | none => exact ⟨none, .none⟩
    | some p =>
      obtain ⟨a, ha⟩ := exists_expresses (all_definition? h hdef)
      exact ⟨some a, .some ha⟩
  choose rules hrules using hname
  exact ⟨rules, hrules⟩

end Grammar

/-! ### What replies say -/

namespace Peg
variable {α : Type}

/-- The reply to what began at the stream shows the effect. -/
def Effect.Shown (o : Effect) (t : Stream) (reply : Reply Value α) : Prop :=
  match o with
  | .consumed taken rest => (∃ v, reply.outcome = .ok v) ∧ reply.stream = t.past taken rest
  | .failed => ∃ l, reply.outcome = .error l

variable {o : Effect} {s : Value} {t u : Stream}

theorem Effect.shown_ok {v : α} : o.Shown t ⟨s, u, .ok v⟩ ↔
    ∃ taken rest, o = .consumed taken rest ∧ u = t.past taken rest := by
  cases o <;> simp [Effect.Shown]

theorem Effect.shown_error {l : List String} :
    o.Shown t (⟨s, u, .error l⟩ : Reply Value α) ↔ o = .failed := by
  cases o <;> simp [Effect.Shown]

theorem Effect.Shown.map {β : Type} {reply : Reply Value α} (h : o.Shown t reply) (f : α → β) :
    o.Shown t (reply.map f) := by
  obtain ⟨s, u, l | v⟩ := reply
  · exact shown_error.mpr (shown_error.mp h)
  · exact shown_ok.mpr (shown_ok.mp h)

/-- What is passed over after something else. -/
theorem Effect.Shown.after {x x' y y' : Text} {reply : Reply Value α}
    (h : (Effect.consumed x' y').Shown (t.past x y) reply) :
    (Effect.consumed (x ++ x') y').Shown t reply :=
  ⟨h.1, by simp [h.2, Stream.past, Nat.add_assoc]⟩

/-- A stream is where it was if nothing was passed over. -/
theorem past_beq {taken rest : Text} : t.past taken rest == t ↔ taken = [] := by
  simp [BEq.beq, Stream.past, Text.byteSize_eq_zero]

end Peg

/-! ### Soundness -/

open Peg

namespace Parser
variable {rules : String → Option Peg} {a b c : Peg} {α β : Type}

/-- What came of an application can be derived from the expression, unless the run has
tripped. -/
structure Answers (rules : String → Option Peg) (a : Peg) (t : Stream) (w : World Log)
    (reply : Reply Value α) (w' : World Log) : Prop where
  kept : w.ledger.Kept w'.ledger
  derives : w'.ledger.tripped = none → ∃ m o, Derives rules a t.rest m o ∧ o.Shown t reply

/-- In a run the parser answers as the expression does, and does not fault. -/
def Truthful (rules : String → Option Peg) (a : Peg) (p : Parser (World Log) Value α) : Prop :=
  ∀ s t w, w.ledger.inRun = true → (p s t w).Ends (Answers rules a t w) (fun _ => False) True

variable {t : Stream} {w w' : World Log} {s : Value} {u : Stream}

/-- An answer that is there. -/
theorem Answers.here {o : Effect} {m : ℕ} {reply : Reply Value α}
    (hd : Derives rules a t.rest m o) (ho : o.Shown t reply) : Answers rules a t w reply w :=
  ⟨.refl _, fun _ => ⟨m, o, hd, ho⟩⟩

/-- The answer of a step is the answer of the whole, if its effect is. -/
theorem Answers.of {reply' : Reply Value β} {reply : Reply Value α}
    (h : Answers rules a t w reply w')
    (hd : ∀ m o, Derives rules a t.rest m o → o.Shown t reply →
      ∃ m' o', Derives rules b t.rest m' o' ∧ o'.Shown t reply') : Answers rules b t w reply' w' :=
  ⟨h.kept, fun hclean => have ⟨m, o, hder, ho⟩ := h.derives hclean; hd m o hder ho⟩

/-- What goes on after a step answers for the whole, if the two effects make one. -/
theorem Answers.onward {reply : Reply Value β} {r : Result (World Log) (Reply Value α)}
    (h : Answers rules a t w reply w')
    (hr : r.Ends (Answers rules b u w') (fun _ => False) True)
    (hd : ∀ m o n o' (reply' : Reply Value α), Derives rules a t.rest m o → o.Shown t reply →
      Derives rules b u.rest n o' → o'.Shown u reply' →
      ∃ k e, Derives rules c t.rest k e ∧ e.Shown t reply') :
    r.Ends (Answers rules c t w) (fun _ => False) True := by
  refine hr.mono (fun reply' w'' h' => ⟨h.kept.trans h'.kept, fun hclean => ?_⟩) fun _ => id
  obtain ⟨m, o, hder, ho⟩ := h.derives (h'.kept.untripped hclean)
  obtain ⟨n, o', hder', ho'⟩ := h'.derives hclean
  exact hd m o n o' reply' hder ho hder' ho'

namespace Truthful

theorem empty (v : α) : Truthful rules .empty (succeed v) := fun _ _ _ _ =>
  .here .empty ⟨⟨v, rfl⟩, rfl⟩

theorem never (messages : List String) :
    Truthful rules .never fun s t => (reject s t messages : _ → Result _ (Reply _ α)) :=
  fun _ _ _ _ => .here (.not_fails .empty) ⟨messages, rfl⟩

theorem text (x : Text) : Truthful rules (.text x) (literal x) := fun s t w _ => by
  unfold literal
  split
  · next rest h => exact .here (.text (Text.eq_append_of_after? h)) ⟨⟨x, rfl⟩, rfl⟩
  · next h =>
    refine .here (.text_fails ?_) ⟨_, rfl⟩
    rintro ⟨rest, hrest⟩
    rw [← hrest, Text.after?_append] at h
    cases h

theorem any : Truthful rules .any anyChar := fun s t w _ => by
  unfold anyChar
  split
  · next c rest h =>
    have hd : Derives rules .any t.rest 1 (.consumed [c] rest) := h ▸ .any
    exact .here hd ⟨⟨c, rfl⟩, by simp [Stream.past]⟩
  · next h =>
    have hd : Derives rules .any t.rest 1 .failed := h ▸ .any_fails
    exact .here hd ⟨_, rfl⟩

theorem finish : Truthful rules .finish endOfInput := fun s t w _ => by
  unfold endOfInput
  split
  · next h =>
    have hd : Derives rules .any t.rest 1 .failed := List.isEmpty_iff.mp h ▸ .any_fails
    exact .here hd.not ⟨⟨(), rfl⟩, rfl⟩
  · next h =>
    obtain ⟨c, rest, hrest⟩ := List.exists_cons_of_ne_nil fun hnil => h (List.isEmpty_iff.mpr hnil)
    have hd : Derives rules .any t.rest 1 (.consumed [c] rest) := hrest ▸ .any
    exact .here hd.not_fails ⟨_, rfl⟩

theorem map {p : Parser (World Log) Value α} (hp : Truthful rules a p) (f : α → β) :
    Truthful rules a (map f p) := fun s t w hw =>
  (hp s t w hw).next fun _ _ h => h.of fun m o hd ho => ⟨m, o, hd, ho.map f⟩

/-- One after another. -/
theorem andThen {p : Parser (World Log) Value α} {k : α → Parser (World Log) Value β}
    (hp : Truthful rules a p) (hk : ∀ v, Truthful rules b (k v)) :
    Truthful rules (.seq a b) fun s t w => andThen (p s t w) k := fun s t w hw => by
  refine (hp s t w hw).next fun reply w₁ h₁ => ?_
  obtain ⟨s', u, l | v⟩ := reply
  · exact h₁.of fun m o hd ho =>
      ⟨_, _, .seq_fails_first (Effect.shown_error.mp ho ▸ hd), l, rfl⟩
  · have hsecond := hk v s' u w₁ (h₁.kept.inRun.trans hw)
    refine h₁.onward hsecond fun m o n o' reply' hd ho hd' ho' => ?_
    obtain ⟨x, y, rfl, rfl⟩ := Effect.shown_ok.mp ho
    cases o' with
    | consumed x' y' => exact ⟨_, _, .seq hd hd', ho'.after⟩
    | failed => exact ⟨_, _, .seq_fails_second hd hd', ho'⟩

/-- One or, where it fails, another. -/
theorem orElse {p : Parser (World Log) Value α} {k : List String → Parser (World Log) Value α}
    (hp : Truthful rules a p) (hk : ∀ l, Truthful rules b (k l)) :
    Truthful rules (.choice a b) fun s t w => orElse (p s t w) fun l w => k l s t w :=
  fun s t w hw => by
  refine (hp s t w hw).next fun reply w₁ h₁ => ?_
  obtain ⟨s', u, l | v⟩ := reply
  · have hother := hk l s t w₁ (h₁.kept.inRun.trans hw)
    refine h₁.onward hother fun m o n o' reply' hd ho hd' ho' => ?_
    obtain rfl := Effect.shown_error.mp ho
    exact ⟨_, o', .choice_second hd hd', ho'⟩
  · refine h₁.of fun m o hd ho => ?_
    obtain ⟨x, y, rfl, hu⟩ := Effect.shown_ok.mp ho
    exact ⟨_, _, .choice_first hd, ⟨v, rfl⟩, hu⟩

/-- A failure may be told otherwise, and elsewhere. -/
theorem reworded {p : Parser (World Log) Value α} (hp : Truthful rules a p)
    (f : List String → List String) :
    Truthful rules a fun s t w => Parser.orElse (p s t w) fun l w => reject s t (f l) w :=
  fun s t w hw => (hp s t w hw).next fun reply w₁ h₁ => by
    obtain ⟨s', u, l | v⟩ := reply
    · exact h₁.of fun m o hd ho => ⟨m, o, hd, Effect.shown_error.mpr (Effect.shown_error.mp ho)⟩
    · exact h₁

theorem or {p q : Parser (World Log) Value α} (hp : Truthful rules a p) (hq : Truthful rules b q) :
    Truthful rules (.choice a b) (or p q) := hp.orElse fun l => hq.reworded (l ++ ·)

theorem maybe {p : Parser (World Log) Value α} (hp : Truthful rules a p) :
    Truthful rules (.optional a) (maybe p) := fun s t w hw =>
  (hp s t w hw).next fun reply w₁ h₁ => by
    obtain ⟨s', u, l | v⟩ := reply
    · exact h₁.of fun m o hd ho => ⟨_, .consumed [] t.rest,
        .choice_second (Effect.shown_error.mp ho ▸ hd) .empty, ⟨none, rfl⟩, rfl⟩
    · refine h₁.of fun m o hd ho => ?_
      obtain ⟨x, y, rfl, hu⟩ := Effect.shown_ok.mp ho
      exact ⟨_, _, .choice_first hd, ⟨some v, rfl⟩, hu⟩

theorem lookAhead {p : Parser (World Log) Value α} (hp : Truthful rules a p) :
    Truthful rules (.ahead a) (lookAhead p) := fun s t w hw =>
  (hp s t w hw).next fun reply w₁ h₁ => by
    obtain ⟨s', u, l | v⟩ := reply
    · exact h₁.of fun m o hd ho => ⟨_, _, .ahead_fails (Effect.shown_error.mp ho ▸ hd), l, rfl⟩
    · refine h₁.of fun m o hd ho => ?_
      obtain ⟨x, y, rfl, _⟩ := Effect.shown_ok.mp ho
      exact ⟨_, _, .ahead hd, ⟨v, rfl⟩, rfl⟩

theorem notFollowedBy {p : Parser (World Log) Value α} (hp : Truthful rules a p) :
    Truthful rules (.not a) (notFollowedBy p) := fun s t w hw =>
  (hp s t w hw).next fun reply w₁ h₁ => by
    obtain ⟨s', u, l | v⟩ := reply
    · exact h₁.of fun m o hd ho =>
        ⟨_, _, .not (Effect.shown_error.mp ho ▸ hd), ⟨(), rfl⟩, rfl⟩
    · refine h₁.of fun m o hd ho => ?_
      obtain ⟨x, y, rfl, _⟩ := Effect.shown_ok.mp ho
      exact ⟨_, _, .not_fails hd, _, rfl⟩

/-- As often as it goes. -/
theorem manyFrom {p : Parser (World Log) Value α} (hp : Truthful rules a p) (found : List α)
    (rounds : ℕ) : Truthful rules (.star a) (manyFrom p found rounds) := by
  induction rounds generalizing found with
  | zero => exact fun _ _ _ _ => trivial
  | succ rounds ih =>
    intro s t w hw
    refine (hp s t w hw).next fun reply w₁ h₁ => ?_
    obtain ⟨s', u, l | v⟩ := reply
    · exact h₁.of fun m o hd ho =>
        ⟨_, _, .star_ends (Effect.shown_error.mp ho ▸ hd), ⟨found.reverse, rfl⟩, rfl⟩
    · by_cases hstay : (u == t) = true
      · simp only [if_pos hstay]
        refine h₁.of fun m o hd ho => ?_
        obtain ⟨x, y, rfl, rfl⟩ := Effect.shown_ok.mp ho
        obtain rfl := past_beq.mp hstay
        exact ⟨_, _, .star_stays hd, ⟨found.reverse, rfl⟩, rfl⟩
      · simp only [if_neg hstay]
        have hmore := ih (v :: found) s' u w₁ (h₁.kept.inRun.trans hw)
        refine h₁.onward hmore fun m o n o' reply' hd ho hd' ho' => ?_
        obtain ⟨x, y, rfl, rfl⟩ := Effect.shown_ok.mp ho
        have hx : x ≠ [] := mt past_beq.mpr hstay
        cases o' with
        | consumed x' y' => exact ⟨_, _, .star_moves hd hx hd', ho'.after⟩
        | failed => cases hd'

/-- What is deferred, where it is not refused. -/
theorem deferred {p : Parser (World Log) Value α} (hp : Truthful rules a p) :
    Truthful rules a (deferred (noted p)) := fun s t w hw => by
  cases htripped : w.ledger.tripped with
  | some e =>
    rw [deferred_tripped _ s t htripped]
    exact ⟨.refl _, fun hclean => by rw [htripped] at hclean; cases hclean⟩
  | none =>
    cases hover : w.ledger.enter.overLimit with
    | true =>
      rw [deferred_over _ s t htripped hover]
      refine ⟨.refuse htripped hover t.offset, fun hclean => ?_⟩
      simp [World.mapLedger, Ledger.trip, Ledger.enter, Ledger.leave, hw] at hclean
    | false =>
      rw [deferred_under _ s t htripped hover]
      have hinside := hp s t ⟨w.ledger.enter, w.heap ++ [⟨t.offset, w.ledger.depth + 1⟩]⟩ hw
      exact hinside.settle (fun _ _ h => ⟨h.kept.leave, h.derives⟩) fun _ => id

end Truthful

end Parser

/-! ### Grammars -/

namespace Grammar
variable {setting : Setting} {rules : String → Option Peg}

section
variable {apply : Grammar → Parser (World Log) Value Value}
variable (ih : ∀ {g a}, Expresses g a → Truthful rules a (apply g))
include ih

theorem truthful_sequence {ps : List Grammar} {a : Peg} (hps : Expresses (.sequence ps) a)
    (found : List Value) : Truthful rules a (sequenceFrom found (ps.map apply)) := by
  induction ps generalizing a found with
  | nil => cases hps; exact .empty found.reverse
  | cons p ps ihps =>
    cases hps with
    | sequence_cons hp hps => exact (ih hp).andThen fun v => ihps hps (v :: found)

theorem truthful_choice {ps : List Grammar} {a : Peg} (hps : Expresses (.choice ps) a)
    (messages : List String) : Truthful rules a (choiceFrom messages (ps.map apply)) := by
  induction ps generalizing a messages with
  | nil => cases hps; exact .never messages
  | cons p ps ihps =>
    cases hps with
    | choice_cons hp hps => exact (ih hp).orElse fun l => ihps hps (messages ++ l)

/-- What a name stands for. -/
theorem truthful_recalled (hrules : Implements setting rules) {name : String} {g : Grammar}
    (hbody : body? setting g = setting.definition? name) :
    Truthful rules (.ref name) (recalled setting apply g) := by
  unfold recalled
  rw [hbody]
  obtain ⟨hdef, hr⟩ | ⟨p, a, hdef, hr, hp⟩ := hrules.cases name
  · rw [hdef]
    exact fun s t w _ => .here (.ref_fails hr) ⟨_, rfl⟩
  · rw [hdef]
    intro s t w hw
    exact ((ih hp).deferred s t w hw).mono
      (fun _ _ h => h.of fun m o hd ho => ⟨_, o, .ref hr hd, ho⟩) fun _ => id

end

/-- **What a grammar replies can be derived**, in a run that has not tripped. -/
theorem meaning_truthful (hrules : Implements setting rules) (n : ℕ) {g : Grammar} {a : Peg}
    (hg : Expresses g a) : Truthful rules a (meaning setting n g) := by
  induction n generalizing g a with
  | zero => exact fun _ _ _ _ => trivial
  | succ n ih =>
    cases hg with
    | succeed v => exact .empty v
    | fail message => exact .never [message]
    | map f hp => exact (ih hp).map f
    | literal x => exact (Truthful.text x).map _
    | anyChar => exact Truthful.any.map _
    | endOfInput => exact Truthful.finish.map _
    | lookAhead hp => exact (ih hp).lookAhead
    | notFollowedBy hp => exact (ih hp).notFollowedBy.map _
    | then_ hp hq => exact (ih hp).andThen fun _ => ih hq
    | pair hp hq => exact ((ih hp).andThen fun _ => (ih hq).map _).map _
    | or hp hq => exact (ih hp).or (ih hq)
    | optional v hp => exact (ih hp).or (.empty v)
    | maybe hp => exact (ih hp).maybe.map _
    | many hp => exact ((ih hp).manyFrom [] n).map _
    | many1 hp => exact ((ih hp).andThen fun v => (ih hp).manyFrom [v] n).map _
    | rule name => exact truthful_recalled ih hrules rfl
    | fresh name => exact truthful_recalled ih hrules rfl
    | lazy hp => exact (ih hp).deferred
    | sequence_nil => exact (truthful_sequence ih .sequence_nil []).map _
    | sequence_cons hp hps => exact (truthful_sequence ih (.sequence_cons hp hps) []).map _
    | choice_nil => exact truthful_choice ih .choice_nil []
    | choice_cons hp hps => exact truthful_choice ih (.choice_cons hp hps) []

end Grammar

end Descent
