import Mathlib.Data.List.Forall2
import Descent.Grammar.Basic

/-! The shape of a grammar.

A grammar has `children`, which are built with it (or deferred by it), and `Picks`,
which are chosen by a value or a state. A property of all of its nodes (`All`) is one
of the children and picks too. `Like` compares two grammars node by node: the same
constructor with the same values, over children and picks that are related. It leaves
out the nodes that are about recursion, where two machines are free to differ. -/
namespace Descent.Grammar

/-- The grammars directly inside, except what is chosen. -/
def children : Grammar → List Grammar
  | .map _ p | .mapMessages _ p | .bind p _ | .lookAhead p | .notFollowedBy p | .recognize p
  | .count _ p | .optional _ p | .maybe p | .label _ p | .many p | .many1 p | .skip p
  | .skipMany p | .skipMany1 p | .lazy p | .probe p _ | .nestedRun _ p => [p]
  | .then_ p q | .skipRight p q | .pair p q | .ap p q | .or p q | .manyTill p q | .sepBy p q
  | .sepBy1 p q | .sepEndBy p q | .sepEndBy1 p q | .chainLeft p q _ | .chainRight p q _ => [p, q]
  | .between p q r => [p, q, r]
  | .sequence ps | .choice ps => ps
  | _ => []

/-- The same node over other children, as many as it has. -/
def rebuild : Grammar → List Grammar → Grammar
  | .map f _, [p] => .map f p
  | .mapMessages f _, [p] => .mapMessages f p
  | .bind _ next, [p] => .bind p next
  | .lookAhead _, [p] => .lookAhead p
  | .notFollowedBy _, [p] => .notFollowedBy p
  | .recognize _, [p] => .recognize p
  | .count n _, [p] => .count n p
  | .optional default _, [p] => .optional default p
  | .maybe _, [p] => .maybe p
  | .label name _, [p] => .label name p
  | .many _, [p] => .many p
  | .many1 _, [p] => .many1 p
  | .skip _, [p] => .skip p
  | .skipMany _, [p] => .skipMany p
  | .skipMany1 _, [p] => .skipMany1 p
  | .nestedRun config _, [p] => .nestedRun config p
  | .then_ _ _, [p, q] => .then_ p q
  | .skipRight _ _, [p, q] => .skipRight p q
  | .pair _ _, [p, q] => .pair p q
  | .ap _ _, [p, q] => .ap p q
  | .or _ _, [p, q] => .or p q
  | .manyTill _ _, [p, q] => .manyTill p q
  | .sepBy _ _, [p, q] => .sepBy p q
  | .sepBy1 _ _, [p, q] => .sepBy1 p q
  | .sepEndBy _ _, [p, q] => .sepEndBy p q
  | .sepEndBy1 _ _, [p, q] => .sepEndBy1 p q
  | .chainLeft _ _ combine, [p, q] => .chainLeft p q combine
  | .chainRight _ _ combine, [p, q] => .chainRight p q combine
  | .between _ _ _, [p, q, r] => .between p q r
  | .sequence _, ps => .sequence ps
  | .choice _, ps => .choice ps
  | g, _ => g

theorem sizeOf_child {g p : Grammar} (h : p ∈ g.children) : sizeOf p < sizeOf g := by
  cases g <;> simp only [children, List.mem_cons, List.not_mem_nil, or_false] at h
  case sequence ps => have := List.sizeOf_lt_of_mem h; simp only [sequence.sizeOf_spec]; omega
  case choice ps => have := List.sizeOf_lt_of_mem h; simp only [choice.sizeOf_spec]; omega
  all_goals grind

/-- What passes from the children to the grammar holds of all grammars. -/
theorem children_induction {P : Grammar → Prop} (step : ∀ g, (∀ p ∈ g.children, P p) → P g)
    (g : Grammar) : P g :=
  step g fun p _ => children_induction step p
termination_by sizeOf g
decreasing_by exact sizeOf_child ‹_›

/-- What is chosen by a value or by the state. -/
def Picks : Grammar → Grammar → Prop
  | .bind _ next, q | .readState next, q => ∃ v, q = next v
  | _, _ => False

/-- Every node of the grammar is such. -/
inductive All (ok : Grammar → Prop) : Grammar → Prop
  | node {g : Grammar} (here : ok g) (children : ∀ p ∈ g.children, All ok p)
      (picks : ∀ p, g.Picks p → All ok p) : All ok g

namespace All
variable {ok : Grammar → Prop} {g p : Grammar}

theorem here (h : All ok g) : ok g := by cases h; assumption

theorem child (h : All ok g) (hp : p ∈ g.children) : All ok p := by
  cases h with | node _ hchildren _ => exact hchildren p hp

theorem pick (h : All ok g) (hp : g.Picks p) : All ok p := by
  cases h with | node _ _ hpicks => exact hpicks p hp

/-- Where nothing is chosen the children are all that there is. -/
theorem iff_children (hpicks : ¬∃ p, g.Picks p) : All ok g ↔ ok g ∧ ∀ p ∈ g.children, All ok p :=
  ⟨fun h => ⟨h.here, fun _ => h.child⟩, fun h => .node h.1 h.2 fun p hp => (hpicks ⟨p, hp⟩).elim⟩

theorem mono {ok₂ : Grammar → Prop} (h : All ok g) (hok : ∀ g, ok g → ok₂ g) : All ok₂ g := by
  induction h with
  | node here _ _ hchildren hpicks => exact .node (hok _ here) hchildren hpicks

/-- What may be known of all nodes besides. -/
theorem and_imp {ok₂ : Grammar → Prop} {P : Prop} (h : All ok g) (h₂ : P → All ok₂ g) :
    All (fun g => ok g ∧ (P → ok₂ g)) g := by
  induction h with
  | node here _ _ hchildren hpicks =>
    exact .node ⟨here, fun p => (h₂ p).here⟩ (fun q hq => hchildren q hq fun p => (h₂ p).child hq)
      fun q hq => hpicks q hq fun p => (h₂ p).pick hq

end All

/-- What is true of the right ones belongs to the relation. -/
theorem forall₂_and_mem {R : Grammar → Grammar → Prop} {P : Grammar → Prop}
    {ps qs : List Grammar} (h : List.Forall₂ R ps qs) (hP : ∀ q ∈ qs, P q) :
    List.Forall₂ (fun p q => R p q ∧ P q) ps qs := by
  induction h with
  | nil => exact .nil
  | cons hpq _ ih =>
    exact .cons ⟨hpq, hP _ List.mem_cons_self⟩ (ih fun q hq => hP q (List.mem_cons_of_mem _ hq))

/-- Every left one is related to one. -/
theorem forall₂_partner {R : Grammar → Grammar → Prop} {ps qs : List Grammar}
    (h : List.Forall₂ R ps qs) {p : Grammar} (hp : p ∈ ps) : ∃ q, R p q := by
  induction h with
  | nil => cases hp
  | cons hR _ ih =>
    obtain rfl | hp := List.mem_cons.mp hp
    · exact ⟨_, hR⟩
    · exact ih hp

/-- The node is about recursion. -/
def Recursive : Grammar → Prop
  | .rule _ | .fresh _ | .lazy _ | .cell _ | .probe _ _ => True
  | _ => False

/-- The same node over related children (`R`) and picks (`N`). -/
inductive Like (R N : Grammar → Grammar → Prop) : Grammar → Grammar → Prop
  | succeed (v : Value) : Like R N (.succeed v) (.succeed v)
  | fail (message : String) : Like R N (.fail message) (.fail message)
  | map (f : Value → Value) {p p'} : R p p' → Like R N (.map f p) (.map f p')
  | mapMessages (f : List String → List String) {p p'} : R p p' →
      Like R N (.mapMessages f p) (.mapMessages f p')
  | bind {p p'} {next next' : Value → Grammar} : R p p' → (∀ v, N (next v) (next' v)) →
      Like R N (.bind p next) (.bind p' next')
  | literal (text : Text) : Like R N (.literal text) (.literal text)
  | pattern (pat : Regex.Pattern) : Like R N (.pattern pat) (.pattern pat)
  | takeWhile (keep : Char → Bool) : Like R N (.takeWhile keep) (.takeWhile keep)
  | anyChar : Like R N .anyChar .anyChar
  | endOfInput : Like R N .endOfInput .endOfInput
  | position : Like R N .position .position
  | lookAhead {p p'} : R p p' → Like R N (.lookAhead p) (.lookAhead p')
  | notFollowedBy {p p'} : R p p' → Like R N (.notFollowedBy p) (.notFollowedBy p')
  | recognize {p p'} : R p p' → Like R N (.recognize p) (.recognize p')
  | take (n : Nat) : Like R N (.take n) (.take n)
  | advance (n : Nat) : Like R N (.advance n) (.advance n)
  | rewind : Like R N .rewind .rewind
  | then_ {p p' q q'} : R p p' → R q q' → Like R N (.then_ p q) (.then_ p' q')
  | skipRight {p p' q q'} : R p p' → R q q' → Like R N (.skipRight p q) (.skipRight p' q')
  | pair {p p' q q'} : R p p' → R q q' → Like R N (.pair p q) (.pair p' q')
  | ap {p p' q q'} : R p p' → R q q' → Like R N (.ap p q) (.ap p' q')
  | between {o o' c c' p p'} : R o o' → R c c' → R p p' →
      Like R N (.between o c p) (.between o' c' p')
  | sequence {ps ps'} : List.Forall₂ R ps ps' → Like R N (.sequence ps) (.sequence ps')
  | count (n : Nat) {p p'} : R p p' → Like R N (.count n p) (.count n p')
  | or {p p' q q'} : R p p' → R q q' → Like R N (.or p q) (.or p' q')
  | choice {ps ps'} : List.Forall₂ R ps ps' → Like R N (.choice ps) (.choice ps')
  | optional (default : Value) {p p'} : R p p' → Like R N (.optional default p) (.optional default p')
  | maybe {p p'} : R p p' → Like R N (.maybe p) (.maybe p')
  | label (name : String) {p p'} : R p p' → Like R N (.label name p) (.label name p')
  | many {p p'} : R p p' → Like R N (.many p) (.many p')
  | many1 {p p'} : R p p' → Like R N (.many1 p) (.many1 p')
  | manyTill {p p' e e'} : R p p' → R e e' → Like R N (.manyTill p e) (.manyTill p' e')
  | sepBy {s s' p p'} : R s s' → R p p' → Like R N (.sepBy s p) (.sepBy s' p')
  | sepBy1 {s s' p p'} : R s s' → R p p' → Like R N (.sepBy1 s p) (.sepBy1 s' p')
  | sepEndBy {s s' p p'} : R s s' → R p p' → Like R N (.sepEndBy s p) (.sepEndBy s' p')
  | sepEndBy1 {s s' p p'} : R s s' → R p p' → Like R N (.sepEndBy1 s p) (.sepEndBy1 s' p')
  | skip {p p'} : R p p' → Like R N (.skip p) (.skip p')
  | skipMany {p p'} : R p p' → Like R N (.skipMany p) (.skipMany p')
  | skipMany1 {p p'} : R p p' → Like R N (.skipMany1 p) (.skipMany1 p')
  | chainLeft {o o' p p'} (combine : Value → Value → Value → Value) : R o o' → R p p' →
      Like R N (.chainLeft o p combine) (.chainLeft o' p' combine)
  | chainRight {o o' p p'} (combine : Value → Value → Value → Value) : R o o' → R p p' →
      Like R N (.chainRight o p combine) (.chainRight o' p' combine)
  | getState : Like R N .getState .getState
  | replaceState (state : Value) : Like R N (.replaceState state) (.replaceState state)
  | transformState (f : Value → Value) : Like R N (.transformState f) (.transformState f)
  | readState {next next' : Value → Grammar} : (∀ v, N (next v) (next' v)) →
      Like R N (.readState next) (.readState next')
  | nestedRun (config : Config) {p p'} : R p p' → Like R N (.nestedRun config p) (.nestedRun config p')

namespace Like
variable {R N R₂ N₂ : Grammar → Grammar → Prop} {g g' : Grammar}

theorem children (h : Like R N g g') : List.Forall₂ R g.children g'.children := by
  cases h with
  | sequence h => exact h
  | choice h => exact h
  | _ => simp_all [Grammar.children]

theorem flip (h : Like R N g g') : Like (fun p q => R q p) (fun p q => N q p) g' g := by
  cases h with
  | sequence h => exact .sequence h.flip
  | choice h => exact .choice h.flip
  | bind h hnext => exact .bind h hnext
  | readState hnext => exact .readState hnext
  | _ => constructor <;> assumption

theorem not_recursive (h : Like R N g g') : ¬g.Recursive ∧ ¬g'.Recursive := by
  cases h <;> exact ⟨id, id⟩

/-- Over other children, as many as there are, nodes that are alike are alike. -/
theorem rebuild_both (h : Like R N g g') {ps ps' : List Grammar} (hps : List.Forall₂ R₂ ps ps')
    (hlength : ps.length = g.children.length) : Like R₂ N (g.rebuild ps) (g'.rebuild ps') := by
  cases h with
  | sequence => exact .sequence hps
  | choice => exact .choice hps
  | _ =>
    rcases hps with _ | ⟨_, _ | ⟨_, _ | ⟨_, _ | _⟩⟩⟩ <;>
      first
        | simp [Grammar.children] at hlength; done
        | constructor <;> assumption

/-- A grammar is like itself, if its parts are related to themselves. -/
theorem refl (g : Grammar) (hg : ¬g.Recursive) (hR : ∀ p ∈ g.children, R p p)
    (hN : ∀ p, g.Picks p → N p p) : Like R N g g := by
  cases g <;> simp only [Recursive, not_true_eq_false] at hg
  case sequence ps => exact .sequence (List.forall₂_same.mpr hR)
  case choice ps => exact .choice (List.forall₂_same.mpr hR)
  case bind p next => exact .bind (hR p (List.mem_singleton_self p)) fun v => hN _ ⟨v, rfl⟩
  case readState next => exact .readState fun v => hN _ ⟨v, rfl⟩
  all_goals constructor <;> apply hR <;> simp [Grammar.children]

/-- A node over other children, related to its own, is like it. -/
theorem rebuild (g : Grammar) (hg : ¬g.Recursive) {ps : List Grammar}
    (hR : List.Forall₂ R ps g.children) (hN : ∀ p, g.Picks p → N p p) :
    Like R N (g.rebuild ps) g := by
  have hself : g.rebuild g.children = g := by cases g <;> rfl
  have hlike : Like (fun _ _ => True) N g g := .refl g hg (fun _ _ => trivial) hN
  simpa only [hself] using hlike.rebuild_both hR hR.length_eq

/-- What is like something is like itself. -/
theorem self (h : Like R N g g') :
    Like (fun p q => p = q ∧ ∃ p', R p p') (fun p q => p = q ∧ ∃ p', N p p') g g := by
  have hall {ps ps' : List Grammar} (hps : List.Forall₂ R ps ps') :
      List.Forall₂ (fun p q => p = q ∧ ∃ p', R p p') ps ps := by
    induction hps with
    | nil => exact .nil
    | cons hp _ ih => exact .cons ⟨rfl, _, hp⟩ ih
  cases h with
  | sequence h => exact .sequence (hall h)
  | choice h => exact .choice (hall h)
  | bind h hnext => exact .bind ⟨rfl, _, h⟩ fun v => ⟨rfl, _, hnext v⟩
  | readState hnext => exact .readState fun v => ⟨rfl, _, hnext v⟩
  | _ => constructor <;> exact ⟨rfl, _, ‹_›⟩

/-- Parts that are related otherwise too. -/
theorem mono (h : Like R N g g') (hR : ∀ p p', R p p' → R₂ p p') (hN : ∀ p p', N p p' → N₂ p p') :
    Like R₂ N₂ g g' := by
  cases h with
  | sequence h => exact .sequence (h.imp hR)
  | choice h => exact .choice (h.imp hR)
  | bind h hnext => exact .bind (hR _ _ h) fun v => hN _ _ (hnext v)
  | readState hnext => exact .readState fun v => hN _ _ (hnext v)
  | _ => constructor <;> apply hR <;> assumption

end Like

end Descent.Grammar
