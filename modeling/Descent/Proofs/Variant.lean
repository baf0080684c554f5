import Descent.Proofs.Build
import Descent.Proofs.Cells

/-! Variants of a grammar.

A `Variant` of a grammar is the same grammar, node by node and also in what is chosen on
the way, except for diagnostics: if it may be `reworded`, then labels and changes of
messages may be missing or added at any places. All other nodes are `ok`, which is how one
says what grammars are talked about, before and after they are built. Settings are
variants rule by rule, and heaps are `Pairs` cell by cell. -/
namespace Descent
open Descent.Grammar

namespace Grammar
variable {R : Grammar → Grammar → Prop} {g g' p p' : Grammar}

/-! ### Nodes that are akin -/

/-- The same node over related parts, also if it is about recursion. -/
inductive Akin (R : Grammar → Grammar → Prop) : Grammar → Grammar → Prop
  | node {g g' : Grammar} (h : Like R R g g') : Akin R g g'
  | rule (name : String) : Akin R (.rule name) (.rule name)
  | fresh (name : String) : Akin R (.fresh name) (.fresh name)
  | lazy {p p' : Grammar} (h : R p p') : Akin R (.lazy p) (.lazy p')
  | cell (id : ℕ) : Akin R (.cell id) (.cell id)
  | probe {p p' : Grammar} (h : R p p') (text : Text) : Akin R (.probe p text) (.probe p' text)

namespace Akin

theorem flip (h : Akin R g g') : Akin (fun p q => R q p) g' g := by
  cases h with
  | node h => exact .node h.flip
  | rule name => exact .rule name
  | fresh name => exact .fresh name
  | lazy h => exact .lazy (R := fun p q => R q p) h
  | cell id => exact .cell id
  | probe h text => exact .probe (R := fun p q => R q p) h text

/-- A grammar is akin to itself, over its own parts. -/
theorem refl (g : Grammar) : Akin (fun p q => p = q ∧ (p ∈ g.children ∨ g.Picks p)) g g := by
  by_cases hg : g.Recursive
  · cases g with
    | rule name => exact .rule name
    | fresh name => exact .fresh name
    | lazy p => exact .lazy ⟨rfl, .inl (List.mem_singleton_self p)⟩
    | cell id => exact .cell id
    | probe p text => exact .probe ⟨rfl, .inl (List.mem_singleton_self p)⟩ text
    | _ => exact hg.elim
  · exact .node (.refl g hg (fun _ hp => ⟨rfl, .inl hp⟩) fun _ hp => ⟨rfl, .inr hp⟩)

/-- Over equal parts there is one node. -/
theorem eq (h : Akin R g g') (hR : ∀ p p', R p p' → p = p') : g = g' := by
  cases h with
  | node h =>
    have hlike : Like (· = ·) (· = ·) g g' := h.mono hR hR
    cases hlike with
    | sequence hps => rw [List.forall₂_eq_eq_eq] at hps; rw [hps]
    | choice hps => rw [List.forall₂_eq_eq_eq] at hps; rw [hps]
    | bind hp hnext => rw [hp, funext hnext]
    | readState hnext => rw [funext hnext]
    | _ => simp_all only
  | lazy h => rw [hR _ _ h]
  | probe h text => rw [hR _ _ h]
  | _ => rfl

/-- Every part has one that is related to it. -/
theorem part (h : Akin R g g') (hp : p ∈ g.children ∨ g.Picks p) : ∃ p', R p p' := by
  cases h with
  | node h =>
    obtain hp | hp := hp
    · exact forall₂_partner h.children hp
    · cases h with
      | bind _ hnext => obtain ⟨v, rfl⟩ := hp; exact ⟨_, hnext v⟩
      | readState hnext => obtain ⟨v, rfl⟩ := hp; exact ⟨_, hnext v⟩
      | _ => exact hp.elim
  | lazy h =>
    obtain hp | hp := hp
    · exact List.mem_singleton.mp hp ▸ ⟨_, h⟩
    · exact hp.elim
  | probe h text =>
    obtain hp | hp := hp
    · exact List.mem_singleton.mp hp ▸ ⟨_, h⟩
    · exact hp.elim
  | _ => simp [children, Picks] at hp

end Akin

/-! ### Variants -/

/-- A node that is `p` but for the messages of its failures. -/
inductive Rewords (p : Grammar) : Grammar → Prop
  | label (name : String) : Rewords p (.label name p)
  | mapMessages (f : List String → List String) : Rewords p (.mapMessages f p)

/-- The same grammar of `ok` nodes, where if it is `reworded` each of the two may change
messages at places where the other one does not. -/
inductive Variant (ok : Grammar → Prop) (reworded : Prop) : Grammar → Grammar → Prop
  | akin {R : Grammar → Grammar → Prop} {g g' : Grammar} (h : Akin R g g')
      (parts : ∀ p p', R p p' → Variant ok reworded p p') (here : ok g) (here' : ok g') :
      Variant ok reworded g g'
  | left (hreworded : reworded) {g p g' : Grammar} (hg : Rewords p g)
      (h : Variant ok reworded p g') : Variant ok reworded g g'
  | right (hreworded : reworded) {g g' p' : Grammar} (hg : Rewords p' g')
      (h : Variant ok reworded g p') : Variant ok reworded g g'

/-- What is said of nodes does not depend on their parts, and is true of what is left when
a grammar is built. -/
structure Stable (ok : Grammar → Prop) : Prop where
  like : ∀ {R N : Grammar → Grammar → Prop} {g g'}, Like R N g g' → ok g' → ok g
  cell : ∀ id, ok (.cell id)
  fail : ∀ message, ok (.fail message)
  succeed : ∀ v, ok (.succeed v)

namespace Variant
variable {ok : Grammar → Prop} {reworded : Prop}

theorem refl (h : All ok g) : Variant ok reworded g g := by
  induction h with
  | node here _ _ hchildren hpicks =>
    refine .akin (.refl _) ?_ here here
    rintro p _ ⟨rfl, hp | hp⟩
    · exact hchildren p hp
    · exact hpicks p hp

theorem symm (h : Variant ok reworded g g') : Variant ok reworded g' g := by
  induction h with
  | akin h _ here here' ih => exact .akin h.flip (fun p p' => ih p' p) here' here
  | left hreworded hg _ ih => exact .right hreworded hg ih
  | right hreworded hg _ ih => exact .left hreworded hg ih

theorem mono {ok₂ : Grammar → Prop} (h : Variant ok reworded g g') (hok : ∀ g, ok g → ok₂ g) :
    Variant ok₂ reworded g g' := by
  induction h with
  | akin h _ here here' ih => exact .akin h ih (hok _ here) (hok _ here')
  | left hreworded hg _ ih => exact .left hreworded hg ih
  | right hreworded hg _ ih => exact .right hreworded hg ih

/-- All nodes are such as they should be, if those that change messages are. -/
theorem all (h : Variant ok reworded g g') (hok : ∀ {p g}, Rewords p g → ok g) : All ok g := by
  induction h with
  | akin h _ here _ ih =>
    refine .node here (fun p hp => ?_) fun p hp => ?_
    · obtain ⟨p', hR⟩ := h.part (.inl hp)
      exact ih p p' hR
    · obtain ⟨p', hR⟩ := h.part (.inr hp)
      exact ih p p' hR
  | left _ hg _ ih =>
    cases hg <;> exact .node (hok (by constructor)) (fun q hq => List.mem_singleton.mp hq ▸ ih)
      fun _ => False.elim
  | right _ _ _ ih => exact ih

/-- Where nothing is reworded there is one variant. -/
theorem eq (h : Variant ok reworded g g') (hreworded : ¬reworded) : g = g' := by
  induction h with
  | akin h _ _ _ ih => exact h.eq ih
  | left h => exact (hreworded h).elim
  | right h => exact (hreworded h).elim

theorem node (h : Like (Variant ok reworded) (Variant ok reworded) g g') (here : ok g)
    (here' : ok g') : Variant ok reworded g g' :=
  .akin (.node h) (fun _ _ => id) here here'

section
variable (hok : Stable ok)
include hok

theorem cell (id : ℕ) : Variant ok reworded (.cell id) (.cell id) :=
  .akin (.cell (R := fun _ _ => False) id) (fun _ _ => False.elim) (hok.cell id) (hok.cell id)

theorem fail (message : String) : Variant ok reworded (.fail message) (.fail message) :=
  .node (.fail message) (hok.fail message) (hok.fail message)

theorem succeed (v : Value) : Variant ok reworded (.succeed v) (.succeed v) :=
  .node (.succeed v) (hok.succeed v) (hok.succeed v)

/-- Nodes that are alike are variants over children that are. -/
theorem rebuild (h : Like R R g g') (parts : ∀ p p', R p p' → Variant ok reworded p p')
    (here : ok g) (here' : ok g') {ps ps' : List Grammar}
    (hps : List.Forall₂ (Variant ok reworded) ps ps') (hlength : ps.length = g.children.length) :
    Variant ok reworded (g.rebuild ps) (g'.rebuild ps') := by
  have hboth := h.rebuild_both hps hlength
  have hstill {g : Grammar} {ps : List Grammar} (hg : ¬g.Recursive) (here : ok g)
      (hlength : ps.length = g.children.length) : ok (g.rebuild ps) := by
    refine hok.like (.rebuild (R := fun _ _ => True) (N := fun _ _ => True) g hg ?_ ?_) here
    · exact List.forall₂_iff_zip.mpr ⟨hlength, fun _ => trivial⟩
    · exact fun _ _ => trivial
  have hlength' : ps'.length = g'.children.length := by
    rw [← hps.length_eq, hlength, h.children.length_eq]
  exact .node (hboth.mono (fun _ _ => id) parts) (hstill h.not_recursive.1 here hlength)
    (hstill h.not_recursive.2 here' hlength')

end

end Variant

end Grammar

/-! ### Settings and heaps -/

/-- The same rules with definitions that correspond. -/
structure Setting.Pairs (V : Grammar → Grammar → Prop) (setting setting' : Setting) : Prop where
  rules : List.Forall₂ (fun entry entry' => entry.1 = entry'.1 ∧ V entry.2 entry'.2)
    setting.rules setting'.rules
  stateful : setting.stateful = setting'.stateful

namespace Setting.Pairs
variable {V : Grammar → Grammar → Prop} {setting setting' : Setting}

theorem symm (h : setting.Pairs V setting') (hV : ∀ p p', V p p' → V p' p) :
    setting'.Pairs V setting where
  rules := h.rules.flip.imp fun _ _ he => ⟨he.1.symm, hV _ _ he.2⟩
  stateful := h.stateful.symm

theorem mono {V₂ : Grammar → Grammar → Prop} (h : setting.Pairs V setting')
    (hV : ∀ p p', V p p' → V₂ p p') : setting.Pairs V₂ setting' where
  rules := h.rules.imp fun _ _ he => ⟨he.1, hV _ _ he.2⟩
  stateful := h.stateful

theorem written (h : setting.Pairs V setting') : setting'.written = setting.written := by
  unfold Setting.written
  rw [h.stateful]

theorem cellOf? (h : setting.Pairs V setting') (name : String) :
    setting.cellOf? name = setting'.cellOf? name := by
  unfold Setting.cellOf?
  have hrules := h.rules
  generalize setting.rules = rules, setting'.rules = rules' at hrules
  induction hrules with
  | nil => rfl
  | cons he _ ih => rw [List.findIdx?_cons, List.findIdx?_cons, he.1, ih]

theorem definition? (h : setting.Pairs V setting') (name : String) :
    Option.Rel V (setting.definition? name) (setting'.definition? name) := by
  unfold Setting.definition?
  have hrules := h.rules
  generalize setting.rules = rules, setting'.rules = rules' at hrules
  induction hrules with
  | nil => exact .none
  | @cons entry entry' _ _ he _ ih =>
    obtain ⟨key, p⟩ := entry
    obtain ⟨key', p'⟩ := entry'
    obtain ⟨rfl : key = key', hp : V p p'⟩ := he
    rw [List.lookup_cons, List.lookup_cons]
    split
    · exact .some hp
    · exact ih

end Setting.Pairs

/-- Both are waiting or taken, or were built alike. -/
inductive Cell.Status.Pair (V : Grammar → Grammar → Prop) : Cell.Status → Cell.Status → Prop
  | waiting : Pair V .waiting .waiting
  | taken : Pair V .taken .taken
  | built {g g' : Grammar} (h : V g g') : Pair V (.built g) (.built g')

/-- Cells of the same owner whose definitions correspond, in a status that does. -/
structure Cell.Pair (V : Grammar → Grammar → Prop) (c c' : Cell) : Prop where
  definition : V c.definition c'.definition
  owner : c.owner = c'.owner
  status : c.status.Pair V c'.status

namespace Cell.Pair
variable {V : Grammar → Grammar → Prop} {c c' : Cell}

theorem symm (h : c.Pair V c') (hV : ∀ p p', V p p' → V p' p) : c'.Pair V c where
  definition := hV _ _ h.definition
  owner := h.owner.symm
  status := by
    have hstatus := h.status
    generalize c.status = status, c'.status = status' at hstatus
    cases hstatus with
    | waiting => exact .waiting
    | taken => exact .taken
    | built hg => exact .built (hV _ _ hg)

theorem eq (h : c.Pair V c') (hV : ∀ p p', V p p' → p = p') : c = c' := by
  obtain ⟨definition, owner, status⟩ := c
  obtain ⟨definition', owner', status'⟩ := c'
  obtain ⟨hdef, rfl : owner = owner', hstatus⟩ := h
  obtain rfl := hV _ _ hdef
  cases hstatus with
  | waiting => rfl
  | taken => rfl
  | built hg => rw [hV _ _ hg]

end Cell.Pair

/-- As many cells, in pairs, which were built as often. -/
structure Heap.Pairs (V : Grammar → Grammar → Prop) (h h' : Heap) : Prop where
  size : h.cells.size = h'.cells.size
  cells : ∀ id : ℕ, Option.Rel (Cell.Pair V) h.cells[id]? h'.cells[id]?
  builds : h.builds = h'.builds

namespace Heap.Pairs
variable {V : Grammar → Grammar → Prop} {h h' : Heap}

theorem symm (hh : h.Pairs V h') (hV : ∀ p p', V p p' → V p' p) : h'.Pairs V h where
  size := hh.size.symm
  cells id := by
    have hcells := hh.cells id
    generalize h.cells[id]? = o, h'.cells[id]? = o' at hcells
    cases hcells with
    | none => exact .none
    | some hc => exact .some (hc.symm hV)
  builds := hh.builds.symm

/-- Heaps of equal cells are equal. -/
theorem eq (hh : h.Pairs V h') (hV : ∀ p p', V p p' → p = p') : h = h' := by
  have hcells : h.cells = h'.cells := by
    refine Array.ext_getElem? fun id => ?_
    have hcells := hh.cells id
    generalize h.cells[id]? = o, h'.cells[id]? = o' at hcells
    cases hcells with
    | none => rfl
    | some hc => rw [hc.eq hV]
  obtain ⟨cells, builds⟩ := h
  obtain ⟨cells', builds'⟩ := h'
  obtain rfl : cells = cells' := hcells
  obtain rfl : builds = builds' := hh.builds
  rfl

theorem initial {setting setting' : Setting} (hsetting : setting.Pairs V setting') :
    setting.initialHeap.Pairs V setting'.initialHeap where
  size := by simp [Setting.initialHeap, hsetting.rules.length_eq]
  cells id := by
    simp only [Setting.initialHeap, List.getElem?_toArray, List.getElem?_map]
    have hrules := hsetting.rules
    generalize setting.rules = rules, setting'.rules = rules' at hrules
    induction hrules generalizing id with
    | nil => exact .none
    | cons he _ ih =>
      cases id with
      | zero => exact .some ⟨he.2, congrArg some he.1, .waiting⟩
      | succ id => exact ih id
  builds := by
    simp only [Setting.initialHeap]
    have hrules := hsetting.rules
    generalize setting.rules = rules, setting'.rules = rules' at hrules
    induction hrules with
    | nil => rfl
    | cons he _ ih => rw [List.map_cons, List.map_cons, he.1, ih]

theorem alloc (hh : h.Pairs V h') {c c' : Cell} (hc : c.Pair V c') :
    (h.alloc c).Pairs V (h'.alloc c') where
  size := by simp [Heap.alloc, hh.size]
  cells id := by
    simp only [Heap.alloc, Array.getElem?_push, hh.size]
    split
    · exact .some hc
    · exact hh.cells id
  builds := hh.builds

theorem setStatus (hh : h.Pairs V h') (id : ℕ) {status status' : Cell.Status}
    (hstatus : status.Pair V status') : (h.setStatus id status).Pairs V (h'.setStatus id status') where
  size := by simp [Heap.setStatus, hh.size]
  cells i := by
    simp only [Heap.setStatus, Array.getElem?_modify]
    have hcells := hh.cells i
    generalize h.cells[i]? = o, h'.cells[i]? = o' at hcells
    split
    · cases hcells with
      | none => exact .none
      | some hc => exact .some ⟨hc.definition, hc.owner, hstatus⟩
    · exact hcells
  builds := hh.builds

theorem takeCell (hh : h.Pairs V h') (id : ℕ) (owner : Option String) :
    (h.takeCell id owner).Pairs V (h'.takeCell id owner) := by
  have hset := hh.setStatus id .taken
  cases owner with
  | none => exact hset
  | some name => exact ⟨hset.size, hset.cells, by simp only [Heap.takeCell, countBuild, hset.builds]⟩

end Heap.Pairs

end Descent
