import Descent.Proofs.Meaning

/-! Cells stand for their definitions.

A grammar that was built `Stands` for the one that was written: it has a cell where the
other has a deferred parser, and the cell has the definition of that parser. A heap is
`Sound` if every built cell holds what stands for its definition, and `Faithful` if
besides definitions only construct and no cell is lost. Building makes new cells and
leaves those that there are as they are (`build_stands`), and forcing a cell keeps the
heap faithful, so that evaluation with cells is in lockstep with the meaning of what was
written (`eval_lockstep`). -/
namespace Descent

/-- The definition of a cell. -/
def Heap.definition? (h : Heap) (id : ℕ) : Option Grammar := (h.cells[id]?).map Cell.definition

/-- A heap with the same cells, in whatever status, and perhaps more. -/
def Heap.Extends (h h' : Heap) : Prop :=
  ∀ id p, h.definition? id = some p → h'.definition? id = some p

namespace Heap.Extends
variable {h h' h'' : Heap}

theorem refl (h : Heap) : h.Extends h := fun _ _ => id

theorem trans (hh : h.Extends h') (hh' : h'.Extends h'') : h.Extends h'' :=
  fun id p hp => hh' id p (hh id p hp)

theorem alloc (h : Heap) (c : Cell) : h.Extends (h.alloc c) := by
  intro id p hp
  obtain ⟨d, hd, rfl⟩ := Option.map_eq_some_iff.mp hp
  have hid : id ≠ h.cells.size := by
    rintro rfl
    simp at hd
  simp [Heap.definition?, Heap.alloc, Array.getElem?_push, hid, hd]

theorem setStatus (h : Heap) (id : ℕ) (status : Cell.Status) :
    h.Extends (h.setStatus id status) := by
  intro i p hp
  obtain ⟨d, hd, rfl⟩ := Option.map_eq_some_iff.mp hp
  by_cases hi : id = i <;> simp [Heap.definition?, Heap.setStatus, Array.getElem?_modify, hi, hd]

theorem countBuild (h : Heap) (owner : Option String) : h.Extends (h.countBuild owner) := by
  cases owner <;> exact refl _

theorem takeCell (h : Heap) (id : ℕ) (owner : Option String) : h.Extends (h.takeCell id owner) :=
  (setStatus h id .taken).trans (countBuild _ owner)

end Heap.Extends

namespace Setting
variable {setting : Setting}

/-- The cell of a rule is the cell of its definition. -/
theorem definition?_of_cellOf? {name : String} {id : ℕ} (h : setting.cellOf? name = some id) :
    ∃ entry, setting.rules[id]? = some entry ∧ setting.definition? name = some entry.2 := by
  unfold cellOf? at h
  unfold definition?
  generalize setting.rules = rules at h
  induction rules generalizing id with
  | nil => cases h
  | cons entry rules ih =>
    obtain ⟨key, p⟩ := entry
    rw [List.findIdx?_cons] at h
    by_cases hkey : key = name
    · subst hkey
      simp only [beq_self_eq_true, if_true, Option.some.injEq] at h
      subst h
      exact ⟨_, rfl, List.lookup_cons_self⟩
    · simp only [beq_iff_eq, hkey, if_false, Option.map_eq_some_iff] at h
      obtain ⟨i, hi, rfl⟩ := h
      obtain ⟨entry, hentry, hlookup⟩ := ih hi
      refine ⟨entry, hentry, ?_⟩
      rw [List.lookup_cons, beq_false_of_ne (Ne.symm hkey)]
      exact hlookup

theorem definition?_of_cellOf?_none {name : String} (h : setting.cellOf? name = none) :
    setting.definition? name = none := by
  unfold cellOf? at h
  unfold definition?
  rw [List.findIdx?_eq_none_iff] at h
  rw [List.lookup_eq_none_iff]
  exact fun entry hentry => bne_iff_ne.mpr (Ne.symm (beq_eq_false_iff_ne.mp (h entry hentry)))

end Setting

namespace Grammar
open Coupling
variable {setting : Setting} {h h' : Heap}

/-- A grammar that was built, and the one that was written. A probe has become what it
found, wherever it was applied. -/
inductive Stands (setting : Setting) : Heap → Grammar → Grammar → Prop
  | cell {h : Heap} {id : ℕ} {g p : Grammar} (hid : h.definition? id = some p)
      (hbody : body? setting g = some p) : Stands setting h (.cell id) g
  | missing {h : Heap} {g : Grammar} (hg : Deferred g) (hbody : body? setting g = none) :
      Stands setting h (.fail (missing g)) g
  | probe {h : Heap} {p p' : Grammar} {text : Text} {n : ℕ} {w w' : World Heap} {v : Value}
      (hbuilt : ∀ (id : ℕ) (c : Cell) (g : Grammar), w.heap.cells[id]? = some c →
        c.status = .built g → Stands setting w.heap g c.definition)
      (hrules : ∀ (id : ℕ) (entry : String × Grammar), setting.rules[id]? = some entry →
        w.heap.definition? id = some entry.2)
      (hp : Stands setting w.heap p' p)
      (hfound : probeWith (eval setting n) p' text w = .done v w') :
      Stands setting h (.succeed v) (.probe p text)
  | zipped {h : Heap} {g : Grammar} {ps : List Grammar} (hg : ¬g.Recursive)
      (hlength : ps.length = g.children.length)
      (hchildren : ∀ p q, (p, q) ∈ ps.zip g.children → Stands setting h p q) :
      Stands setting h (g.rebuild ps) g

theorem Stands.node {g : Grammar} {ps : List Grammar} (hg : ¬g.Recursive)
    (hchildren : List.Forall₂ (Stands setting h) ps g.children) :
    Stands setting h (g.rebuild ps) g :=
  have ⟨hlength, hzip⟩ := List.forall₂_iff_zip.mp hchildren
  .zipped hg hlength fun _ _ => hzip

/-- A node over what stands for its children is like it, with all that is known of them. -/
theorem Stands.like {P : Grammar → Prop} {g : Grammar} {ps : List Grammar} (hg : ¬g.Recursive)
    (hlength : ps.length = g.children.length)
    (hstands : ∀ p q, (p, q) ∈ ps.zip g.children → Stands setting h p q)
    (hchildren : ∀ p ∈ g.children, P p) (hpicks : ∀ p, g.Picks p → P p) :
    Like (fun p q => Stands setting h p q ∧ P q) (fun p q => p = q ∧ P p) (g.rebuild ps) g :=
  .rebuild g hg (forall₂_and_mem (List.forall₂_iff_zip.mpr ⟨hlength, hstands _ _⟩) hchildren)
    fun p hp => ⟨rfl, hpicks p hp⟩

/-- What stands for a grammar does so in a larger heap. -/
theorem Stands.mono (hh : h.Extends h') {g : Grammar} :
    ∀ {g'}, Stands setting h g' g → Stands setting h' g' g := by
  induction g using children_induction with
  | step g ih =>
    intro g' hg'
    cases hg' with
    | cell hid hbody => exact .cell (hh _ _ hid) hbody
    | missing hg hbody => exact .missing hg hbody
    | probe hbuilt hrules hp hfound => exact .probe hbuilt hrules hp hfound
    | zipped hg hlength hchildren =>
      exact .zipped hg hlength fun p q hpq =>
        ih q (List.of_mem_zip hpq).2 (hchildren p q hpq)

/-- Every cell has a definition that is fit, and if it was built, what stands for it. A
rule counts the builds of its own cell, and of others only if it may be `fresh`. -/
structure Sound (setting : Setting) (ok : Grammar → Prop) (h : Heap) : Prop where
  defined : ∀ (id : ℕ) (c : Cell), h.cells[id]? = some c → All ok c.definition
  built : ∀ (id : ℕ) (c : Cell) (g : Grammar), h.cells[id]? = some c → c.status = .built g →
    Stands setting h g c.definition
  rules : ∀ (id : ℕ) (entry : String × Grammar), setting.rules[id]? = some entry →
    h.definition? id = some entry.2
  owned : ∀ (id : ℕ) (c : Cell) (name : String), h.cells[id]? = some c → c.owner = some name →
    (∃ entry, setting.rules[id]? = some entry ∧ entry.1 = name) ∨ ok (.fresh name)

/-- A cell after a new one was made is an old one or the new one. -/
theorem getElem?_alloc {c d : Cell} {id : ℕ} (hd : (h.alloc c).cells[id]? = some d) :
    h.cells[id]? = some d ∨ d = c := by
  rw [Heap.alloc, Array.getElem?_push] at hd
  split at hd
  · exact .inr (Option.some.inj hd).symm
  · exact .inl hd

/-- A cell after one got another status. -/
theorem getElem?_setStatus {id i : ℕ} {status : Cell.Status} {d : Cell}
    (hd : (h.setStatus id status).cells[i]? = some d) :
    ∃ c, h.cells[i]? = some c ∧ d.definition = c.definition ∧ d.owner = c.owner ∧
      (i = id ∧ d.status = status ∨ i ≠ id ∧ d = c) := by
  rw [Heap.setStatus, Array.getElem?_modify] at hd
  split at hd
  · next hi =>
    obtain ⟨c, hc, rfl⟩ := Option.map_eq_some_iff.mp hd
    exact ⟨c, hc, rfl, rfl, .inl ⟨hi.symm, rfl⟩⟩
  · next hi => exact ⟨d, hd, rfl, rfl, .inr ⟨Ne.symm hi, rfl⟩⟩

theorem cells_countBuild (h : Heap) (owner : Option String) :
    (h.countBuild owner).cells = h.cells := by cases owner <;> rfl

namespace Sound
variable {ok : Grammar → Prop}

theorem all_definition (hh : Sound setting ok h) {name : String} {p : Grammar}
    (hp : setting.definition? name = some p) : All ok p := by
  cases hcell : setting.cellOf? name with
  | none => rw [Setting.definition?_of_cellOf?_none hcell] at hp; cases hp
  | some id =>
    obtain ⟨entry, hentry, hdef⟩ := Setting.definition?_of_cellOf? hcell
    obtain ⟨c, hc, hcentry⟩ := Option.map_eq_some_iff.mp (hh.rules id entry hentry)
    rw [hdef] at hp
    cases hp
    exact hcentry ▸ hh.defined id c hc

theorem mono {ok₂ : Grammar → Prop} (hh : Sound setting ok h) (hok : ∀ g, ok g → ok₂ g) :
    Sound setting ok₂ h where
  defined id c hc := (hh.defined id c hc).mono hok
  built := hh.built
  rules := hh.rules
  owned id c name hc hname := (hh.owned id c name hc hname).imp_right (hok _)

theorem alloc (hh : Sound setting ok h) {c : Cell} (hc : All ok c.definition)
    (howner : ∀ name, c.owner = some name → ok (.fresh name)) (hstatus : c.status = .waiting) :
    Sound setting ok (h.alloc c) where
  defined id d hd := by
    obtain hd | rfl := getElem?_alloc hd
    exacts [hh.defined id d hd, hc]
  built id d g hd hbuilt := by
    obtain hd | rfl := getElem?_alloc hd
    · exact (hh.built id d g hd hbuilt).mono (.alloc h c)
    · rw [hstatus] at hbuilt; cases hbuilt
  rules id entry hentry := Heap.Extends.alloc h c _ _ (hh.rules id entry hentry)
  owned id d name hd hname := by
    obtain hd | rfl := getElem?_alloc hd
    exacts [hh.owned id d name hd hname, .inr (howner name hname)]

theorem setStatus (hh : Sound setting ok h) (id : ℕ) (status : Cell.Status)
    (hbuilt : ∀ c g, h.cells[id]? = some c → status = .built g → Stands setting h g c.definition) :
    Sound setting ok (h.setStatus id status) where
  defined i d hd := by
    obtain ⟨c, hc, hdef, _⟩ := getElem?_setStatus hd
    exact hdef ▸ hh.defined i c hc
  built i d g hd hd' := by
    obtain ⟨c, hc, hdef, _, ⟨rfl, hs⟩ | ⟨hi, rfl⟩⟩ := getElem?_setStatus hd
    · rw [hdef]
      exact (hbuilt c g hc (hs ▸ hd')).mono (.setStatus h i status)
    · exact (hh.built i d g hc hd').mono (.setStatus h id status)
  rules i entry hentry := Heap.Extends.setStatus h id status _ _ (hh.rules i entry hentry)
  owned i d name hd hname := by
    obtain ⟨c, hc, _, howner, _⟩ := getElem?_setStatus hd
    exact hh.owned i c name hc (howner ▸ hname)

theorem takeCell (hh : Sound setting ok h) (id : ℕ) (owner : Option String) :
    Sound setting ok (h.takeCell id owner) := by
  have hset := hh.setStatus id .taken fun _ _ _ hstatus => by cases hstatus
  have hext : (h.setStatus id .taken).Extends (h.takeCell id owner) := .countBuild _ owner
  have hcells : (h.takeCell id owner).cells = (h.setStatus id .taken).cells :=
    cells_countBuild _ owner
  exact
    { defined := fun i c hc => hset.defined i c (hcells ▸ hc)
      built := fun i c g hc hg => (hset.built i c g (hcells ▸ hc) hg).mono hext
      rules := fun i entry hentry => hext _ _ (hset.rules i entry hentry)
      owned := fun i c name hc => hset.owned i c name (hcells ▸ hc) }

/-- A cell that was taken gets what stands for its definition. -/
theorem fill (hh : Sound setting ok h) {id : ℕ} {p g : Grammar} (hid : h.definition? id = some p)
    (hg : Stands setting h g p) : Sound setting ok (h.setStatus id (.built g)) :=
  hh.setStatus id (.built g) fun c g' hc hstatus => by
    cases hstatus
    rw [Heap.definition?, hc, Option.map_some, Option.some.injEq] at hid
    exact hid ▸ hg

/-- What is made for a deferred parser stands for it. -/
theorem stands_alloc {g p : Grammar} (owner : Option String) (hbody : body? setting g = some p) :
    Stands setting (h.alloc ⟨p, owner, .waiting⟩) (.cell h.cells.size) g :=
  .cell (by simp [Heap.definition?, Heap.alloc]) hbody

end Sound

/-- The heap with which a session begins has the definitions of the rules, which wait. -/
theorem initialHeap_cell {id : ℕ} {c : Cell} (hc : setting.initialHeap.cells[id]? = some c) :
    ∃ entry, setting.rules[id]? = some entry ∧ c = ⟨entry.2, some entry.1, .waiting⟩ := by
  simp only [Setting.initialHeap, List.getElem?_toArray, List.getElem?_map,
    Option.map_eq_some_iff] at hc
  obtain ⟨entry, hentry, rfl⟩ := hc
  exact ⟨entry, hentry, rfl⟩

theorem initialHeap_sound {ok : Grammar → Prop} (hrules : ∀ entry ∈ setting.rules, All ok entry.2) :
    Sound setting ok setting.initialHeap where
  defined id c hc := by
    obtain ⟨entry, hentry, rfl⟩ := initialHeap_cell hc
    exact hrules entry (List.mem_of_getElem? hentry)
  built id c g hc hstatus := by
    obtain ⟨entry, hentry, rfl⟩ := initialHeap_cell hc
    cases hstatus
  rules id entry hentry := by simp [Heap.definition?, Setting.initialHeap, hentry]
  owned id c name hc hname := by
    obtain ⟨entry, hentry, rfl⟩ := initialHeap_cell hc
    exact .inl ⟨entry, hentry, Option.some.inj hname⟩

/-- Only the cell that is being forced is without anything to apply. -/
structure Faithful (setting : Setting) (forced : Option ℕ) (h : Heap) : Prop
    extends Sound setting Written h where
  taken : ∀ (id : ℕ) (c : Cell), h.cells[id]? = some c → c.status = .taken → forced = some id

namespace Faithful
variable {forced : Option ℕ}

theorem alloc (hh : Faithful setting forced h) {c : Cell} (hplain : Plain c.definition)
    (hstatus : c.status = .waiting) : Faithful setting forced (h.alloc c) where
  toSound := hh.toSound.alloc hplain (fun _ _ => trivial) hstatus
  taken id d hd htaken := by
    obtain hd | rfl := getElem?_alloc hd
    · exact hh.taken id d hd htaken
    · rw [hstatus] at htaken; cases htaken

theorem takeCell (hh : Faithful setting none h) (id : ℕ) (owner : Option String) :
    Faithful setting (some id) (h.takeCell id owner) where
  toSound := hh.toSound.takeCell id owner
  taken i d hd hd' := by
    rw [Heap.takeCell, cells_countBuild] at hd
    obtain ⟨c, hc, _, _, ⟨rfl, _⟩ | ⟨_, rfl⟩⟩ := getElem?_setStatus hd
    · rfl
    · cases hh.taken i d hc hd'

theorem fill {id : ℕ} (hh : Faithful setting (some id) h) {p g : Grammar}
    (hid : h.definition? id = some p) (hg : Stands setting h g p) :
    Faithful setting none (h.setStatus id (.built g)) where
  toSound := hh.toSound.fill hid hg
  taken i d hd hd' := by
    obtain ⟨c, hc, _, _, ⟨rfl, hs⟩ | ⟨hi, rfl⟩⟩ := getElem?_setStatus hd
    · rw [hs] at hd'; cases hd'
    · exact (hi (Option.some.inj (hh.taken i d hc hd')).symm).elim

end Faithful

theorem initialHeap_faithful (hrules : ∀ entry ∈ setting.rules, Plain entry.2) :
    Faithful setting none setting.initialHeap where
  toSound := initialHeap_sound hrules
  taken id c hc hstatus := by
    obtain ⟨entry, hentry, rfl⟩ := initialHeap_cell hc
    cases hstatus

/-! ### Building -/

/-- What comes of building a grammar, however probes are applied: no fault, only new
cells, and what stands for it. -/
def BuiltFrom (setting : Setting) (forced : Option ℕ) (w : World Heap)
    (r : Prober → Result (World Heap) Grammar) (g : Grammar) : Prop :=
  ∃ g' h, (∀ prober, r prober = .done g' { w with heap := h }) ∧ Faithful setting forced h ∧
    w.heap.Extends h ∧ Stands setting h g' g

/-- **Building makes what stands for the grammar.** -/
theorem build_stands {forced : Option ℕ} {g : Grammar} (hg : Plain g) :
    ∀ w : World Heap, Faithful setting forced w.heap →
      BuiltFrom setting forced w (build setting · g w) g := by
  induction g using children_induction with
  | step g ih =>
    intro w hw
    have hnew {p : Grammar} (owner : Option String) (hp : Plain p)
        (hbody : body? setting g = some p) :
        BuiltFrom setting forced w (fun _ => allocate ⟨p, owner, .waiting⟩ w) g := by
      exact ⟨.cell w.heap.cells.size, w.heap.alloc ⟨p, owner, .waiting⟩, fun _ => rfl,
        hw.alloc hp rfl, .alloc _ _, Sound.stands_alloc owner hbody⟩
    have hmissing (hrec : Deferred g) (hbody : body? setting g = none) :
        BuiltFrom setting forced w (fun _ => .done (.fail (missing g)) w) g :=
      ⟨_, w.heap, fun _ => rfl, hw, .refl _, .missing hrec hbody⟩
    by_cases hrec : g.Recursive
    · cases g with
      | rule name =>
        simp only [build]
        cases hcell : setting.cellOf? name with
        | none => exact hmissing trivial (Setting.definition?_of_cellOf?_none hcell)
        | some id =>
          obtain ⟨entry, hentry, hdef⟩ := Setting.definition?_of_cellOf? hcell
          exact ⟨.cell id, w.heap, fun _ => rfl, hw, .refl _, .cell (hw.rules id entry hentry) hdef⟩
      | fresh name =>
        simp only [build]
        cases hdef : setting.definition? name with
        | none => exact hmissing trivial hdef
        | some p => exact hnew (some name) (hw.all_definition hdef) hdef
      | lazy p => exact hnew none (hg.child (List.mem_singleton_self p)) rfl
      | cell id => exact hg.here.elim
      | probe p text => exact hg.here.elim
      | _ => exact hrec.elim
    · -- the children one after another, what stands for the earlier ones staying so
      have hall (ps : List Grammar) (hps : ∀ p ∈ ps, p ∈ g.children) (w : World Heap)
          (hw : Faithful setting forced w.heap) :
          ∃ ps' h, (∀ prober, buildAll setting prober ps w = .done ps' { w with heap := h }) ∧
            Faithful setting forced h ∧ w.heap.Extends h ∧
            List.Forall₂ (Stands setting h) ps' ps := by
        induction ps generalizing w with
        | nil => exact ⟨[], w.heap, fun _ => rfl, hw, .refl _, .nil⟩
        | cons p ps ihps =>
          have hp := hps p List.mem_cons_self
          obtain ⟨p', h₁, hbuild, hf₁, hext₁, hstands⟩ := ih p hp (hg.child hp) w hw
          obtain ⟨ps', h₂, hbuilds, hf₂, hext₂, hall⟩ :=
            ihps (fun q hq => hps q (List.mem_cons_of_mem _ hq)) { w with heap := h₁ } hf₁
          refine ⟨p' :: ps', h₂, fun prober => ?_, hf₂, hext₁.trans hext₂,
            .cons (hstands.mono hext₂) hall⟩
          simp only [buildAll, hbuild, hbuilds, Result.next_done]
      obtain ⟨ps, h, hbuilds, hf, hext, hchildren⟩ := hall g.children (fun _ => id) w hw
      refine ⟨g.rebuild ps, h, fun prober => ?_, hf, hext, .node hrec hchildren⟩
      simp only [build_eq hrec, hbuilds, Result.next_done]

/-! ### Evaluation -/

/-- Worlds beside which the log of a reference may be anything. -/
def Beyond (setting : Setting) (h h' : Heap) (_ : Log) : Prop :=
  Faithful setting none h' ∧ h.Extends h'

/-- Evaluation with cells goes along with the reference, from every faithful heap on. -/
def Tracking (setting : Setting) (apply : Grammar → Parser (World Heap) Value Value)
    (reference : Grammar → Parser (World Log) Value Value) : Prop :=
  ∀ h g g₀, Stands setting h g g₀ → Plain g₀ →
    (lockstep (World.Beside (Beyond setting h)) (pure 0)).Follows (apply g) fun _ => reference g₀

namespace Tracking
variable {apply : Grammar → Parser (World Heap) Value Value}
variable {refer : Grammar → Parser (World Log) Value Value}

/-- From a heap that is there. -/
theorem along (hT : Tracking setting apply refer) (w : World Heap) (w' : World Log)
    (hledger : w.ledger = w'.ledger) (hfaithful : Faithful setting none w.heap)
    (hext : h.Extends w.heap) {g g₀ : Grammar} (hg : Stands setting w.heap g g₀)
    (hplain : Plain g₀) (s : Value) (t : Stream) :
    (apply g s t w).Matches (World.Beside (Beyond setting h)) (pure 0) fun _ => refer g₀ s t w' :=
  (follows_lockstep.mp (hT w.heap g g₀ hg hplain) s t w w' ⟨hledger, hfaithful, .refl _⟩).mono
    fun _ _ hw => ⟨hw.1, hw.2.1, hext.trans hw.2.2⟩

theorem force (hT : Tracking setting apply refer) {id : ℕ} {p : Grammar}
    (hid : h.definition? id = some p) :
    (lockstep (World.Beside (Beyond setting h)) (pure 0)).Follows (force setting apply id)
      fun _ => Parser.noted (refer p) := by
  rw [follows_lockstep]
  intro s t w w' ⟨hledger, hfaithful, hext⟩
  obtain ⟨⟨q, owner, status⟩, hc, hq⟩ := Option.map_eq_some_iff.mp (hext id p hid)
  obtain rfl : q = p := hq
  have halong (w₁ : World Heap) := hT.along (h := h) w₁
    { w' with heap := w'.heap ++ [⟨t.offset, w'.ledger.depth⟩] }
  unfold Grammar.force Parser.noted
  rw [hc]
  cases status with
  | built g =>
    exact halong w hledger hfaithful hext (hfaithful.built id _ g hc rfl) (hfaithful.defined id _ hc) s t
  | taken => cases hfaithful.taken id _ hc rfl
  | waiting =>
    obtain ⟨g', h₁, hbuild, hf₁, hext₁, hstands⟩ := build_stands
      (hfaithful.defined id _ hc) { w with heap := w.heap.takeCell id owner }
      (hfaithful.takeCell id owner)
    have hdef : h₁.definition? id = some q :=
      hext₁ _ _ (Heap.Extends.takeCell _ _ _ _ _ (hext id q hid))
    simp only [hbuild, Result.next_done]
    exact halong { w with heap := h₁.setStatus id (.built g') } hledger (hf₁.fill hdef hstands)
      (hext.trans ((Heap.Extends.takeCell _ _ _).trans (hext₁.trans (.setStatus h₁ id _))))
      (hstands.mono (.setStatus h₁ id _)) (hfaithful.defined id _ hc) s t

theorem buildThen (hT : Tracking setting apply refer) {p : Grammar} (hp : Plain p) (h : Heap) :
    (lockstep (World.Beside (Beyond setting h)) (pure 0)).Follows (buildThen setting apply p)
      fun _ => refer p := by
  rw [follows_lockstep]
  intro s t w w' ⟨hledger, hfaithful, hext⟩
  obtain ⟨g, h₁, hbuild, hf₁, hext₁, hstands⟩ := build_stands hp w hfaithful
  simp only [Grammar.buildThen, hbuild, Result.next_done]
  exact hT.along { w with heap := h₁ } w' hledger hf₁ (hext.trans hext₁) hstands hp s t

/-- The log of what happens apart does not matter. -/
theorem apart (hT : Tracking setting apply refer) (config : Config) {g g₀ : Grammar}
    (hg : Stands setting h g g₀) (hplain : Plain g₀) :
    (lockstep (World.Beside (Beyond setting h)) (pure 0)).Follows
      (Parser.nestedRun config (apply g))
      fun _ => Parser.apart (Parser.nestedRun config (refer g₀)) := by
  rw [follows_lockstep]
  intro s t w w' hw
  have hrun := follows_lockstep.mp (nestedRun_lockstep (hT h g g₀ hg hplain) config) s t w
    { w' with heap := [] } hw
  cases hr : Parser.nestedRun config (apply g) s t w with
  | done b w₁ =>
    rw [hr] at hrun
    obtain ⟨w₁', hd, hw₁⟩ := hrun
    exact ⟨{ w₁' with heap := w'.heap }, hd.mono fun m hm => by
      simp only [Parser.apart, hm, Result.settle], hw₁⟩
  | fault f w₁ =>
    rw [hr] at hrun
    obtain ⟨w₁', hd, hw₁⟩ := hrun
    exact ⟨{ w₁' with heap := w'.heap }, hd.mono fun m hm => by
      simp only [Parser.apart, hm, Result.settle], hw₁⟩
  | outOfFuel =>
    rw [hr] at hrun
    exact fun hextra => (hrun hextra).mono fun m hm => by
      simp only [Parser.apart, hm, Result.settle]

end Tracking

/-- **Evaluation with cells is in lockstep with the meaning of what was written.** -/
theorem eval_lockstep (setting : Setting) (n : ℕ) :
    Tracking setting (eval setting n) (meaning setting n) := by
  induction n with
  | zero => exact fun h g g₀ _ _ => .starved (fun _ => .of_forall fun _ => rfl) (alone_of_isEmpty _)
  | succ n ih =>
    intro h g g₀ hg hplain
    cases hg with
    | cell hid hbody =>
      have hrec : g₀.Recursive := by cases g₀ <;> trivial
      simp only [meaning_recursive hrec, recalled, hbody]
      exact deferred_lockstep (ih.force hid)
    | missing hrec hbody =>
      simp only [meaning_recursive hrec.recursive, recalled, hbody]
      exact Follows.fail lockstep_lawful _
    | probe => exact hplain.here.elim
    | @zipped _ _ ps hrec hlength hchildren =>
      have hparts : (lockstep (World.Beside (Beyond setting h)) (pure 0)).PartsFollow
          (fun p' p => Stands setting h p' p ∧ Plain p) (fun p p' => p = p' ∧ Plain p)
          (parts setting (eval setting n) n)
          (fun m => reference setting (meaning setting n) (n + m)) g₀ :=
        { apply := fun hp => ih h _ _ hp.1 hp.2
          chosen := fun hp => hp.1 ▸ ih.buildThen hp.2 h
          nested := fun _ hp => ih.apart _ hp.1 hp.2
          written := ⟨_, fun _ => rfl, fun _ _ => congrArg _⟩
          rounds := fun _ => rfl }
      exact (layer_lockstep hparts (Stands.like hrec hlength hchildren (fun _ => hplain.child)
        fun _ => hplain.pick)).congr (Filter.eventually_pure.mpr rfl)

end Grammar

end Descent
