import Descent.Proofs.Coupling.Displaced
import Descent.Proofs.Variant

/-! Variants go abreast.

Grammars that are variants are built alike, cell by cell, and applied alike. The streams
may be displaced if nothing looks at their places, and messages may differ if nothing
makes values of them. The right machine may need more fuel for what it changes in
messages. `eval_variant` is the induction over both, for single applications, and
`Session.Paired` carries it through the steps of sessions. -/
namespace Descent
open Descent.Grammar Descent.Coupling

namespace Grammar
variable {ok : Grammar → Prop} {reworded moved placed faults : Prop} {extra : Filter ℕ}
variable {setting setting' : Setting} {g g' p p' : Grammar}

/-! ### Rewording -/

namespace Rewords

/-- What rewords is built by building what it rewords. -/
theorem build_eq (hg : Rewords p g) : ∃ f : Grammar → Grammar, (∀ q, Rewords q (f q)) ∧
    ∀ setting prober w, build setting prober g w = built (build setting prober p w) f := by
  cases hg with
  | label name => exact ⟨_, fun q => .label (p := q) name, fun _ _ _ => by rw [build]⟩
  | mapMessages f => exact ⟨_, fun q => .mapMessages (p := q) f, fun _ _ _ => by rw [build]⟩

theorem layer_eq (hg : Rewords p g) : ∃ f, ∀ {ω : Type} (parts : Parts ω),
    layer parts g = Parser.mapMessages f (parts.apply p) := by
  cases hg with
  | label name => exact ⟨_, fun _ => rfl⟩
  | mapMessages f => exact ⟨f, fun _ => rfl⟩

end Rewords

/-! ### Building -/

/-- Worlds in which cells may be made side by side, with definitions that are `D`. -/
structure Accommodates (D : Grammar → Grammar → Prop) (W : World Heap → World Heap → Prop) :
    Prop where
  size : ∀ {w w'}, W w w' → w.heap.cells.size = w'.heap.cells.size
  alloc : ∀ {w w' p p'} (owner : Option String), W w w' → D p p' →
    W { w with heap := w.heap.alloc ⟨p, owner, .waiting⟩ }
      { w' with heap := w'.heap.alloc ⟨p', owner, .waiting⟩ }

/-- Worlds of paired heaps, of which nothing else is said than what is said of the accounts. -/
structure Shares (V : Grammar → Grammar → Prop) (W : World Heap → World Heap → Prop) : Prop where
  pairs : ∀ {w w'}, W w w' → w.heap.Pairs V w'.heap
  update : ∀ {w w' h h'}, W w w' → h.Pairs V h' → W { w with heap := h } { w' with heap := h' }

theorem Shares.accommodates {V : Grammar → Grammar → Prop} {W : World Heap → World Heap → Prop}
    (h : Shares V W) : Accommodates V W where
  size hw := (h.pairs hw).size
  alloc _ hw hp := h.update hw ((h.pairs hw).alloc ⟨hp, rfl, .waiting⟩)

section
variable {D R V : Grammar → Grammar → Prop} {W : World Heap → World Heap → Prop}
variable {prober : Prober} {prober' : ℕ → Prober}

/-- Grammars in order are built alike, if each of them is. -/
theorem buildAll_meets {ps ps' : List Grammar} (hps : List.Forall₂ R ps ps')
    (h : ∀ p p', R p p' → ∀ w w', W w w' → (build setting prober p w).Meets V W faults extra
      fun m => build setting' (prober' m) p' w') :
    ∀ w w', W w w' → (buildAll setting prober ps w).Meets
      (fun qs qs' => List.Forall₂ V qs qs' ∧ qs.length = ps.length) W faults extra
      fun m => buildAll setting' (prober' m) ps' w' := by
  induction hps with
  | nil => exact fun w w' hw => .done ⟨.nil, rfl⟩ hw
  | cons hp _ ih =>
    intro w w' hw
    refine (h _ _ hp w w' hw).next (fun q q' w w' hq hw => ?_) fun _ _ => id
    refine (ih w w' hw).next (fun qs qs' w w' hqs hw => ?_) fun _ _ => id
    exact .done ⟨.cons hq hqs.1, congrArg (· + 1) hqs.2⟩ hw

/-- **Variants are built alike.** -/
theorem build_variant (hok : Stable ok) (hsetting : setting.Pairs D setting')
    (hD : ∀ p p', Variant ok reworded p p' → D p p') (hW : Accommodates D W)
    (hprober : ∀ {p p' text}, ok (.probe p text) → Variant ok reworded p p' → ∀ q q' w w',
      Variant ok reworded q q' → W w w' →
      (prober q text w).Meets Eq W faults extra fun m => prober' m q' text w')
    (h : Variant ok reworded g g') :
    ∀ w w', W w w' → (build setting prober g w).Meets (Variant ok reworded) W faults extra
      fun m => build setting' (prober' m) g' w' := by
  have hcell {w w' : World Heap} (hw : W w w') : Variant ok reworded
      (.cell w.heap.cells.size) (.cell w'.heap.cells.size) := hW.size hw ▸ .cell hok _
  induction h with
  | @akin R g g' h parts here here' ih =>
    intro w w' hw
    cases h with
    | node h =>
      simp only [Grammar.build_eq h.not_recursive.1, Grammar.build_eq h.not_recursive.2]
      exact (buildAll_meets h.children ih w w' hw).next (fun ps ps' w w' hps hw =>
        .done (.rebuild hok h parts here here' hps.1 hps.2) hw) fun _ _ => id
    | rule name =>
      simp only [build, hsetting.cellOf? name]
      cases setting'.cellOf? name with
      | none => exact .done (.fail hok _) hw
      | some id => exact .done (.cell hok id) hw
    | fresh name =>
      have hdef := hsetting.definition? name
      simp only [build]
      generalize setting.definition? name = o, setting'.definition? name = o' at hdef
      cases hdef with
      | none => exact .done (.fail hok _) hw
      | some hp => exact .done (hcell hw) (hW.alloc _ hw hp)
    | lazy hp =>
      simp only [build]
      exact .done (hcell hw) (hW.alloc _ hw (hD _ _ (parts _ _ hp)))
    | cell id => exact .done (.cell hok id) hw
    | probe hp text =>
      simp only [build]
      refine (ih _ _ hp w w' hw).next (fun q q' w w' hq hw => ?_) fun _ _ => id
      refine (hprober here (parts _ _ hp) q q' w w' hq hw).next (fun v v' w w' hv hw => ?_)
        fun _ _ => id
      exact .done (hv ▸ .succeed hok v) hw
  | left hreworded hg _ ih =>
    obtain ⟨f, hf, hbuild⟩ := hg.build_eq
    intro w w' hw
    rw [hbuild]
    exact (ih w w' hw).mapLeft fun q q' hq => .left hreworded (hf q) hq
  | right hreworded hg _ ih =>
    obtain ⟨f, hf, hbuild⟩ := hg.build_eq
    intro w w' hw
    simp only [hbuild]
    exact (ih w w' hw).mapRight fun q q' hq => .right hreworded (hf q') hq

variable {apply : Grammar → Parser (World Heap) Value Value}
variable {apply' : ℕ → Grammar → Parser (World Heap) Value Value}
variable {post : Reply Value Value → Reply Value Value → Prop} {s s' : Value} {t t' : Stream}

/-- What is in paired cells is applied alike, after it was built alike if it had to be. -/
theorem force_meets (hW : Shares V W)
    (hbuild : ∀ {g g' w w'}, V g g' → W w w' → (build setting (probeWith apply) g w).Meets V W faults
      extra fun m => build setting' (probeWith (apply' m)) g' w')
    (happly : ∀ {g g' w w'}, V g g' → W w w' → (apply g s t w).Meets post W faults extra
      fun m => apply' m g' s' t' w')
    (hrefused : post ⟨s, t, .error [underConstruction]⟩ ⟨s', t', .error [underConstruction]⟩)
    (id : ℕ) {w w' : World Heap} (hw : W w w') :
    (force setting apply id s t w).Meets post W faults extra
      fun m => force setting' (apply' m) id s' t' w' := by
  have hcells := (hW.pairs hw).cells id
  unfold Grammar.force
  generalize w.heap.cells[id]? = c, w'.heap.cells[id]? = c' at hcells
  cases hcells with
  | none => exact .done hrefused hw
  | @some c c' hc =>
    obtain ⟨definition, owner, status⟩ := c
    obtain ⟨definition', owner', status'⟩ := c'
    obtain ⟨hdef, rfl : owner = owner', hstatus⟩ := hc
    cases hstatus with
    | taken => exact .done hrefused hw
    | built hg => exact happly hg hw
    | waiting =>
      have htaken : W { w with heap := w.heap.takeCell id owner }
          { w' with heap := w'.heap.takeCell id owner } :=
        hW.update hw ((hW.pairs hw).takeCell id owner)
      refine (hbuild hdef htaken).next (fun p p' w w' hp hw => ?_) fun _ _ hw => hw
      exact happly hp (hW.update hw ((hW.pairs hw).setStatus id (.built hp)))

end

/-! ### Evaluation -/

/-- What the nodes may look at: not at where a stream is, if streams are `moved` against
each other, and not at messages, which a probe makes values of, if they are `reworded`. -/
structure Blind (ok : Grammar → Prop) (moved reworded : Prop) : Prop extends Stable ok where
  placeless : ∀ {g}, ok g → moved → Placeless g
  probeless : ∀ {p text}, ok (.probe p text) → ¬reworded

/-- The worlds of variants side by side. -/
abbrev Together (ok : Grammar → Prop) (reworded placed : Prop) : World Heap → World Heap → Prop :=
  World.Abreast placed (Heap.Pairs (Variant ok reworded))

theorem together_shares : Shares (Variant ok reworded) (Together ok reworded placed) where
  pairs hw := hw.heap
  update hw hh := ⟨hw.ledger, hh⟩

/-- Variants that were built go abreast, from streams that are displaced if `moved`. -/
def GoAbreast (ok : Grammar → Prop) (moved reworded : Prop) (extra : Filter ℕ)
    (apply : Grammar → Parser (World Heap) Value Value)
    (apply' : ℕ → Grammar → Parser (World Heap) Value Value) : Prop :=
  ∀ {source source' : Source} {k : ℕ} {placed : Prop} {g g' : Grammar},
    (¬moved → source = source' ∧ k = 0) → (placed → k = 0) → Variant ok reworded g g' →
    (displaced source source' k reworded (Together ok reworded placed) (¬moved) extra).Follows
      (apply g) fun m => apply' m g'

namespace GoAbreast
variable {source source' : Source} {k : ℕ}
variable {apply : Grammar → Parser (World Heap) Value Value}
variable {apply' : ℕ → Grammar → Parser (World Heap) Value Value}

section
variable (h : GoAbreast ok moved reworded extra apply apply')
include h

/-- What probes find. -/
theorem probe (hreworded : ¬reworded) (hg : Variant ok reworded g g') (text : Text)
    {w w' : World Heap} (hw : Together ok reworded placed w w') :
    (probeWith apply g text w).Meets (· = ·) (Together ok reworded placed) (¬moved) extra
      fun m => probeWith (apply' m) g' text w' := by
  have hstart : (Stream.start ⟨text, 0⟩).Leads False (.start ⟨text, 0⟩) :=
    .refl (Stream.start_valid _)
  refine (follows_abreast.mp (h (fun _ => ⟨rfl, rfl⟩) (fun _ => rfl) hg) _ .null _ _ w w' .start
    hstart hw).next (fun reply reply' w w' hr hw => .done ?_ hw) fun _ _ => id
  obtain ⟨s, t, o⟩ := reply
  obtain ⟨s', t', o'⟩ := reply'
  obtain ⟨-, -, -, ho⟩ := hr
  cases o <;> cases o'
  case ok.ok v v' => exact congrArg (fun v => ofOutcome (.ok v)) (show v = v' from ho)
  case error.error l l' =>
    have hl : reworded ∨ l = l' := ho
    exact congrArg (fun l => ofOutcome (.error l)) (hl.resolve_left hreworded)
  all_goals exact ho.elim

variable (hok : Blind ok moved reworded) (hsetting : setting.Pairs (Variant ok reworded) setting')
include hok hsetting

theorem build (hg : Variant ok reworded g g') {w w' : World Heap}
    (hw : Together ok reworded placed w w') :
    (build setting (probeWith apply) g w).Meets (Variant ok reworded)
      (Together ok reworded placed) (¬moved) extra
      fun m => Grammar.build setting' (probeWith (apply' m)) g' w' :=
  build_variant hok.toStable hsetting (fun _ _ => id) together_shares.accommodates
    (fun {_ _ text} hprobe _ _ _ _ _ hq hw => h.probe (hok.probeless hprobe) hq text hw) hg w w' hw

variable (hmoved : ¬moved → source = source' ∧ k = 0) (hplaced : placed → k = 0)
include hmoved hplaced

theorem buildThen (hg : Variant ok reworded g g') :
    (displaced source source' k reworded (Together ok reworded placed) (¬moved) extra).Follows
      (buildThen setting apply g) fun m => buildThen setting' (apply' m) g' := by
  rw [follows_abreast]
  intro base s t t' w w' ht ha hw
  exact (h.build hok hsetting hg hw).next (fun p p' w w' hp hw =>
    follows_abreast.mp (h hmoved hplaced hp) base s t t' w w' ht ha hw) fun _ _ => id

theorem force (id : ℕ) :
    (displaced source source' k reworded (Together ok reworded placed) (¬moved) extra).Follows
      (force setting apply id) fun m => force setting' (apply' m) id := by
  rw [follows_abreast]
  intro base s t t' w w' ht ha hw
  exact force_meets together_shares (fun hg hw => h.build hok hsetting hg hw)
    (fun hg hw => follows_abreast.mp (h hmoved hplaced hg) base s t t' _ _ ht ha hw)
    ⟨rfl, ht, ha, .inr rfl⟩ id hw

end

end GoAbreast

/-- **Variants go abreast**: from streams that are displaced, if nothing looks at where they
are, and with other messages, if nothing makes values of them. -/
theorem eval_variant (hok : Blind ok moved reworded)
    (hsetting : setting.Pairs (Variant ok reworded) setting')
    (hextra : reworded → extra = Filter.atTop) (n : ℕ) :
    GoAbreast ok moved reworded extra (eval setting n) fun m => eval setting' (n + m) := by
  induction n with
  | zero =>
    intro source source' k placed g g' _ _ _
    refine .starved (fun hexact => ?_) (alone_of_isEmpty _)
    exact hexact.mono fun m hm => by rw [hm]; rfl
  | succ n ih =>
    intro source source' k placed g g' hmoved hplaced hg
    simp only [Nat.add_right_comm n 1]
    induction hg with
    | @akin R g g' h parts here here' _ =>
      have hg : Variant ok reworded g g' := .akin h parts here here'
      cases h with
      | node h =>
        have hparts : (displaced source source' k reworded (Together ok reworded placed) (¬moved)
            extra).PartsFollow R R (Grammar.parts setting (eval setting n) n)
            (fun m => Grammar.parts setting' (eval setting' (n + m)) (n + m)) g' :=
          { apply := fun hp => ih hmoved hplaced (parts _ _ hp)
            chosen := fun hp => ih.buildThen hok hsetting hmoved hplaced (parts _ _ hp)
            nested := fun _ hp => nestedRun_displaced (fun text tag tag' htag =>
              ih (fun hm => ⟨by rw [htag (hmoved hm).1], rfl⟩) (fun _ => rfl) (parts _ _ hp)) _
            written := ⟨_, fun _ => hsetting.written, fun _ _ => congrArg _⟩
            rounds := fun _ => rfl }
        refine layer_follows displaced_lawful hparts h (displaced_admits ?_)
          (escapes_of_isEmpty _ g')
        by_cases hm : moved
        · exact .inl (hok.placeless here' hm)
        · exact .inr ⟨(hmoved hm).1, (hmoved hm).2, hm⟩
      | cell id => exact deferred_displaced hplaced (ih.force hok hsetting hmoved hplaced id)
      | _ => exact ih.buildThen hok hsetting hmoved hplaced hg
    | @left hreworded g p g' hg h _ =>
      obtain ⟨f, hlayer⟩ := hg.layer_eq
      obtain rfl := hextra hreworded
      have hp := follows_succ_iff.mpr (ih hmoved hplaced h)
      simp only [eval, hlayer]
      exact mapMessages_left hp fun _ _ _ => .inl hreworded
    | @right hreworded g g' p' hg _ ih' =>
      obtain ⟨f, hlayer⟩ := hg.layer_eq
      obtain rfl := hextra hreworded
      simp only [eval, hlayer]
      exact mapMessages_right (follows_succ_iff.mp ih') fun _ _ _ => .inl hreworded

end Grammar

end Descent
