import Descent.Proofs.Diary
import Descent.Proofs.Streams.Safety

/-! Evaluation that keeps a diary.

`watched` is the evaluation of a grammar that was built, in a world with a diary in
place of the heap. It makes an entry where a cell is applied within the limits, and
around the building of its definition. Otherwise it does what evaluation does, and it
does it in lockstep: with the same replies, in a heap that is the same, and with a diary
that stays accurate (`eval_watched`). Every application leaves the cells that are being
built as they were. -/
namespace Descent
open Descent.Grammar Descent.Coupling

/-- Goes on with the value of a computation that is done, or puts the world in order
after a fault. -/
def Result.nextOr {ω β γ : Type} (r : Result ω β) (f : ω → ω) (k : β → ω → Result ω γ) :
    Result ω γ :=
  match r with
  | .done b w => k b w
  | .fault cause w => .fault cause (f w)
  | .outOfFuel => .outOfFuel

namespace Grammar

/-- Does the computations in order. -/
def inOrder {ω : Type} : List (ω → Result ω Grammar) → ω → Result ω (List Grammar)
  | [], w => .done [] w
  | r :: rs, w => (r w).next fun p w => (inOrder rs w).next fun ps w => .done (p :: ps) w

/-- Makes an entry. -/
def noting (entry : Entry) (w : World Diary) : World Diary := { w with heap := w.heap.note entry }

/-- A new cell in place of a deferred parser. -/
def allocateWatched (c : Cell) (w : World Diary) : Result (World Diary) Grammar :=
  .done (.cell w.heap.heap.cells.size) { w with heap := w.heap.alloc c }

/-- Builds a grammar. -/
def buildWatched (setting : Setting)
    (prober : Grammar → Text → World Diary → Result (World Diary) Value) (g : Grammar)
    (w : World Diary) : Result (World Diary) Grammar :=
  match g with
  | .rule name =>
    .done (match setting.cellOf? name with
      | some id => .cell id
      | none => .fail (noSuchRule name)) w
  | .fresh name =>
    match setting.definition? name with
    | some p => allocateWatched ⟨p, some name, .waiting⟩ w
    | none => .done (.fail (noSuchRule name)) w
  | .lazy p => allocateWatched ⟨p, none, .waiting⟩ w
  | .probe p text =>
    (buildWatched setting prober p w).next fun p w =>
      (prober p text w).next fun v w => .done (.succeed v) w
  | g =>
    (inOrder (g.children.attach.map fun p => buildWatched setting prober p.1) w).next
      fun ps w => .done (g.rebuild ps) w
termination_by sizeOf g
decreasing_by
  · exact sizeOf_child (List.mem_singleton_self p)
  · exact sizeOf_child p.2

/-- How grammars are applied by probes. -/
def probeWatched (apply : Grammar → Parser (World Diary) Value Value) (g : Grammar) (text : Text)
    (w : World Diary) : Result (World Diary) Value :=
  (apply g .null (Stream.start ⟨text, 0⟩) w).next fun reply w => .done (ofOutcome reply.outcome) w

/-- Builds a grammar and applies what was built. -/
def thenWatched (setting : Setting) (apply : Grammar → Parser (World Diary) Value Value)
    (g : Grammar) : Parser (World Diary) Value Value := fun s t w =>
  (buildWatched setting (probeWatched apply) g w).next fun g w => apply g s t w

/-- Applies what is in a cell, which is built first if it waits. -/
def forceWatched (setting : Setting) (apply : Grammar → Parser (World Diary) Value Value)
    (id : ℕ) : Parser (World Diary) Value Value := fun s t w =>
  match w.heap.heap.cells[id]? with
  | some ⟨_, _, .built g⟩ => apply g s t (noting (.applied id false) w)
  | some ⟨definition, owner, .waiting⟩ =>
    let w := noting (.applied id false) w
    (buildWatched setting (probeWatched apply) definition
        { w with heap := w.heap.takeCell id owner }).nextOr (noting (.broken id))
      fun g w => apply g s t { w with heap := w.heap.fill id g }
  | _ => Parser.reject s t [underConstruction] (noting (.applied id true) w)

/-- The parts of a grammar, when `apply` applies a grammar that was built. -/
def partsWatched (setting : Setting) (apply : Grammar → Parser (World Diary) Value Value)
    (rounds : ℕ) : Parts (World Diary) where
  apply
  chosen := thenWatched setting apply
  recursive
    | .cell id => Parser.deferred (forceWatched setting apply id)
    | g => thenWatched setting apply g
  nested config p := Parser.nestedRun config (apply p)
  written := setting.written
  rounds

/-- The parser of a grammar that was built, which keeps a diary. -/
def watched (setting : Setting) : (fuel : ℕ) → Grammar → Parser (World Diary) Value Value
  | 0, _ => fun _ _ _ => .outOfFuel
  | n + 1, g => layer (partsWatched setting (watched setting n) n) g

variable {setting : Setting} {ok : Grammar → Prop} {h : Heap} {ρ : List ℕ}

theorem buildWatched_eq {prober : Grammar → Text → World Diary → Result (World Diary) Value}
    {g : Grammar} (hg : ¬g.Recursive) (w : World Diary) :
    buildWatched setting prober g w =
      (inOrder (g.children.map (buildWatched setting prober)) w).next
        fun ps w => .done (g.rebuild ps) w := by
  rw [buildWatched.eq_def]
  cases g <;> first
    | exact (hg trivial).elim
    | simp only [List.map_attach_eq_pmap, List.pmap_eq_map]

end Grammar

theorem Result.nextOr_id {ω β γ : Type} (r : Result ω β) (k : β → ω → Result ω γ) :
    r.nextOr id k = r.next k := by cases r <;> rfl

/-- Going on from results that match, with what is known of the left one. -/
theorem Result.Matches.nextOr {ω ω' β γ : Type} {W W₂ : ω → ω' → Prop} {r : Result ω β}
    {r' : Result ω' β} {done : β → ω → Prop} {fault : ω → Prop} {f : ω' → ω'}
    {k : β → ω → Result ω γ} {k' : β → ω' → Result ω' γ} (h : r.Matches W (pure 0) fun _ => r')
    (hends : r.Ends done fault True)
    (hk : ∀ b w w', W w w' → done b w → (k b w).Matches W₂ (pure 0) fun _ => k' b w')
    (hfault : ∀ w w', W w w' → fault w → W₂ w (f w')) :
    (r.next k).Matches W₂ (pure 0) fun _ => r'.nextOr f k' := by
  cases r with
  | done b w =>
    obtain ⟨w', hd, hw⟩ := h
    obtain rfl := Filter.eventually_pure.mp hd
    exact hk b w w' hw hends
  | fault c w =>
    obtain ⟨w', hd, hw⟩ := h
    obtain rfl := Filter.eventually_pure.mp hd
    exact .fault (hfault w w' hw hends)
  | outOfFuel =>
    have hd := h (Filter.eventually_pure.mpr rfl)
    obtain rfl := Filter.eventually_pure.mp hd
    exact fun _ => .of_forall fun _ => rfl

theorem Result.Matches.next_ends {ω ω' β γ : Type} {W : ω → ω' → Prop} {r : Result ω β}
    {r' : Result ω' β} {done : β → ω → Prop} {fault : ω → Prop} {k : β → ω → Result ω γ}
    {k' : β → ω' → Result ω' γ} (h : r.Matches W (pure 0) fun _ => r')
    (hends : r.Ends done fault True)
    (hk : ∀ b w w', W w w' → done b w → (k b w).Matches W (pure 0) fun _ => k' b w') :
    (r.next k).Matches W (pure 0) fun _ => r'.next k' := by
  have hor := h.nextOr (f := id) hends hk fun _ _ hw _ => hw
  rwa [Result.nextOr_id] at hor

namespace Grammar
variable {setting : Setting} {ok : Grammar → Prop} {h : Heap} {ρ : List ℕ}

/-- The diary is of the heap, which has grown from `h`, while the cells `ρ` are built. -/
structure Watching (setting : Setting) (ok : Grammar → Prop) (h : Heap) (ρ : List ℕ) (heap : Heap)
    (d : Diary) : Prop where
  heap_eq : d.heap = heap
  accurate : d.Accurate
  running : Entry.running d.entries = ρ
  grown : Grown setting ok h heap

theorem Watching.of_grown {h' heap : Heap} {d : Diary} (hd : Watching setting ok h' ρ heap d)
    (hh : h.Extends h') : Watching setting ok h ρ heap d :=
  { hd with grown := ⟨hd.grown.sound, hh.trans hd.grown.extends_⟩ }

/-- Evaluation goes along with evaluation that keeps a diary. -/
def Watches (setting : Setting) (ok : Grammar → Prop)
    (apply : Grammar → Parser (World Heap) Value Value)
    (watch : Grammar → Parser (World Diary) Value Value) : Prop :=
  ∀ h ρ g g₀, Stands setting h g g₀ → All ok g₀ →
    (onValid (World.Beside (Watching setting ok h ρ)) False True).Follows (apply g)
      fun _ => watch g

namespace Watches
variable {apply : Grammar → Parser (World Heap) Value Value}
variable {watch : Grammar → Parser (World Diary) Value Value}

/-- In worlds that are there. -/
theorem along (hT : Watches setting ok apply watch) {w : World Heap} {w' : World Diary}
    (hw : w.Beside (Watching setting ok h ρ) w') {g g₀ : Grammar}
    (hg : Stands setting w.heap g g₀) (hok : All ok g₀) (s : Value) {t : Stream} (ht : t.Valid) :
    (apply g s t w).Matches (World.Beside (Watching setting ok h ρ)) (pure 0)
      fun _ => watch g s t w' :=
  (follows_guarded.mp (hT w.heap ρ g g₀ hg hok) t s t w w' (.refl ht)
    ⟨hw.1, { hw.2 with grown := .refl hw.2.grown.sound }⟩).1.mono
      fun _ _ hw₁ => ⟨hw₁.1, hw₁.2.of_grown hw.2.grown.extends_⟩

theorem probe (hT : Watches setting ok apply watch) {w : World Heap} {w' : World Diary}
    (hw : w.Beside (Watching setting ok h ρ) w') {g g₀ : Grammar}
    (hg : Stands setting w.heap g g₀) (hok : All ok g₀) (text : Text) :
    (probeWith apply g text w).Matches (World.Beside (Watching setting ok h ρ)) (pure 0)
      fun _ => probeWatched watch g text w' :=
  (hT.along hw hg hok .null (Stream.start_valid ⟨text, 0⟩)).next (fun _ _ _ hw => .done hw)
    fun _ _ => id

end Watches

/-- Where the left machine keeps its streams valid, only what the results are counts. -/
theorem follows_watching {p checked : Parser (World Heap) Value Value}
    {q : Parser (World Diary) Value Value}
    (hp : (alike setting ok False True h).Follows p fun _ => checked)
    (hmatches : ∀ s t w w', t.Valid → w.Beside (Watching setting ok h ρ) w' →
      (p s t w).Matches (World.Beside (Watching setting ok h ρ)) (pure 0) fun _ => q s t w') :
    (onValid (World.Beside (Watching setting ok h ρ)) False True).Follows p fun _ => q := by
  rw [follows_guarded]
  exact fun base s t w w' ha hw => ⟨hmatches s t w w' ha.valid hw,
    (follows_alike.mp hp s t w ha.valid hw.2.grown).2.mono (fun _ _ hd => ha.trans hd.1)
      fun _ _ => trivial⟩

section
variable {n : ℕ} (hok : Permitted ok False True)
include hok

/-- Building goes along with building that keeps a diary. -/
theorem build_watched (hT : Watches setting ok (eval setting n) (watched setting n)) {g : Grammar}
    (hg : All ok g) : ∀ {w : World Heap} {w' : World Diary},
      w.Beside (Watching setting ok h ρ) w' →
      (build setting (probeWith (eval setting n)) g w).Matches
        (World.Beside (Watching setting ok h ρ)) (pure 0)
        fun _ => buildWatched setting (probeWatched (watched setting n)) g w' := by
  -- what is built stands for the grammar, in a heap that grows
  have hends {g : Grammar} (hg : All ok g) {w : World Heap} {w' : World Diary}
      (hw : w.Beside (Watching setting ok h ρ) w') :=
    (build_checks (eval_checks hok n) hok.unbuilt hg w hw.2.grown.sound).2
  induction g using children_induction with
  | step g ih =>
    intro w w' hw
    have hnew {c : Cell} (hc : c.status = .waiting)
        (hgrown : Grown setting ok w.heap (w.heap.alloc c)) :
        (allocate c w).Matches (World.Beside (Watching setting ok h ρ)) (pure 0)
          fun _ => allocateWatched c w' := by
      obtain ⟨l, heap⟩ := w
      obtain ⟨hledger, rfl, haccurate, hrunning, hh⟩ := hw
      exact .done ⟨hledger, rfl, haccurate.alloc hc, hrunning, hh.trans hgrown⟩
    by_cases hrec : g.Recursive
    · cases g with
      | rule name =>
        simp only [build, buildWatched]
        exact .done hw
      | fresh name =>
        have hgrown := hends hg hw
        simp only [build, buildWatched] at hgrown ⊢
        cases hdef : setting.definition? name with
        | none => exact .done hw
        | some p =>
          rw [hdef] at hgrown
          exact hnew rfl hgrown.1
      | lazy p =>
        have hgrown := hends hg hw
        simp only [build, buildWatched] at hgrown ⊢
        exact hnew rfl hgrown.1
      | cell id => exact (hok.unbuilt _ hg.here).elim
      | probe p text =>
        have hp := List.mem_singleton_self p
        simp only [build, buildWatched]
        refine (ih p hp (hg.child hp) hw).next_ends (hends (hg.child hp) hw)
          fun p' w₁ w₁' hw₁ hp' => ?_
        exact (hT.probe hw₁ hp'.2 (hg.child hp) text).next (fun v w₂ w₂' hw₂ => .done hw₂)
          fun _ _ => id
      | _ => exact hrec.elim
    · have hall (ps : List Grammar) (hps : ∀ p ∈ ps, p ∈ g.children) {w : World Heap}
          {w' : World Diary} (hw : w.Beside (Watching setting ok h ρ) w') :
          (buildAll setting (probeWith (eval setting n)) ps w).Matches
            (World.Beside (Watching setting ok h ρ)) (pure 0) fun _ =>
              inOrder (ps.map (buildWatched setting (probeWatched (watched setting n)))) w' := by
        induction ps generalizing w w' with
        | nil => exact .done hw
        | cons p ps ihps =>
          simp only [buildAll, List.map_cons, inOrder]
          refine (ih p (hps p List.mem_cons_self) (hg.child (hps p List.mem_cons_self)) hw).next
            (fun p' w₁ w₁' hw₁ => ?_) fun _ _ => id
          exact (ihps (fun q hq => hps q (List.mem_cons_of_mem _ hq)) hw₁).next
            (fun ps' w₂ w₂' hw₂ => .done hw₂) fun _ _ => id
      simp only [build_eq hrec, buildWatched_eq hrec]
      exact (hall g.children (fun _ => id) hw).next (fun ps w₁ w₁' hw₁ => .done hw₁) fun _ _ => id

namespace Watches
variable (hT : Watches setting ok (eval setting n) (watched setting n))
include hT

theorem force {id : ℕ} {p : Grammar} (hid : h.definition? id = some p) :
    (onValid (World.Beside (Watching setting ok h ρ)) False True).Follows
      (force setting (eval setting n) id) fun _ => forceWatched setting (watched setting n) id := by
  refine follows_watching ((eval_checks hok n).force hok.unbuilt hid) fun s t w w' ht hw => ?_
  obtain ⟨l, heap⟩ := w
  obtain ⟨l', d⟩ := w'
  obtain ⟨hledger, hheap, haccurate, hrunning, hgrown⟩ := hw
  obtain rfl : l = l' := hledger
  obtain rfl : d.heap = heap := hheap
  obtain ⟨⟨q, owner, status⟩, hc, hq⟩ := Option.map_eq_some_iff.mp (hgrown.extends_ id p hid)
  obtain rfl : q = p := hq
  have hdefined := hgrown.sound.defined id _ hc
  have hnoted {refused : Bool} (happlied : (d.note (.applied id refused)).Accurate) :
      World.Beside (Watching setting ok h ρ) ⟨l, d.heap⟩ (noting (.applied id refused) ⟨l, d⟩) :=
    ⟨rfl, rfl, happlied, hrunning, hgrown⟩
  have hserved (hstatus : status ≠ .taken) : (d.note (.applied id false)).Accurate :=
    haccurate.apply hc false (by simp [hstatus])
  unfold Grammar.force forceWatched
  dsimp only at hc
  rw [hc]
  cases status with
  | built g =>
    exact hT.along (hnoted (hserved nofun)) (hgrown.sound.built id _ g hc rfl) hdefined s ht
  | taken => exact .done (hnoted (haccurate.apply hc true (by simp)))
  | waiting =>
    have happlied := hserved nofun
    have htaken : World.Beside (Watching setting ok h (id :: ρ)) ⟨l, d.heap.takeCell id owner⟩
        ⟨l, (d.note (.applied id false)).takeCell id owner⟩ :=
      ⟨rfl, rfl, happlied.takeCell hc rfl ⟨_, rfl⟩, congrArg (id :: ·) hrunning,
        ⟨hgrown.sound.takeCell id owner, hgrown.extends_.trans (.takeCell _ _ _)⟩⟩
    refine (build_watched hok hT hdefined htaken).nextOr
      (build_checks (eval_checks hok n) hok.unbuilt hdefined _ htaken.2.grown.sound).2 ?_ ?_
    · -- it was built, and what was built is applied
      intro g w w' hw hg
      have hdef : w.heap.definition? id = some q :=
        hg.1.extends_ _ _ (Heap.Extends.takeCell _ _ _ _ _ (hgrown.extends_ id q hid))
      obtain ⟨l₁, heap₁⟩ := w
      obtain ⟨l₁', d₁⟩ := w'
      obtain ⟨hledger, hheap, haccurate₁, hrunning₁, hgrown₁⟩ := hw
      obtain rfl : l₁ = l₁' := hledger
      obtain rfl : d₁.heap = heap₁ := hheap
      have hfilled : World.Beside (Watching setting ok h ρ)
          ⟨l₁, d₁.heap.setStatus id (.built g)⟩ ⟨l₁, d₁.fill id g⟩ :=
        ⟨rfl, rfl, haccurate₁.fill g (by rw [hrunning₁]; rfl), congrArg List.tail hrunning₁,
          ⟨hgrown₁.sound.fill hdef hg.2, hgrown₁.extends_.trans (.setStatus _ _ _)⟩⟩
      exact hT.along hfilled (hg.2.mono (.setStatus _ _ _)) hdefined s ht
    · intro w w' hw _
      exact ⟨hw.1, hw.2.heap_eq, hw.2.accurate.break_ (by rw [hw.2.running]; rfl),
        congrArg List.tail hw.2.running, hw.2.grown⟩

theorem buildThen {p : Grammar} (hp : All ok p) :
    (onValid (World.Beside (Watching setting ok h ρ)) False True).Follows
      (buildThen setting (eval setting n) p)
      fun _ => thenWatched setting (watched setting n) p := by
  refine follows_watching ((eval_checks hok n).buildThen hok.unbuilt hp) fun s t w w' ht hw => ?_
  exact (build_watched hok hT hp hw).next_ends
    (build_checks (eval_checks hok n) hok.unbuilt hp w hw.2.grown.sound).2
    fun g w₁ w₁' hw₁ hg => hT.along hw₁ hg.2 hp s ht

end Watches

/-- **Evaluation goes along with evaluation that keeps a diary**, and the diary stays
accurate. -/
theorem eval_watched (n : ℕ) : Watches setting ok (eval setting n) (watched setting n) := by
  induction n with
  | zero =>
    exact fun h ρ g g₀ _ _ => .starved (fun _ => .of_forall fun _ => rfl) (alone_of_isEmpty _)
  | succ n ih =>
    intro h ρ g g₀ hg hall
    cases hg with
    | cell hid => exact deferred_guarded (ih.force hok hid)
    | missing hg hbody => exact Follows.fail onValid_lawful _
    | probe => exact Follows.succeed _
    | @zipped _ _ ps hrec hlength hchildren =>
      have hlike := Stands.like hrec hlength hchildren (fun _ => hall.child) fun _ => hall.pick
      have hparts : (onValid (World.Beside (Watching setting ok h ρ)) False True).PartsFollow
          (fun p q => p = q ∧ ∃ p₀, Stands setting h p p₀ ∧ All ok p₀)
          (fun p q => p = q ∧ ∃ p₀, p = p₀ ∧ All ok p) (parts setting (eval setting n) n)
          (fun m => partsWatched setting (watched setting n) (n + m)) (g₀.rebuild ps) :=
        { apply := fun ⟨heq, _, hp, hall⟩ => heq ▸ ih h ρ _ _ hp hall
          chosen := fun ⟨heq, _, _, hall⟩ => heq ▸ ih.buildThen hok hall
          nested := fun _ ⟨heq, _, hp, hall⟩ => heq ▸ nestedRun_onValid (ih h ρ _ _ hp hall) _
          written := ⟨_, fun _ => rfl, fun _ _ => congrArg _⟩
          rounds := fun _ => rfl }
      exact (layer_follows onValid_lawful hparts hlike.self
        (guarded_equal.admits (fun _ _ => trivial) fun _ base t ha => ha.start id)
        (escapes_of_isEmpty _ _)).congr (Filter.eventually_pure.mpr rfl)

end

end Grammar

end Descent
