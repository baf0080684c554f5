import Descent.Proofs.Session
import Descent.Proofs.Streams

/-! Streams are safe.

Parsers that are given a valid stream leave a valid stream of the same source, and do
not go back unless they are told to. So a move or a slice is never out of range: an
evaluation in which all of them are checked is the evaluation itself, and only moves by
hand may fault (`Session.streams_safe`). Cells are where the argument needs an
invariant: what they hold stands for a definition that was written, before and after
whatever is applied (`eval_checks`). -/
namespace Descent
open Descent.Grammar Descent.Coupling

/-- The two computations are one, and it ends as it should, if it ends. -/
def Result.Sure {ω β : Type} (r' r : Result ω β) (done : β → ω → Prop) (fault : ω → Prop) : Prop :=
  r' = r ∧ r.Ends done fault True

namespace Result.Sure
variable {ω β γ : Type} {r r' : Result ω β} {done : β → ω → Prop} {fault fault₂ : ω → Prop}

theorem next {k k' : β → ω → Result ω γ} {done₂ : γ → ω → Prop} (h : Sure r' r done fault)
    (hk : ∀ b w, r = .done b w → done b w → Sure (k' b w) (k b w) done₂ fault₂)
    (hfault : ∀ w, fault w → fault₂ w) : Sure (r'.next k') (r.next k) done₂ fault₂ := by
  obtain ⟨rfl, hends⟩ := h
  cases r' with
  | done b w => exact hk b w rfl hends
  | fault f w => exact ⟨rfl, hfault w hends⟩
  | outOfFuel => exact ⟨rfl, trivial⟩

theorem mono {done₂ : β → ω → Prop} (h : Sure r' r done fault)
    (hdone : ∀ b w, done b w → done₂ b w) (hfault : ∀ w, fault w → fault₂ w) :
    Sure r' r done₂ fault₂ := ⟨h.1, h.2.mono hdone hfault⟩

end Result.Sure

namespace Grammar
variable {setting : Setting} {ok : Grammar → Prop} {forward faults : Prop} {h h' h'' : Heap}

/-- The parser of a grammar that was built, which checks every move and every slice. -/
def checkedEval (setting : Setting) : (fuel : ℕ) → Grammar → Parser (World Heap) Value Value
  | 0, _ => fun _ _ _ => .outOfFuel
  | n + 1, g => checkedLayer (parts setting (checkedEval setting n) n) g

/-- All nodes of the main grammar and of the rules are such. -/
structure Throughout (ok : Grammar → Prop) (setting : Setting) (main : Grammar) : Prop where
  main : All ok main
  rules : ∀ entry ∈ setting.rules, All ok entry.2

theorem Throughout.and_imp {ok₂ : Grammar → Prop} {P : Prop} {main : Grammar}
    (h : Throughout ok setting main) (h₂ : P → Throughout ok₂ setting main) :
    Throughout (fun g => ok g ∧ (P → ok₂ g)) setting main :=
  ⟨h.main.and_imp fun p => (h₂ p).main,
    fun entry he => (h.rules entry he).and_imp fun p => (h₂ p).rules entry he⟩

/-- The node does not go back to the beginning. -/
def Onward : Grammar → Prop
  | .rewind => False
  | _ => True

/-- The node does not move by hand. -/
def Handless : Grammar → Prop
  | .advance _ => False
  | _ => True

/-- Nodes that were written by hand, and go back or fault only where that is allowed. -/
structure Permitted (ok : Grammar → Prop) (forward faults : Prop) : Prop where
  unbuilt : ∀ g, ok g → Unbuilt g
  rule : ∀ name, ok (.rule name)
  forward : ok .rewind → ¬forward
  faults : ∀ n, ok (.advance n) → faults

/-- A sound heap with the cells of the first and perhaps more. -/
structure Grown (setting : Setting) (ok : Grammar → Prop) (h h' : Heap) : Prop where
  sound : Sound setting ok h'
  extends_ : h.Extends h'

theorem Grown.refl (hh : Sound setting ok h) : Grown setting ok h h := ⟨hh, .refl h⟩

theorem Grown.trans (hh : Grown setting ok h h') (hh' : Grown setting ok h' h'') :
    Grown setting ok h h'' := ⟨hh'.sound, hh.extends_.trans hh'.extends_⟩

/-- One world, whose heap has grown from `h`. -/
def Alike (setting : Setting) (ok : Grammar → Prop) (h h₁ h₂ : Heap) : Prop :=
  h₁ = h₂ ∧ Grown setting ok h h₁

/-- Machines that do the same from valid streams on, while the heap grows from `h`. -/
abbrev alike (setting : Setting) (ok : Grammar → Prop) (forward faults : Prop) (h : Heap) :
    Coupling (World Heap) (World Heap) :=
  onValid (World.Beside (Alike setting ok h)) forward faults

theorem matches_alike {β : Type} {r r' : Result (World Heap) β} :
    r.Matches (World.Beside (Alike setting ok h)) (pure 0) (fun _ => r') ↔
      r'.Sure r (fun _ w => Grown setting ok h w.heap) fun w => Grown setting ok h w.heap := by
  have heq {w w' : World Heap} :
      w.Beside (Alike setting ok h) w' ↔ w' = w ∧ Grown setting ok h w.heap := by
    constructor
    · rintro ⟨hledger, hheap, hgrown⟩
      exact ⟨World.Beside.eq ⟨hledger, hheap⟩, hgrown⟩
    · rintro ⟨rfl, hgrown⟩
      exact ⟨rfl, rfl, hgrown⟩
  cases r with
  | done b w => simp [Result.Matches, Result.Sure, Result.Ends, heq]
  | fault f w => simp [Result.Matches, Result.Sure, Result.Ends, heq]
  | outOfFuel => simp [Result.Matches, Result.Sure, Result.Ends]

theorem follows_alike {p checked : Parser (World Heap) Value Value} :
    (alike setting ok forward faults h).Follows p (fun _ => checked) ↔
      ∀ s t w, t.Valid → Grown setting ok h w.heap → (checked s t w).Sure (p s t w)
        (fun reply w' => t.Leads forward reply.stream ∧ Grown setting ok h w'.heap)
        fun w' => faults ∧ Grown setting ok h w'.heap := by
  simp only [follows_guarded, matches_alike]
  constructor
  · intro hp s t w ht hw
    obtain ⟨⟨heq, hgrown⟩, hleads⟩ := hp t s t w w (.refl ht) ⟨rfl, rfl, hw⟩
    exact ⟨heq, hleads.and hgrown⟩
  · intro hp base s t w w' ha hw
    obtain rfl := World.Beside.eq ⟨hw.1, hw.2.1⟩
    obtain ⟨heq, hends⟩ := hp s t _ ha.valid hw.2.2
    exact ⟨⟨heq, hends.mono (fun _ _ => And.right) fun _ => And.right⟩,
      hends.mono (fun _ _ hd => ha.trans hd.1) fun _ => And.left⟩

/-- What stands for a grammar does the same with its moves checked. -/
def Checks (setting : Setting) (ok : Grammar → Prop) (forward faults : Prop)
    (apply checked : Grammar → Parser (World Heap) Value Value) : Prop :=
  ∀ h g g₀, Stands setting h g g₀ → All ok g₀ →
    (alike setting ok forward faults h).Follows (apply g) fun _ => checked g

namespace Checks
variable {apply checked : Grammar → Parser (World Heap) Value Value}

/-- In a world that is there. -/
theorem along (hT : Checks setting ok forward faults apply checked) {w : World Heap}
    (hsound : Sound setting ok w.heap) {g g₀ : Grammar} (hg : Stands setting w.heap g g₀)
    (hok : All ok g₀) (s : Value) {t : Stream} (ht : t.Valid) :
    (checked g s t w).Sure (apply g s t w)
      (fun reply w' => t.Leads forward reply.stream ∧ Grown setting ok w.heap w'.heap)
      fun w' => faults ∧ Grown setting ok w.heap w'.heap :=
  follows_alike.mp (hT w.heap g g₀ hg hok) s t w ht (.refl hsound)

/-- A probe finds the same, from the beginning of its text. -/
theorem probe (hT : Checks setting ok forward faults apply checked) {w : World Heap}
    (hsound : Sound setting ok w.heap) {g g₀ : Grammar} (hg : Stands setting w.heap g g₀)
    (hok : All ok g₀) (text : Text) :
    (probeWith checked g text w).Sure (probeWith apply g text w)
      (fun _ w' => Grown setting ok w.heap w'.heap)
      fun w' => faults ∧ Grown setting ok w.heap w'.heap :=
  (hT.along hsound hg hok .null (Stream.start_valid ⟨text, 0⟩)).next
    (fun _ _ _ hd => ⟨rfl, hd.2⟩) fun _ => id

end Checks

/-- **Building makes what stands for the grammar**, in a heap that grows, also when probes
are applied on the way. -/
theorem build_checks {n : ℕ} {checked : Grammar → Parser (World Heap) Value Value}
    (hT : Checks setting ok forward faults (eval setting n) checked)
    (hunbuilt : ∀ g, ok g → Unbuilt g) {g : Grammar} (hg : All ok g) :
    ∀ w : World Heap, Sound setting ok w.heap →
      (build setting (probeWith checked) g w).Sure (build setting (probeWith (eval setting n)) g w)
        (fun g' w' => Grown setting ok w.heap w'.heap ∧ Stands setting w'.heap g' g)
        fun w' => faults ∧ Grown setting ok w.heap w'.heap := by
  induction g using children_induction with
  | step g ih =>
    intro w hw
    have hnew {p : Grammar} (owner : Option String) (hp : All ok p)
        (howner : ∀ name, owner = some name → ok (.fresh name)) (hbody : body? setting g = some p) :
        (allocate ⟨p, owner, .waiting⟩ w).Sure (allocate ⟨p, owner, .waiting⟩ w)
          (fun g' w' => Grown setting ok w.heap w'.heap ∧ Stands setting w'.heap g' g)
          fun w' => faults ∧ Grown setting ok w.heap w'.heap :=
      ⟨rfl, ⟨hw.alloc hp howner rfl, .alloc _ _⟩, Sound.stands_alloc owner hbody⟩
    by_cases hrec : g.Recursive
    · cases g with
      | rule name =>
        simp only [build]
        refine ⟨rfl, .refl hw, ?_⟩
        cases hcell : setting.cellOf? name with
        | none =>
          exact .missing (g := .rule name) trivial (Setting.definition?_of_cellOf?_none hcell)
        | some id =>
          obtain ⟨entry, hentry, hdef⟩ := Setting.definition?_of_cellOf? hcell
          exact .cell (hw.rules id entry hentry) hdef
      | fresh name =>
        simp only [build]
        cases hdef : setting.definition? name with
        | none => exact ⟨rfl, .refl hw, .missing (g := .fresh name) trivial hdef⟩
        | some p =>
          refine hnew (some name) (hw.all_definition hdef) (fun name' hname => ?_) hdef
          cases hname
          exact hg.here
      | lazy p =>
        exact hnew none (hg.child (List.mem_singleton_self p)) (fun _ hname => by cases hname) rfl
      | cell id => exact (hunbuilt _ hg.here).elim
      | probe p text =>
        have hp := List.mem_singleton_self p
        simp only [build]
        refine (ih p hp (hg.child hp) w hw).next (fun p' w₁ _ hp' => ?_) fun _ => id
        refine (hT.probe hp'.1.sound hp'.2 (hg.child hp) text).next (fun v w₂ hfound hgrown => ?_)
          fun _ hgrown => ⟨hgrown.1, hp'.1.trans hgrown.2⟩
        exact ⟨rfl, hp'.1.trans hgrown, .probe hp'.1.sound.built hp'.1.sound.rules hp'.2 hfound⟩
      | _ => exact hrec.elim
    · -- the children one after another, what stands for the earlier ones staying so
      have hall (ps : List Grammar) (hps : ∀ p ∈ ps, p ∈ g.children) (w : World Heap)
          (hw : Sound setting ok w.heap) :
          (buildAll setting (probeWith checked) ps w).Sure
            (buildAll setting (probeWith (eval setting n)) ps w)
            (fun ps' w' => Grown setting ok w.heap w'.heap ∧
              List.Forall₂ (Stands setting w'.heap) ps' ps)
            fun w' => faults ∧ Grown setting ok w.heap w'.heap := by
        induction ps generalizing w with
        | nil => exact ⟨rfl, .refl hw, .nil⟩
        | cons p ps ihps =>
          have hp := hps p List.mem_cons_self
          simp only [buildAll]
          refine (ih p hp (hg.child hp) w hw).next (fun p' w₁ _ hp' => ?_) fun _ => id
          refine (ihps (fun q hq => hps q (List.mem_cons_of_mem _ hq)) w₁ hp'.1.sound).next
            (fun ps' w₂ _ hps' => ?_) fun _ hgrown => ⟨hgrown.1, hp'.1.trans hgrown.2⟩
          exact ⟨rfl, hp'.1.trans hps'.1, .cons (hp'.2.mono hps'.1.extends_) hps'.2⟩
      simp only [build_eq hrec]
      exact (hall g.children (fun _ => id) w hw).next
        (fun ps w' _ hps => ⟨rfl, hps.1, .node hrec hps.2⟩) fun _ => id

namespace Checks
variable {n : ℕ} {checked : Grammar → Parser (World Heap) Value Value}

theorem force (hT : Checks setting ok forward faults (eval setting n) checked)
    (hunbuilt : ∀ g, ok g → Unbuilt g) {id : ℕ} {p : Grammar} (hid : h.definition? id = some p) :
    (alike setting ok forward faults h).Follows (force setting (eval setting n) id)
      fun _ => force setting checked id := by
  rw [follows_alike]
  intro s t w ht hw
  obtain ⟨⟨q, owner, status⟩, hc, hq⟩ := Option.map_eq_some_iff.mp (hw.extends_ id p hid)
  obtain rfl : q = p := hq
  have hdefined := hw.sound.defined id _ hc
  unfold Grammar.force
  rw [hc]
  cases status with
  | built g =>
    exact (hT.along hw.sound (hw.sound.built id _ g hc rfl) hdefined s ht).mono
      (fun _ _ hd => ⟨hd.1, hw.trans hd.2⟩) fun _ hd => ⟨hd.1, hw.trans hd.2⟩
  | taken => exact ⟨rfl, .refl ht, hw⟩
  | waiting =>
    have htaken : Grown setting ok w.heap (w.heap.takeCell id owner) :=
      ⟨hw.sound.takeCell id owner, .takeCell _ _ _⟩
    refine (build_checks hT hunbuilt hdefined { w with heap := w.heap.takeCell id owner }
      htaken.sound).next (fun g w₁ _ hg => ?_) fun _ hd => ⟨hd.1, hw.trans (htaken.trans hd.2)⟩
    have hdef : w₁.heap.definition? id = some q :=
      hg.1.extends_ _ _ (htaken.extends_ _ _ (hw.extends_ id q hid))
    have hfilled : Grown setting ok w₁.heap (w₁.heap.setStatus id (.built g)) :=
      ⟨hg.1.sound.fill hdef hg.2, .setStatus _ _ _⟩
    have hgrown := hw.trans (htaken.trans (hg.1.trans hfilled))
    exact (hT.along hfilled.sound (hg.2.mono hfilled.extends_) hdefined s ht).mono
      (fun _ _ hd => ⟨hd.1, hgrown.trans hd.2⟩) fun _ hd => ⟨hd.1, hgrown.trans hd.2⟩

theorem buildThen (hT : Checks setting ok forward faults (eval setting n) checked)
    (hunbuilt : ∀ g, ok g → Unbuilt g) {p : Grammar} (hp : All ok p) :
    (alike setting ok forward faults h).Follows (buildThen setting (eval setting n) p)
      fun _ => buildThen setting checked p := by
  rw [follows_alike]
  intro s t w ht hw
  refine (build_checks hT hunbuilt hp w hw.sound).next (fun g w₁ _ hg => ?_)
    fun _ hd => ⟨hd.1, hw.trans hd.2⟩
  exact (hT.along hg.1.sound hg.2 hp s ht).mono
    (fun _ _ hd => ⟨hd.1, hw.trans (hg.1.trans hd.2)⟩)
    fun _ hd => ⟨hd.1, hw.trans (hg.1.trans hd.2)⟩

end Checks

/-- **Evaluation with checks is evaluation**, and keeps streams valid and heaps sound. -/
theorem eval_checks (hok : Permitted ok forward faults) (n : ℕ) :
    Checks setting ok forward faults (eval setting n) (checkedEval setting n) := by
  induction n with
  | zero => exact fun h g g₀ _ _ => .starved (fun _ => .of_forall fun _ => rfl) (alone_of_isEmpty _)
  | succ n ih =>
    intro h g g₀ hg hall
    cases hg with
    | cell hid => exact deferred_guarded (ih.force hok.unbuilt hid)
    | missing hg hbody => exact Follows.fail onValid_lawful _
    | probe => exact Follows.succeed _
    | @zipped _ _ ps hrec hlength hchildren =>
      have hlike := Stands.like hrec hlength hchildren (fun _ => hall.child) fun _ => hall.pick
      -- the node was written, so it is such as is permitted
      have hhere {g : Grammar} (hg : g₀.rebuild ps = g) (heq : Like _ _ g g₀ → g₀ = g) : ok g :=
        heq (hg ▸ hlike) ▸ hall.here
      have hparts : (alike setting ok forward faults h).PartsFollow
          (fun p q => p = q ∧ ∃ p₀, Stands setting h p p₀ ∧ All ok p₀)
          (fun p q => p = q ∧ ∃ p₀, p = p₀ ∧ All ok p) (parts setting (eval setting n) n)
          (fun m => parts setting (checkedEval setting n) (n + m)) (g₀.rebuild ps) :=
        { apply := fun ⟨heq, _, hp, hall⟩ => heq ▸ ih h _ _ hp hall
          chosen := fun ⟨heq, _, _, hall⟩ => heq ▸ ih.buildThen hok.unbuilt hall
          nested := fun _ ⟨heq, _, hp, hall⟩ => heq ▸ nestedRun_onValid (ih h _ _ hp hall) _
          written := ⟨_, fun _ => rfl, fun _ _ => congrArg _⟩
          rounds := fun _ => rfl }
      exact (checkedLayer_follows hparts hlike.self
        (fun hg => hok.forward (hhere hg fun h => by cases h; rfl))
        (fun k hg => hok.faults k (hhere hg fun h => by cases h; rfl))).congr
          (Filter.eventually_pure.mpr rfl)

end Grammar

/-! ### Sessions -/

namespace Session
variable {setting : Setting} {ok : Grammar → Prop} {forward faults : Prop} {main : Grammar}
variable {session : Session}

/-- A session whose cells hold what stands for their definitions. -/
structure WellBuilt (setting : Setting) (ok : Grammar → Prop) (main : Grammar)
    (session : Session) : Prop where
  setting_eq : session.setting = setting
  all : All ok main
  sound : Sound setting ok session.world.heap
  stands : Stands setting session.world.heap session.main main

/-- The parser of a target when every move and every slice is checked. -/
def checkedParser (session : Session) (fuel : ℕ) (target : Target) :
    Parser (World Heap) Value Value :=
  checkedEval session.setting fuel (session.grammar target)

/-- A session that is begun is well built, and does not fault where that is not allowed. -/
theorem start_wellBuilt (hok : Permitted ok forward faults) (h : Throughout ok setting main)
    (fuel : ℕ) : (start fuel setting main).Ends (fun session _ => WellBuilt setting ok main session)
      (fun _ => faults) True :=
  ((build_checks (eval_checks hok fuel) hok.unbuilt h.main setting.initialWorld
    (initialHeap_sound h.rules)).2.mono (fun _ _ => id) fun _ => And.left).next
      fun _ _ hd => ⟨rfl, h.main, hd.1.sound, hd.2⟩

namespace WellBuilt

theorem grow (h : WellBuilt setting ok main session) {w : World Heap}
    (hw : Grown setting ok session.world.heap w.heap) :
    WellBuilt setting ok main { session with world := w } :=
  ⟨h.setting_eq, h.all, hw.sound, h.stands.mono hw.extends_⟩

section
variable (h : WellBuilt setting ok main session) (hok : Permitted ok forward faults)
include h hok

theorem follows (fuel : ℕ) (target : Target) :
    (alike setting ok forward faults session.world.heap).Follows (session.parser fuel target)
      fun _ => session.checkedParser fuel target := by
  have := eval_checks hok fuel _ _ _ (stands_target h.setting_eq h.sound h.stands target)
    (target.written_all h.all hok.rule)
  rwa [Session.parser, Session.checkedParser, h.setting_eq]

theorem run (fuel : ℕ) (target : Target) (config : Config) (s : Value) (source : Source)
    {w : World Heap} (hw : Grown setting ok session.world.heap w.heap) :
    (Parser.run config (session.parser fuel target) s source w).Ends
      (fun _ w' => Grown setting ok session.world.heap w'.heap)
      (fun w' => Grown setting ok session.world.heap w'.heap) True :=
  (matches_alike.mp (run_onValid (h.follows hok fuel target) config s source
    (w := w) ⟨rfl, rfl, hw⟩).1).2

/-- A step leaves a session well built. -/
theorem step (fuel : ℕ) (step : Step) :
    WellBuilt setting ok main (session.step fuel step).2 := by
  have hconclude {r : Result (World Heap) Answer}
      (hr : r.Ends (fun _ w => Grown setting ok session.world.heap w.heap)
        (fun w => Grown setting ok session.world.heap w.heap) True) :
      WellBuilt setting ok main (session.conclude r).2 := by
    cases r with
    | done answer w => exact h.grow hr
    | fault f w => exact h.grow hr
    | outOfFuel => exact h
  cases step with
  | run target config state text twice =>
    refine hconclude ((h.run hok fuel target config _ _ (.refl h.sound)).next fun reply w hw => ?_)
    split
    · exact (h.run hok fuel target config _ _ hw).next fun _ _ => id
    · exact hw
  | apply target state text offset =>
    refine hconclude ?_
    unfold Session.apply
    split
    · exact .refl h.sound
    · next stream hstream =>
      exact ((follows_alike.mp (h.follows hok fuel target) _ stream session.world
        (Stream.advance_valid (Stream.start_valid _) hstream) (.refl h.sound)).2.mono
          (fun _ _ => And.right) fun _ => And.right).next fun _ _ => id
  | shape target => exact h
  | builds => exact h

theorem after (fuel : ℕ) (before : List Step) :
    WellBuilt setting ok main (session.after fuel before) := by
  induction before generalizing session with
  | nil => exact h
  | cons step before ih => exact ih (h.step hok fuel step)

end

end WellBuilt

/-- An application of a target where the account is what it is anywhere. -/
def applyAt (session : Session) (l : Ledger) (fuel : ℕ) (target : Target) (s : Value) (t : Stream) :
    Result (World Heap) (Reply Value Value) :=
  session.parser fuel target s t { session.world with ledger := l }

/-- **Streams are safe.** After any steps and in any account, a parser that is applied at a
valid stream leaves a valid stream of the same source, whether it succeeds or fails,
which is no earlier if nothing goes back. Nothing faults if nothing is moved by hand, not
even when the session begins. And the evaluation in which every move and every slice is
checked ends alike, so that no other one is ever out of range. -/
theorem streams_safe (setting : Setting) (main : Grammar) (h : Throughout Unbuilt setting main)
    (fuel : ℕ) :
    (start fuel setting main).Ends
      (fun session _ => ∀ fuel' before l n target s t, t.Valid →
        let later := session.after fuel' before
        (later.applyAt l n target s t).Ends
          (fun reply _ => reply.stream.Valid ∧ reply.stream.source = t.source ∧
            (Throughout Onward setting main → t.offset ≤ reply.stream.offset))
          (fun _ => ¬Throughout Handless setting main) True ∧
        later.checkedParser n target s t { later.world with ledger := l } =
          later.applyAt l n target s t)
      (fun _ => ¬Throughout Handless setting main) True := by
  have hall := (h.and_imp (P := Throughout Onward setting main) id).and_imp
    (P := Throughout Handless setting main) id
  have hok : Permitted (fun g => (Unbuilt g ∧ (Throughout Onward setting main → Onward g)) ∧
      (Throughout Handless setting main → Handless g))
      (Throughout Onward setting main) ¬Throughout Handless setting main :=
    { unbuilt := fun _ hg => hg.1.1
      rule := fun _ => ⟨⟨trivial, fun _ => trivial⟩, fun _ => trivial⟩
      forward := fun hg => hg.1.2
      faults := fun _ hg => hg.2 }
  refine (start_wellBuilt hok hall fuel).mono (fun session _ hbuilt => ?_) fun _ => id
  intro fuel' before l n target s t ht later
  have hlater : WellBuilt setting _ main later := hbuilt.after hok fuel' before
  obtain ⟨hchecked, hends⟩ := follows_alike.mp (hlater.follows hok n target) s t
    { later.world with ledger := l } ht (.refl hlater.sound)
  exact ⟨hends.mono (fun _ _ hd => ⟨hd.1.valid, hd.1.source_eq, hd.1.offset_le⟩)
    fun _ => And.left, hchecked⟩

/-- A letter, and the text of a rule in what remains, as a text of its own. -/
def accented : Grammar :=
  .then_ (.literal ['é']) (.nestedRun {} (.recognize (.rule "last")))

def accentedSetting : Setting := { rules := [("last", .skipRight .anyChar .endOfInput)] }

/-- From after a letter of one byte to the end, over letters of two and three bytes. -/
theorem accented_safe :
    let t : Stream := ⟨⟨['a', 'é', '日'], 0⟩, 1, ['é', '日']⟩
    Throughout Unbuilt accentedSetting accented ∧ t.Valid ∧
    ∃ session world reply world', start 9 accentedSetting accented = .done session world ∧
      session.checkedParser 9 .main .null t { session.world with ledger := {} } =
        .done reply world' ∧
      reply.stream.Valid ∧ reply.stream.offset = 6 := by
  intro t
  have hunbuilt : Throughout Unbuilt accentedSetting accented := by
    constructor <;> simp [accentedSetting, accented, All.iff_children, Picks, children, Unbuilt]
  have ht : t.Valid := ⟨['a'], rfl, rfl⟩
  obtain ⟨session, world, hstart, reply, world', happly, hoffset⟩ : ∃ session world,
      start 9 accentedSetting accented = .done session world ∧
      ∃ reply world', session.applyAt {} 9 .main .null t = .done reply world' ∧
        reply.stream.offset = 6 := ⟨_, _, rfl, _, _, rfl, rfl⟩
  have hsafe := streams_safe accentedSetting accented hunbuilt 9
  rw [hstart] at hsafe
  obtain ⟨hends, hchecked⟩ := hsafe 0 [] {} 9 .main .null t ht
  change session.checkedParser 9 .main .null t _ = session.applyAt {} 9 .main .null t at hchecked
  change (session.applyAt {} 9 .main .null t).Ends _ _ _ at hends
  rw [happly] at hends hchecked
  exact ⟨hunbuilt, ht, session, world, reply, world', hstart, hchecked, hends.1, hoffset⟩

end Session

end Descent
