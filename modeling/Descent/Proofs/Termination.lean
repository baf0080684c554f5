import Descent.Proofs.Coupling.Loops
import Descent.Proofs.Streams.Safety

/-! Under limits everything ends.

Left recursion too: each deferred application is deeper than the one that it is inside
of, and beyond the limit it is refused. So the argument is about the depth that is left,
under the largest of the limits that nested runs may set, then about the definition that
is applied or built at that depth, and for loops about what is left of the text
(`halting`). Repetitions check that they move; of items until an ending and of chains it
is asked that their rounds do (`Proceeding`). -/
namespace Descent
open Descent.Parser Descent.Grammar Descent.Coupling
open Filter (atTop)

/-- With any fuel that is enough there is one and the same answer. -/
def Result.Halts {ω β : Type} (d : ℕ → Result ω β) : Prop :=
  ∃ r, r ≠ .outOfFuel ∧ ∀ᶠ n in atTop, d n = r

namespace Result.Halts
variable {ω β γ : Type} {d d' : ℕ → Result ω β}

theorem done (b : β) (w : ω) : Halts fun _ => .done b w :=
  ⟨.done b w, nofun, .of_forall fun _ => rfl⟩

theorem fault (f : Fault) (w : ω) : Halts fun _ => (.fault f w : Result ω β) :=
  ⟨.fault f w, nofun, .of_forall fun _ => rfl⟩

theorem congr (h : Halts d) (heq : ∀ᶠ n in atTop, d' n = d n) : Halts d' := by
  obtain ⟨r, hr, hd⟩ := h
  exact ⟨r, hr, heq.mp (hd.mono fun _ hd heq => heq.trans hd)⟩

theorem of_succ (h : Halts fun n => d (n + 1)) : Halts d := by
  obtain ⟨r, hr, hd⟩ := h
  exact ⟨r, hr, (eventually_add 1 fun n => d n = r).mp hd⟩

theorem next {k : ℕ → β → ω → Result ω γ} (h : Halts d)
    (hk : ∀ b w, (∃ n, d n = .done b w) → Halts fun n => k n b w) :
    Halts fun n => (d n).next (k n) := by
  obtain ⟨r, hr, hd⟩ := h
  cases r with
  | done b w => exact (hk b w hd.exists).congr (hd.mono fun n hn => by rw [hn, next_done])
  | fault f w => exact (fault f w).congr (hd.mono fun n hn => by rw [hn, next_fault])
  | outOfFuel => exact (hr rfl).elim

theorem settle (h : Halts d) (f : ω → ω) : Halts fun n => (d n).settle f := by
  obtain ⟨r, hr, hd⟩ := h
  cases r with
  | done b w => exact (done b (f w)).congr (hd.mono fun n hn => by rw [hn, Result.settle])
  | fault c w => exact (fault c (f w)).congr (hd.mono fun n hn => by rw [hn, Result.settle])
  | outOfFuel => exact (hr rfl).elim

/-- A run ends when its parser does. -/
theorem run {η α : Type} {p : ℕ → Parser (World η) Value α} {config : Config} {s : Value}
    {source : Source} {w : World η} (h : Halts fun n =>
      p n s (.start source) (w.mapLedger (Ledger.beginRun · config.maxRecursionDepth))) :
    Halts fun n => Parser.run config (p n) s source w := by
  by_cases hsize : config.maxInputSize < source.text.byteSize
  · simp only [run_refused _ _ _ hsize]
    exact done _ _
  · simp only [run_accepted _ _ _ hsize, finished]
    exact (h.next fun reply w _ => done _ w).settle _

theorem nestedRun {η α : Type} {p : ℕ → Parser (World η) Value α} {config : Config} {s : Value}
    {t : Stream} {w : World η} (h : Halts fun n => p n s (.start ⟨t.rest, t.source.tag⟩)
      (w.mapLedger (Ledger.beginRun · config.maxRecursionDepth))) :
    Halts fun n => Parser.nestedRun config (p n) s t w := by
  refine h.run.next fun reply w _ => ?_
  split
  · exact done _ w
  · split
    · exact done _ w
    · exact fault _ w

end Result.Halts

open Result

namespace Grammar
variable {setting : Setting} {bound : ℕ}

/-- Wherever a parser of the grammar succeeds, it has moved. -/
def Moves (setting : Setting) (p : Grammar) : Prop :=
  ∀ (w : World Heap), Sound setting Unbuilt w.heap → ∀ g, Stands setting w.heap g p →
    ∀ n s (t : Stream), t.Valid → ∀ s' u v w',
      eval setting n g s t w = .done ⟨s', u, .ok v⟩ w' → u.offset ≠ t.offset

/-- A text that is not empty is passed over. -/
theorem moves_literal {text : Text} (h : text ≠ []) : Moves setting (.literal text) := by
  intro w _ g hg n s t _ s' u v w' heval
  cases hg with
  | cell _ hbody => cases hbody
  | missing hg => exact hg.elim
  | zipped =>
    cases n with
    | zero => cases heval
    | succ n =>
      simp only [rebuild, eval, layer, Parser.map, Parser.literal] at heval
      split at heval
      · cases heval
        simp [Text.byteSize_eq_zero, h]
      · cases heval

/-- A node that was written by hand and keeps a run from its end neither by going back,
nor by a nested run without a limit, nor by a loop that stays. The limits that values and
states may choose have a `bound` in common, as machine numbers have; without one, nested
runs in one another could raise the limit with the depth. -/
def Proceeding (setting : Setting) (bound : ℕ) : Grammar → Prop
  | .cell _ | .rewind => False
  | .nestedRun config _ => 0 < config.maxRecursionDepth ∧ config.maxRecursionDepth ≤ bound
  | .manyTill p _ => Moves setting p
  | .chainLeft operator p _ | .chainRight operator p _ => Moves setting operator ∨ Moves setting p
  | _ => True

theorem Proceeding.unbuilt {g : Grammar} (h : Proceeding setting bound g) : Unbuilt g := by
  cases g <;> trivial

theorem Proceeding.mono {bound' : ℕ} (hbound : bound ≤ bound') {g : Grammar}
    (h : Proceeding setting bound g) : Proceeding setting bound' g := by
  cases g with
  | nestedRun config p => exact ⟨h.1, h.2.trans hbound⟩
  | _ => exact h

theorem proceeding_permitted : Permitted (Proceeding setting bound) True True where
  unbuilt _ := Proceeding.unbuilt
  rule _ := trivial
  forward h := h.elim
  faults _ _ := trivial

theorem proceeding_checks (n : ℕ) : Checks setting (Proceeding setting bound) True True
    (eval setting n) (checkedEval setting n) := eval_checks proceeding_permitted n

/-- A world whose heap has grown from `h`, and in which so many deferred applications
are going on, under a limit. -/
structure Inside (setting : Setting) (bound depth : ℕ) (h : Heap) (w : World Heap) : Prop where
  grown : Grown setting (Proceeding setting bound) h w.heap
  depth_eq : w.ledger.depth = depth
  limit_pos : 0 < w.ledger.limit
  limit_le : w.ledger.limit ≤ bound

/-- What stands for the grammar ends at this depth, and so does building it. -/
structure Halting (setting : Setting) (bound depth : ℕ) (g₀ : Grammar) : Prop where
  apply : ∀ {h w}, Inside setting bound depth h w → ∀ {g}, Stands setting w.heap g g₀ →
    ∀ s {t : Stream}, t.Valid → Halts fun n => eval setting n g s t w
  build : ∀ {h w}, Inside setting bound depth h w →
    Halts fun n => build setting (probeWith (eval setting n)) g₀ w

section
variable {depth : ℕ} {h h' : Heap} {w w' : World Heap} {g g₀ p : Grammar}

namespace Inside

theorem here (hw : Inside setting bound depth h w) : Inside setting bound depth w.heap w :=
  { hw with grown := .refl hw.grown.sound }

theorem of_kept (hw : Inside setting bound depth h w) (hkept : w.ledger.Kept w'.ledger)
    (hgrown : Grown setting (Proceeding setting bound) h' w'.heap) :
    Inside setting bound depth h' w' :=
  ⟨hgrown, hkept.depth.trans hw.depth_eq, hkept.limit ▸ hw.limit_pos, hkept.limit ▸ hw.limit_le⟩

/-- Building leaves what stands for the grammar, at the depth at which it began. -/
theorem built (hw : Inside setting bound depth h w) (hg : All (Proceeding setting bound) g)
    {n : ℕ} {g' : Grammar} (hbuild : build setting (probeWith (eval setting n)) g w = .done g' w') :
    Inside setting bound depth w.heap w' ∧ Stands setting w'.heap g' g := by
  have hchecks := (build_checks (proceeding_checks n) (fun _ => Proceeding.unbuilt)
    hg w hw.grown.sound).2
  have hkept := build_accounts (eval_accounts setting n) setting w.ledger g w (.refl _)
  rw [hbuild] at hchecks hkept
  exact ⟨hw.of_kept hkept hchecks.1, hchecks.2⟩

end Inside

/-! ### Building -/

/-- Going on with what was built. -/
theorem Halting.build_next {β : Type} (hp : Halting setting bound depth p)
    (hok : All (Proceeding setting bound) p) (hw : Inside setting bound depth h w)
    {k : ℕ → Grammar → World Heap → Result (World Heap) β}
    (hk : ∀ p' w', Inside setting bound depth w.heap w' → Stands setting w'.heap p' p →
      Halts fun n => k n p' w') :
    Halts fun n => (Grammar.build setting (probeWith (eval setting n)) p w).next (k n) := by
  refine (hp.build hw).next fun p' w' hbuild => ?_
  obtain ⟨n, hbuild⟩ := hbuild
  obtain ⟨hw', hstands⟩ := hw.built hok hbuild
  exact hk p' w' hw' hstands

theorem Halting.probe (hp : Halting setting bound depth p) (hw : Inside setting bound depth h w)
    {p' : Grammar} (hstands : Stands setting w.heap p' p) (text : Text) :
    Halts fun n => probeWith (eval setting n) p' text w :=
  (hp.apply hw hstands .null (Stream.start_valid _)).next fun _ w _ => .done _ w

/-- Building ends when it does for the children. -/
theorem build_halts (hg : All (Proceeding setting bound) g)
    (hchildren : ∀ p ∈ g.children, Halting setting bound depth p)
    (hw : Inside setting bound depth h w) :
    Halts fun n => build setting (probeWith (eval setting n)) g w := by
  by_cases hrec : g.Recursive
  · cases g with
    | rule name => exact .done _ _
    | fresh name =>
      simp only [build]
      split
      · exact .done _ _
      · exact .done _ _
    | lazy p => exact .done _ _
    | cell id => exact hg.here.elim
    | probe p text =>
      have hp := hchildren p (List.mem_singleton_self p)
      simp only [build]
      refine hp.build_next (hg.child (List.mem_singleton_self p)) hw fun p' w₁ hw₁ hstands => ?_
      exact (hp.probe hw₁ hstands text).next fun v w₂ _ => .done _ w₂
    | _ => exact hrec.elim
  · have hall (ps : List Grammar) (hps : ∀ p ∈ ps, p ∈ g.children) {h : Heap} {w : World Heap}
        (hw : Inside setting bound depth h w) :
        Halts fun n => buildAll setting (probeWith (eval setting n)) ps w := by
      induction ps generalizing h w with
      | nil => exact .done _ w
      | cons p ps ihps =>
        have hp := hps p List.mem_cons_self
        simp only [buildAll]
        refine (hchildren p hp).build_next (hg.child hp) hw fun p' w₁ hw₁ _ => ?_
        have hmore := ihps (fun q hq => hps q (List.mem_cons_of_mem p hq)) hw₁
        exact hmore.next fun ps' w₂ _ => .done _ w₂
    simp only [build_eq hrec]
    exact (hall g.children (fun _ => id) hw).next fun ps w' _ => .done _ w'

theorem Halting.buildThen (hp : Halting setting bound depth p)
    (hok : All (Proceeding setting bound) p) (hw : Inside setting bound depth h w) (s : Value)
    {t : Stream} (ht : t.Valid) : Halts fun n => buildThen setting (eval setting n) p s t w :=
  hp.build_next hok hw fun _ _ hw' hstands => hp.apply hw' hstands s ht

/-! ### Deferred applications -/

theorem force_halts (hall : ∀ p, All (Proceeding setting bound) p → Halting setting bound depth p)
    (hw : Inside setting bound depth h w) {id : ℕ} (hid : w.heap.definition? id = some p)
    (s : Value) {t : Stream} (ht : t.Valid) :
    Halts fun n => force setting (eval setting n) id s t w := by
  obtain ⟨⟨q, owner, status⟩, hc, rfl⟩ := Option.map_eq_some_iff.mp hid
  have hdefined := hw.grown.sound.defined id _ hc
  unfold force
  rw [hc]
  cases status with
  | built g => exact (hall _ hdefined).apply hw (hw.grown.sound.built id _ g hc rfl) s ht
  | taken => exact .done _ w
  | waiting =>
    have htaken : Inside setting bound depth w.heap { w with heap := w.heap.takeCell id owner } :=
      { hw with grown := ⟨hw.grown.sound.takeCell id owner, .takeCell _ _ _⟩ }
    refine (hall _ hdefined).build_next hdefined htaken fun g w₁ hw₁ hstands => ?_
    have hfilled : Inside setting bound depth w₁.heap
        { w₁ with heap := w₁.heap.setStatus id (.built g) } :=
      { hw₁ with grown := ⟨hw₁.grown.sound.fill
          (hw₁.grown.extends_ id q (htaken.grown.extends_ id q hid)) hstands, .setStatus _ _ _⟩ }
    exact (hall _ hdefined).apply hfilled (hstands.mono hfilled.grown.extends_) s ht

/-- A deferred application is refused, or it is deeper than what it is inside of. -/
theorem deferred_halts (hdeeper : depth < bound →
      ∀ p, All (Proceeding setting bound) p → Halting setting bound (depth + 1) p)
    (hw : Inside setting bound depth h w) {id : ℕ} (hid : w.heap.definition? id = some p)
    (s : Value) {t : Stream} (ht : t.Valid) :
    Halts fun n => deferred (force setting (eval setting n) id) s t w := by
  cases htripped : w.ledger.tripped with
  | some e =>
    simp only [deferred_tripped _ s t htripped]
    exact .done _ w
  | none =>
    cases hover : w.ledger.enter.overLimit with
    | true =>
      simp only [deferred_over _ s t htripped hover]
      exact .done _ _
    | false =>
      simp only [deferred_under _ s t htripped hover]
      have hdepth : depth < bound := by
        have hlimit := hw.limit_le
        simp only [Ledger.overLimit, Ledger.enter, hw.depth_eq, hw.limit_pos, decide_true,
          Bool.true_and, decide_eq_false_iff_not] at hover
        omega
      have hentered : Inside setting bound (depth + 1) w.heap (w.mapLedger Ledger.enter) :=
        { hw.here with depth_eq := congrArg (· + 1) hw.depth_eq }
      exact (force_halts (hdeeper hdepth) hentered hid s ht).settle _

end

end Grammar

/-! ### Layers -/

namespace Coupling
variable {setting : Setting} {bound depth : ℕ} {h : Heap}

/-- A machine at its depth beside none at all. -/
def solo (setting : Setting) (bound depth : ℕ) (h : Heap) : Coupling Unit (World Heap) where
  state := Eq
  stream := Eq
  messages := Eq
  world _ _ := False
  ahead := Stream.Leads True
  extra := atTop
  exact := False
  Cause := Unit
  left _ _ := True
  right _ w := Inside setting bound depth h w
  answers := True
  faults := True
  together := False.elim

theorem solo_equal : (solo setting bound depth h).Equal := ⟨.rfl, .rfl, .rfl⟩

theorem solo_progressive : (solo setting bound depth h).Progressive where
  extra := rfl
  answers := trivial
  stay h := .refl h.valid
  trans := .trans
  valid h := h.valid
  source_eq _ h := h.source_eq
  offset_le h := h.offset_le trivial

theorem solo_lawful : (solo setting bound depth h).Lawful :=
  solo_equal.lawful (fun h hrest => h.past hrest) solo_progressive.alone_many

/-- What ends is what a machine may be left with, since it keeps streams and worlds. -/
theorem solo_alone {q checked : ℕ → Parser (World Heap) Value Value}
    (hq : ∀ n, (alike setting (Proceeding setting bound) True True h).Follows (q n)
      fun _ => checked n)
    (haccounts : ∀ n, Accounts (q n))
    (hends : ∀ {w}, Inside setting bound depth h w → ∀ s {t : Stream}, t.Valid →
      Halts fun n => q n s t w) : (solo setting bound depth h).Alone q := by
  refine solo_progressive.alone_iff.mpr fun _ s t w ht hw => ?_
  obtain ⟨r, hr, hd⟩ := hends hw s ht.valid
  obtain ⟨n, hn : q n s t w = r⟩ := hd.exists
  have hchecks := (follows_alike.mp (hq n) s t w ht.valid hw.grown).2
  have hkept := (haccounts n).apply s t w
  rw [hn] at hchecks hkept
  refine ⟨r, ?_, hd⟩
  cases r with
  | done reply w' => exact ⟨hchecks.1, hw.of_kept hkept hchecks.2⟩
  | fault f w' => exact hw.of_kept hkept hchecks.2
  | outOfFuel => exact (hr rfl).elim

/-- The parser never succeeds in place. -/
def Restless {α : Type} (setting : Setting) (bound depth : ℕ) (h : Heap)
    (q : ℕ → Parser (World Heap) Value α) : Prop :=
  ∀ w, Inside setting bound depth h w → ∀ t : Stream, t.Valid → ∀ n s s' v w',
    q n s t w ≠ .done ⟨s', t, .ok v⟩ w'

theorem restless_of_moves {g p : Grammar} (hp : Moves setting p) (hg : Stands setting h g p) :
    Restless setting bound depth h fun n => eval setting n g := fun w hw t ht n s s' v w' heval =>
  hp w (hw.grown.sound.mono fun _ => Proceeding.unbuilt) g (hg.mono hw.grown.extends_) n s t ht s' t
    v w' heval rfl

/-- Rounds of two parts, one of which is restless, do not go on in place. -/
theorem idling_of_restless {α : Type} {p : ℕ → Parser (World Heap) Value α}
    {q : ℕ → Parser (World Heap) Value Value} (hp : (solo setting bound depth h).Alone p)
    (hq : (solo setting bound depth h).Alone q)
    (hrestless : Restless setting bound depth h p ∨ Restless setting bound depth h q)
    (e : Unit) (t : Stream) (ht : (solo setting bound depth h).ahead t t) :
    WellFounded ((solo setting bound depth h).Idling e (fun n => then_ (p n) (q n)) t) := by
  refine ⟨fun before => ⟨before, fun after hin => ?_⟩⟩
  obtain ⟨s, w, hw, ⟨v, hfirst⟩, v', hsecond⟩ := solo_progressive.of_idling hp hq ht hin
  obtain ⟨n, hn, hn'⟩ := (hfirst.and hsecond).exists
  obtain hrestless | hrestless := hrestless
  · exact (hrestless _ hin.1 t ht.valid n _ _ _ _ hn).elim
  · exact (hrestless w hw t ht.valid n _ _ _ _ hn').elim

theorem escapes_solo {N : Grammar → Grammar → Prop} {g g₀ : Grammar}
    (hlike : Like (fun p q => Stands setting h p q ∧
      (solo setting bound depth h).Alone fun n => eval setting n p) N g g₀)
    (hok : Proceeding setting bound g₀) :
    (solo setting bound depth h).Escapes (fun n => parts setting (eval setting n) n) g := by
  have hrestless {p q} (hp : Stands setting h p q) (hmoves : Moves setting q) :
      Restless setting bound depth h fun n => eval setting n p := restless_of_moves hmoves hp
  cases hlike with
  | manyTill hp hending =>
    have hfails : (solo setting bound depth h).Alone fun n => notFollowedBy (eval setting n _) :=
      ((Follows.starved False.elim hending.2).notFollowedBy solo_lawful).alone
    exact fun found => solo_progressive.alone_manyTill hp.2 hending.2
      (idling_of_restless hfails hp.2 (.inr (hrestless hp.1 hok))) found
  | chainLeft combine ho hp =>
    exact fun acc => solo_progressive.alone_chainLeft combine ho.2 hp.2
      (idling_of_restless ho.2 hp.2 (hok.imp (hrestless ho.1) (hrestless hp.1))) acc
  | chainRight combine ho hp =>
    exact fun pending last => solo_progressive.alone_chainRight combine ho.2 hp.2
      (idling_of_restless ho.2 hp.2 (hok.imp (hrestless ho.1) (hrestless hp.1))) pending last
  | _ => trivial

end Coupling

namespace Grammar
variable {setting : Setting} {bound depth : ℕ} {h : Heap} {g₀ : Grammar}

/-- A node ends when its children and what it picks do. -/
theorem node_alone {ps : List Grammar} (hrec : ¬g₀.Recursive)
    (hlength : ps.length = g₀.children.length)
    (hstands : ∀ p q, (p, q) ∈ ps.zip g₀.children → Stands setting h p q)
    (hall : All (Proceeding setting bound) g₀)
    (hchildren : ∀ p ∈ g₀.children, Halting setting bound depth p)
    (hpicks : ∀ p, g₀.Picks p → Halting setting bound depth p) :
    (solo setting bound depth h).Alone
      fun n => layer (parts setting (eval setting n) n) (g₀.rebuild ps) := by
  have hlike := Stands.like (P := fun p => All (Proceeding setting bound) p ∧
      Halting setting bound depth p) hrec hlength hstands
    (fun p hp => ⟨hall.child hp, hchildren p hp⟩) fun p hp => ⟨hall.pick hp, hpicks p hp⟩
  have hok := hall.here
  generalize g₀.rebuild ps = g at hlike
  have happly {p p₀} (hp : Stands setting h p p₀ ∧ All (Proceeding setting bound) p₀ ∧
      Halting setting bound depth p₀) :
      (solo setting bound depth h).Alone fun n => eval setting n p :=
    solo_alone (fun n => proceeding_checks n h p p₀ hp.1 hp.2.1)
      (fun n => eval_accounts setting n p) fun hw s _ ht =>
        hp.2.2.apply hw (hp.1.mono hw.grown.extends_) s ht
  refine layer_alone solo_lawful id hlike.self (fun p ⟨_, hp⟩ => happly hp)
    (fun p ⟨_, _, hp, hends⟩ => ?chosen) (fun config p hg ⟨_, hp⟩ => ?nested) (fun _ => rfl)
    (fun _ => rfl) (solo_equal.admits (fun _ _ => trivial) fun hg => ?rewind)
    (escapes_solo (hlike.mono (fun p p₀ hp => ⟨hp.1, happly hp⟩) fun _ _ => id) hok)
  case chosen =>
    exact solo_alone (fun n => (proceeding_checks n).buildThen (fun _ => Proceeding.unbuilt) hp)
      (fun n => buildThen_accounts (eval_accounts setting n) p)
      fun hw s _ ht => hends.buildThen hp hw s ht
  case nested =>
    refine solo_alone (fun n => nestedRun_onValid (proceeding_checks n h p _ hp.1 hp.2.1) config)
      (fun n => (eval_accounts setting n p).nestedRun config) fun {w} hw s _ _ => .nestedRun ?_
    have hlimit : 0 < config.maxRecursionDepth ∧ config.maxRecursionDepth ≤ bound := by
      subst hg
      cases hlike
      exact hok
    -- the run has a limit of its own, and goes on at the depth where it began
    have hbegun : Inside setting bound depth w.heap
        (w.mapLedger (Ledger.beginRun · config.maxRecursionDepth)) :=
      { hw.here with limit_pos := hlimit.1, limit_le := hlimit.2 }
    exact hp.2.2.apply hbegun (hp.1.mono hw.grown.extends_) s (Stream.start_valid _)
  case rewind =>
    subst hg
    cases hlike
    exact hok.elim

/-- **Everything ends**, at any depth. -/
theorem halting (hg : All (Proceeding setting bound) g₀) : Halting setting bound depth g₀ := by
  -- first by the depth that is left, then by the definition that is applied there
  induction hleft : bound - depth using Nat.strong_induction_on generalizing depth g₀ with
  | _ left ih =>
  have hdeeper (hdepth : depth < bound) (p) (hp : All (Proceeding setting bound) p) :
      Halting setting bound (depth + 1) p := ih (bound - (depth + 1)) (by omega) hp rfl
  induction hg with
  | @node g₀ here hchildren hpicks ihchildren ihpicks =>
  have hall := All.node here hchildren hpicks
  refine ⟨fun {h w} hw {g} hg s t ht => .of_succ ?_, build_halts hall ihchildren⟩
  cases hg with
  | cell hid => exact deferred_halts hdeeper hw hid s ht
  | missing => exact .done _ w
  | probe => exact .done _ w
  | zipped hrec hlength hstands =>
    have halone := node_alone hrec hlength hstands hall ihchildren ihpicks
    obtain ⟨r, hr, hd⟩ := solo_progressive.alone_iff.mp halone () s t w (.refl ht) hw.here
    refine ⟨r, ?_, hd⟩
    rintro rfl
    exact hr

end Grammar

/-! ### Sessions -/

namespace Session
variable {setting : Setting} {main : Grammar} {bound : ℕ}

theorem WellBuilt.halts {session : Session}
    (h : WellBuilt setting (Proceeding setting bound) main session) {l : Ledger}
    (hpos : 0 < l.limit) (hle : l.limit ≤ bound) (target : Target) (s : Value) {t : Stream}
    (ht : t.Valid) : Halts fun n => session.applyAt l n target s t := by
  have hinside : Inside setting bound l.depth session.world.heap
      { session.world with ledger := l } := ⟨.refl h.sound, rfl, hpos, hle⟩
  have hends := (halting (target.written_all h.all fun _ => trivial)).apply hinside
    (stands_target h.setting_eq h.sound h.stands target) s ht
  simpa only [applyAt, Session.parser, h.setting_eq] using hends

theorem WellBuilt.run_halts {session : Session}
    (h : WellBuilt setting (Proceeding setting bound) main session) (l : Ledger) {config : Config}
    (hpos : 0 < config.maxRecursionDepth) (hle : config.maxRecursionDepth ≤ bound)
    (target : Target) (s : Value) (source : Source) :
    Halts fun n => session.runAt l n target config s source :=
  .run (h.halts (l := l.beginRun config.maxRecursionDepth) hpos hle target s
    (Stream.start_valid source))

/-- **Under limits everything ends**, with one and the same answer for any fuel that is
enough: building the main grammar, and after any steps each run under a limit, and each
application where a limit is set, from any account, state and place. It does not matter
how rules recurse. -/
theorem limits_terminate (h : Throughout (Proceeding setting bound) setting main) :
    (Halts fun n => start n setting main) ∧
    ∀ fuel session world, start fuel setting main = .done session world →
      ∀ fuel' before l target s, let later := session.after fuel' before
        (∀ config source, 0 < config.maxRecursionDepth →
          Halts fun n => later.runAt l n target config s source) ∧
        ∀ t, t.Valid → 0 < l.limit → Halts fun n => later.applyAt l n target s t := by
  have hmono (more : ℕ) : Throughout (Proceeding setting (max bound more)) setting main :=
    ⟨h.main.mono fun _ => .mono (le_max_left _ _),
      fun entry he => (h.rules entry he).mono fun _ => .mono (le_max_left _ _)⟩
  constructor
  · have hall := hmono defaultMaxRecursionDepth
    have hinitial : Inside setting (max bound defaultMaxRecursionDepth) 0 setting.initialHeap
        setting.initialWorld :=
      ⟨.refl (initialHeap_sound hall.rules), rfl, Nat.succ_pos 127, le_max_right _ _⟩
    exact ((halting hall.main).build hinitial).next fun g w _ => .done _ w
  · intro fuel session world hstart fuel' before l target s later
    have hlater (more : ℕ) :
        WellBuilt setting (Proceeding setting (max bound more)) main later := by
      have hbuilt := start_wellBuilt proceeding_permitted (hmono more) fuel
      rw [hstart] at hbuilt
      exact hbuilt.after proceeding_permitted fuel' before
    exact ⟨fun config source hconfig =>
        (hlater config.maxRecursionDepth).run_halts l hconfig (le_max_right _ _) target s source,
      fun t ht hl => (hlater l.limit).halts hl (le_max_right _ _) target s ht⟩

/-- Sums and parts of sums, each of which begins with the other. -/
def sumSetting : Setting :=
  { rules := [("sum", .or (.then_ (.rule "part") (.literal ['+'])) (.rule "part")),
      ("part", .or (.rule "sum") (.manyTill (.literal ['-']) .endOfInput))] }

/-- What remains as a text of its own: a chain of sums. -/
def sumChain : Grammar :=
  .nestedRun { maxRecursionDepth := 4 } (.chainLeft (.literal [',']) (.rule "sum") Value.compute)

/-- Rules that begin with each other end on every text, in a run and outside of one. -/
theorem sumChain_terminates :
    Throughout (Proceeding sumSetting 4) sumSetting sumChain ∧
    ∃ session world, start 0 sumSetting sumChain = .done session world ∧
      ∀ source : Source, (Halts fun n => session.runAt {} n .main {} .null source) ∧
        Halts fun n => session.applyAt {} n (.rule "part") .null (.start source) := by
  have hall : Throughout (Proceeding sumSetting 4) sumSetting sumChain := by
    constructor <;>
      simp [sumSetting, sumChain, All.iff_children, Picks, children, Proceeding, moves_literal]
  refine ⟨hall, _, _, rfl, fun source => ?_⟩
  obtain ⟨hrun, _⟩ := (limits_terminate hall).2 0 _ _ rfl 0 [] {} .main .null
  obtain ⟨_, happly⟩ := (limits_terminate hall).2 0 _ _ rfl 0 [] {} (.rule "part") .null
  exact ⟨hrun {} source (by decide), happly _ (Stream.start_valid source) (by decide)⟩

end Session

end Descent
