import Descent.Proofs.Build
import Descent.Proofs.Coupling.Lockstep
import Descent.Session

/-! The account of nesting is put back.

Whatever is applied, and however the application ends, the ledger is afterwards as it
was, but for one thing: inside a run that has not tripped, it may have tripped
(`Ledger.Kept`). A run hides that too. `ledger_restored` collects what follows for
applications, deferred applications, runs and sessions. -/
namespace Descent
open Descent.Parser

/-- What may become of the account while something is applied. -/
structure Ledger.Kept (l l' : Ledger) : Prop where
  depth : l'.depth = l.depth
  limit : l'.limit = l.limit
  inRun : l'.inRun = l.inRun
  tripped : l'.tripped = l.tripped ∨ l.inRun = true ∧ l.tripped = none ∧
    ∃ e, l'.tripped = some e ∧ e.limit = l.limit ∧ l.limit < e.depth

namespace Ledger.Kept
variable {l l' l'' : Ledger}

theorem refl (l : Ledger) : l.Kept l := ⟨rfl, rfl, rfl, .inl rfl⟩

theorem trans (h : l.Kept l') (h' : l'.Kept l'') : l.Kept l'' where
  depth := h'.depth.trans h.depth
  limit := h'.limit.trans h.limit
  inRun := h'.inRun.trans h.inRun
  tripped := by
    obtain htripped | ⟨hinRun, hnone, e, htripped, he⟩ := h.tripped
    · simpa only [htripped, h.limit, h.inRun] using h'.tripped
    · -- what tripped stays tripped
      obtain htripped' | ⟨_, hnone', _⟩ := h'.tripped
      · exact .inr ⟨hinRun, hnone, e, htripped'.trans htripped, he⟩
      · rw [htripped] at hnone'; cases hnone'

/-- What is not tripped afterwards was not before. -/
theorem untripped (h : l.Kept l') (h' : l'.tripped = none) : l.tripped = none := by
  obtain htripped | ⟨_, hnone, _⟩ := h.tripped
  · exact htripped.symm.trans h'
  · exact hnone

/-- An account that has not tripped is the one before. -/
theorem eq_of_untripped (h : l.Kept l') (h' : l'.tripped = none) : l' = l := by
  have htripped := h.untripped h'
  obtain ⟨hdepth, hlimit, hinRun, -⟩ := h
  cases l
  cases l'
  simp_all only

/-- The way back from a deferred application. -/
theorem leave (h : l.enter.Kept l') : l.Kept l'.leave where
  depth := by simp [Ledger.leave, h.depth, enter]
  limit := h.limit
  inRun := h.inRun
  tripped := h.tripped

/-- A deferred application that is refused. -/
theorem refuse (hnone : l.tripped = none) (hover : l.enter.overLimit = true) (offset : ℕ) :
    l.Kept (l.enter.trip (l.enter.excessAt offset)).leave := by
  have hlimit : l.limit < l.depth + 1 := by
    simp only [overLimit, Bool.and_eq_true, decide_eq_true_eq] at hover
    exact hover.2
  unfold trip
  split
  · next hinRun => exact ⟨rfl, rfl, rfl, .inr ⟨hinRun, hnone, _, rfl, rfl, hlimit⟩⟩
  · exact refl l

/-- Outside of runs nothing changes. -/
theorem eq_of_not_inRun (h : l.Kept l') (hinRun : l.inRun = false) : l' = l := by
  obtain htripped | ⟨hinRun', _⟩ := h.tripped
  · obtain ⟨hdepth, hlimit, hinRun', _⟩ := h
    cases l; cases l'
    simp_all only
  · rw [hinRun] at hinRun'; cases hinRun'

end Ledger.Kept

namespace Parser
variable {η σ α : Type}

/-! ### What runs and deferred applications do -/

/-- What a run makes of the result of its parser. -/
def finished (source : Source) (outer : Ledger) (r : Result (World η) (Reply σ α)) :
    Result (World η) (Reply σ α) :=
  (r.next fun reply w => .done (verdict source reply w.ledger.tripped) w).settle
    (World.mapLedger (Ledger.endRun · outer))

theorem finished_done {source : Source} {outer : Ledger} {reply : Reply σ α} {w : World η}
    (h : w.ledger.tripped = none) : finished source outer (.done reply w) =
      .done reply (w.mapLedger (Ledger.endRun · outer)) := by
  simp only [finished, Result.next_done, h, verdict, Result.settle]

theorem finished_ends {source : Source} {outer : Ledger} {r : Result (World η) (Reply σ α)}
    {done : Reply σ α → World η → Prop} {answer : Reply σ α → Prop} {fault : World η → Prop}
    {starved : Prop} (h : r.Ends done fault starved)
    (hdone : ∀ reply w, done reply w → answer (verdict source reply w.ledger.tripped)) :
    (finished source outer r).Ends (fun reply _ => answer reply) (fun _ => True) starved := by
  cases r with
  | done reply w => exact hdone reply w h
  | fault f w => trivial
  | outOfFuel => exact h

section
variable (p : Parser (World η) σ α) (s : σ) (w : World η) {config : Config} {source : Source}

theorem run_refused (h : config.maxInputSize < source.text.byteSize) :
    run config p s source w = reject s (Stream.start source)
      [tooLarge source.text.byteSize config.maxInputSize] w := by
  simp only [run, h, if_true]

theorem run_accepted (h : ¬config.maxInputSize < source.text.byteSize) :
    run config p s source w = finished source w.ledger
      (p s (Stream.start source) (w.mapLedger (Ledger.beginRun · config.maxRecursionDepth))) := by
  simp only [run, h, if_false, finished]

end

section
variable (p : Parser (World η) σ α) (s : σ) (t : Stream) {w : World η}

theorem deferred_tripped {e : Excess} (h : w.ledger.tripped = some e) :
    deferred p s t w = reject s t [e.message] w := by
  simp only [deferred, h]

theorem deferred_over (h : w.ledger.tripped = none) (hover : w.ledger.enter.overLimit = true) :
    deferred p s t w = reject s t [(w.ledger.enter.excessAt t.offset).message]
      (w.mapLedger fun l => (l.enter.trip (l.enter.excessAt t.offset)).leave) := by
  simp only [deferred, h, World.mapLedger, hover, if_true]

theorem deferred_under (h : w.ledger.tripped = none) (hunder : w.ledger.enter.overLimit = false) :
    deferred p s t w =
      (p s t (w.mapLedger Ledger.enter)).settle (World.mapLedger Ledger.leave) := by
  simp only [deferred, h, World.mapLedger, hunder, Bool.false_eq_true, if_false]

end

variable {p : Parser (World η) Value α}

/-- The account is kept. -/
def Accounts (p : Parser (World η) Value α) : Prop :=
  ∀ l : Ledger, Keeps (fun w => l.Kept w.ledger) p

theorem Accounts.apply (h : Accounts p) (s : Value) (t : Stream) (w : World η) :
    (p s t w).Ends (fun _ w' => w.ledger.Kept w'.ledger) (fun w' => w.ledger.Kept w'.ledger) True :=
  h w.ledger s t w (.refl _)

theorem Accounts.of (h : ∀ s t w, (p s t w).Ends (fun _ w' => w.ledger.Kept w'.ledger)
    (fun w' => w.ledger.Kept w'.ledger) True) : Accounts p :=
  fun _ s t w hw => (h s t w).mono (fun _ _ => hw.trans) fun _ => hw.trans

theorem Accounts.deferred (h : Accounts p) : Accounts (deferred p) := .of fun s t w => by
  cases htripped : w.ledger.tripped with
  | some e =>
    rw [deferred_tripped p s t htripped]
    exact .refl _
  | none =>
    cases hover : w.ledger.enter.overLimit with
    | true =>
      rw [deferred_over p s t htripped hover]
      exact .refuse htripped hover t.offset
    | false =>
      rw [deferred_under p s t htripped hover]
      have hp := h.apply s t (w.mapLedger Ledger.enter)
      revert hp
      cases p s t (w.mapLedger Ledger.enter) with
      | done reply w' => exact Ledger.Kept.leave
      | fault f w' => exact Ledger.Kept.leave
      | outOfFuel => exact id

/-- A run leaves the account as it was. -/
theorem Accounts.run (h : Accounts p) (config : Config) (s : Value) (source : Source)
    (w : World η) : (Parser.run config p s source w).Ends (fun _ w' => w'.ledger = w.ledger)
      (fun w' => w'.ledger = w.ledger) True := by
  have hend {l' : Ledger} (h : (w.ledger.beginRun config.maxRecursionDepth).Kept l') :
      l'.endRun w.ledger = w.ledger := by
    have hdepth : l'.depth = w.ledger.depth := h.depth
    simp only [Ledger.endRun, hdepth]
  by_cases hsize : config.maxInputSize < source.text.byteSize
  · rw [run_refused p s w hsize]
    exact rfl
  · rw [run_accepted p s w hsize]
    have hp := h.apply s (Stream.start source)
      (w.mapLedger (Ledger.beginRun · config.maxRecursionDepth))
    revert hp
    cases p s (Stream.start source) (w.mapLedger (Ledger.beginRun · config.maxRecursionDepth)) with
    | done reply w' => exact hend
    | fault f w' => exact hend
    | outOfFuel => exact id

/-- So does a nested run. -/
theorem Accounts.nestedRun_ledger (h : Accounts p) (config : Config) (s : Value) (t : Stream)
    (w : World η) : (Parser.nestedRun config p s t w).Ends (fun _ w' => w'.ledger = w.ledger)
      (fun w' => w'.ledger = w.ledger) True := by
  refine (h.run config s ⟨t.rest, t.source.tag⟩ w).next fun reply w' hw' => ?_
  split
  · exact hw'
  · split
    · exact hw'
    · exact hw'

theorem Accounts.nestedRun (h : Accounts p) (config : Config) : Accounts (nestedRun config p) :=
  .of fun s t w => (h.nestedRun_ledger config s t w).mono (fun _ _ h => h ▸ .refl _)
    fun _ h => h ▸ .refl _

end Parser

namespace Grammar
variable {setting : Setting} {apply : Grammar → Parser (World Heap) Value Value}

/-- Building keeps what probes keep, if it is not about the heap. -/
theorem build_keeps {I : World Heap → Prop} {prober : Prober}
    (hheap : ∀ w h, I w → I { w with heap := h })
    (hprober : ∀ g text w, I w → (prober g text w).Ends (fun _ => I) I True) (g : Grammar) :
    ∀ w, I w → (build setting prober g w).Ends (fun _ => I) I True := by
  induction g using children_induction with
  | step g ih =>
    intro w hw
    by_cases hg : g.Recursive
    · cases g with
      | rule name => exact hw
      | fresh name =>
        simp only [build]
        split
        · exact hheap w _ hw
        · exact hw
      | lazy p => exact hheap w _ hw
      | cell id => exact hw
      | probe p text =>
        exact (ih p (List.mem_singleton_self p) w hw).next fun p w hw =>
          (hprober p text w hw).next fun _ _ => id
      | _ => exact hg.elim
    · have hall (ps : List Grammar) (hps : ∀ p ∈ ps, p ∈ g.children) (w : World Heap) (hw : I w) :
          (buildAll setting prober ps w).Ends (fun _ => I) I True := by
        induction ps generalizing w with
        | nil => exact hw
        | cons p ps ihps =>
          exact (ih p (hps p List.mem_cons_self) w hw).next fun p w hw =>
            (ihps (fun q hq => hps q (List.mem_cons_of_mem _ hq)) w hw).next fun _ _ => id
      rw [build_eq hg]
      exact (hall g.children (fun _ => id) w hw).next fun _ _ => id

section
variable (happly : ∀ g, Accounts (apply g))
include happly

theorem probeWith_accounts (l : Ledger) (g : Grammar) (text : Text) (w : World Heap)
    (hw : l.Kept w.ledger) : (probeWith apply g text w).Ends (fun _ w' => l.Kept w'.ledger)
      (fun w' => l.Kept w'.ledger) True :=
  (happly g l .null _ w hw).next fun _ _ => id

theorem build_accounts (setting : Setting) (l : Ledger) (g : Grammar) (w : World Heap)
    (hw : l.Kept w.ledger) :
    (build setting (probeWith apply) g w).Ends (fun _ w' => l.Kept w'.ledger)
      (fun w' => l.Kept w'.ledger) True :=
  build_keeps (I := fun w => l.Kept w.ledger) (fun _ _ => id) (probeWith_accounts happly l) g w hw

theorem buildThen_accounts (g : Grammar) : Accounts (buildThen setting apply g) :=
  fun l s t w hw => (build_accounts happly setting l g w hw).next fun g w hw => happly g l s t w hw

theorem force_accounts (id : ℕ) : Accounts (force setting apply id) := fun l s t w hw => by
  unfold force
  split
  · next g _ => exact happly g l s t w hw
  · next definition owner _ =>
      exact (build_accounts happly setting l definition
        { w with heap := w.heap.takeCell id owner } hw).next
        fun g w hw => happly g l s t { w with heap := w.heap.setStatus id (.built g) } hw
  · exact hw

theorem recurse_accounts (g : Grammar) : Accounts (recurse setting apply g) := by
  unfold recurse
  split
  · exact (force_accounts happly _).deferred
  · exact buildThen_accounts happly g

end

theorem eval_accounts (setting : Setting) (fuel : ℕ) (g : Grammar) :
    Accounts (eval setting fuel g) := by
  induction fuel generalizing g with
  | zero => exact fun _ _ _ _ _ => trivial
  | succ n ih =>
    exact fun l => Keeps.layer (fun p => ih p l) (fun p => buildThen_accounts ih p l)
      (fun g => recurse_accounts ih g l) (fun config p => (ih p).nestedRun config l) g

end Grammar

/-! ### Sessions -/

namespace Session

/-- A step outside of runs leaves the account as it was. -/
theorem step_ledger (session : Session) (fuel : ℕ) (step : Step)
    (hinRun : session.world.ledger.inRun = false) :
    (session.step fuel step).2.world.ledger = session.world.ledger := by
  have hconclude {r : Result (World Heap) Answer}
      (h : r.Ends (fun _ w => w.ledger = session.world.ledger)
        (fun w => w.ledger = session.world.ledger) True) :
      (session.conclude r).2.world.ledger = session.world.ledger := by
    cases r with
    | done answer w => exact h
    | fault f w => exact h
    | outOfFuel => rfl
  have hparser (target : Target) : Accounts (session.parser fuel target) :=
    Grammar.eval_accounts _ _ _
  cases step with
  | run target config state text twice =>
    refine hconclude (((hparser target).run config _ _ _).next fun reply w hw => ?_)
    split
    · refine (((hparser target).run config _ _ w).mono (fun _ _ h => h.trans hw)
        fun _ h => h.trans hw).next fun again w hw => hw
    · exact hw
  | apply target state text offset =>
    refine hconclude ?_
    unfold Session.apply
    split
    · exact rfl
    · next stream _ =>
      exact (((hparser target).apply _ stream session.world).mono
        (fun _ _ h => h.eq_of_not_inRun hinRun) fun _ h => h.eq_of_not_inRun hinRun).next
          fun _ _ => id
  | shape target => rfl
  | builds => rfl

/-- The account before every step. -/
theorem after_ledger (session : Session) (fuel : ℕ) (before : List Step)
    (hinRun : session.world.ledger.inRun = false) :
    (session.after fuel before).world.ledger = session.world.ledger := by
  induction before generalizing session with
  | nil => rfl
  | cons step before ih =>
    have hstep := step_ledger session fuel step hinRun
    exact (ih _ (by rw [hstep, hinRun])).trans hstep

theorem start_ledger (fuel : ℕ) (setting : Setting) (main : Grammar) :
    (start fuel setting main).Ends (fun session _ => session.world.ledger = {}) (fun _ => True)
      True := by
  have hbuild := Grammar.build_accounts (Grammar.eval_accounts setting fuel) setting {} main
    setting.initialWorld (.refl _)
  exact (hbuild.mono (fun _ _ h => h.eq_of_not_inRun rfl) fun _ _ => trivial).next
    fun main world h => h

end Session

open Grammar in
/-- **The account is put back on every exit**, of an application up to a first excess in
the run that is going on, and of a run altogether. So every step of a session begins
with the account at rest. And what a deferred application leaves at its end is the depth
that it entered, which is not zero. -/
theorem ledger_restored (setting : Setting) (fuel : ℕ) :
    (∀ g s t w, (eval setting fuel g s t w).Ends (fun _ w' => w.ledger.Kept w'.ledger)
      (fun w' => w.ledger.Kept w'.ledger) True) ∧
    (∀ config g s source w, (Parser.run config (eval setting fuel g) s source w).Ends
      (fun _ w' => w'.ledger = w.ledger) (fun w' => w'.ledger = w.ledger) True) ∧
    (∀ id s t (w : World Heap),
      (force setting (eval setting fuel) id s t (w.mapLedger Ledger.enter)).Ends
      (fun _ w' => w'.ledger.depth = w.ledger.depth + 1)
      (fun w' => w'.ledger.depth = w.ledger.depth + 1) True) ∧
    ∀ main, (Session.start fuel setting main).Ends
      (fun session _ => ∀ fuel' before, (session.after fuel' before).world.ledger =
        { depth := 0, limit := 128, inRun := false, tripped := none })
      (fun _ => True) True := by
  refine ⟨fun g => (eval_accounts setting fuel g).apply,
    fun config g => (eval_accounts setting fuel g).run config, fun id s t w => ?_, fun main => ?_⟩
  · exact ((force_accounts (eval_accounts setting fuel) id).apply s t _).mono
      (fun _ _ h => h.depth) fun _ h => h.depth
  · exact (Session.start_ledger fuel setting main).mono
      (fun session _ h fuel' before =>
        (session.after_ledger fuel' before (by rw [h])).trans h) fun _ => id

end Descent
