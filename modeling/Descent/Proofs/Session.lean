import Descent.Proofs.Cells

/-! Steps do not depend on history.

Cells that were forced by earlier steps are the only trace that steps leave, and they
stand for their definitions. So each run and each application of a session is answered
as in a session that only began, and as by the reference, which has no cells
(`session_transparent`). Repeating a run gives the same reply. -/
namespace Descent
open Descent.Grammar Descent.Coupling

theorem Reply.same_refl (r : Reply Value Value) : r.same r = true := by
  have hmessages (l : List String) : (l == l) = true := beq_self_eq_true l
  obtain ⟨s, t, messages | v⟩ := r
  · simp only [Reply.same, BEq.beq, Value.same_refl, Bool.true_and]
    simpa [BEq.beq] using hmessages messages
  · simp [Reply.same, BEq.beq, Value.same_refl]

namespace Session

/-- A run of a target when the account is what it is anywhere: inside of another run
perhaps, and of as many deferred applications. -/
def runAt (session : Session) (l : Ledger) (fuel : ℕ) (target : Target) (config : Config)
    (s : Value) (source : Source) : Result (World Heap) (Reply Value Value) :=
  Parser.run config (session.parser fuel target) s source { session.world with ledger := l }

/-- The grammar of a target, as it is written. -/
def Target.written (main : Grammar) : Target → Grammar
  | .main => main
  | .rule name => .rule name

theorem Target.written_all {ok : Grammar → Prop} {main : Grammar} (hmain : All ok main)
    (hrule : ∀ name, ok (.rule name)) (target : Target) : All ok (target.written main) := by
  cases target with
  | main => exact hmain
  | rule name => exact .node (hrule name) (fun p hp => by cases hp) fun p hp => hp.elim

/-- What is answered to a result. -/
def Answer.ofReply {ω : Type} (f : Reply Value Value → Answer) :
    Result ω (Reply Value Value) → Answer
  | .done reply _ => f reply
  | .fault cause _ => .fault cause
  | .outOfFuel => .outOfFuel

/-- The answer to a run or an application in a semantics without cells, in which nothing
remains of other steps. How cells look and how often they were built it does not say. -/
def reference (setting : Setting) (main : Grammar) (fuel : ℕ) : Step → Option Answer
  | .run target config state text twice => some <|
      .ofReply (fun reply => .ran reply (if twice then some true else none))
        (Parser.run config (meaning setting fuel (target.written main)) (setting.written state)
          ⟨text, 0⟩ ⟨{}, []⟩)
  | .apply target state text offset => some <|
      match (Stream.start ⟨text, 0⟩).advance offset with
      | .error cause => .fault cause
      | .ok stream => .ofReply .applied
          (meaning setting fuel (target.written main) (setting.written state) stream ⟨{}, []⟩)
  | .shape _ | .builds => none

/-- A result that is concluded with the answer, in a world that is fit for more steps. -/
def Says (fit : World Heap → Prop) (r : Result (World Heap) Answer) (answer : Answer) : Prop :=
  match r with
  | .done a w => a = answer ∧ fit w
  | .fault cause w => .fault cause = answer ∧ fit w
  | .outOfFuel => .outOfFuel = answer

/-- What is done with a reply is done with the reference's reply. -/
theorem says_of_matches {fit : World Heap → Prop} {c : Result (World Heap) (Reply Value Value)}
    {ref : Result (World Log) (Reply Value Value)}
    {k : Reply Value Value → World Heap → Result (World Heap) Answer}
    {f : Reply Value Value → Answer} (h : c.Matches (fun w _ => fit w) (pure 0) fun _ => ref)
    (hk : ∀ reply w w', ref = .done reply w' → fit w → Says fit (k reply w) (f reply)) :
    Says fit (c.next k) (.ofReply f ref) := by
  cases c with
  | done reply w =>
    obtain ⟨w', hd, hw⟩ := h
    rw [Filter.eventually_pure] at hd
    subst hd
    exact hk reply w w' rfl hw
  | fault cause w =>
    obtain ⟨w', hd, hw⟩ := h
    rw [Filter.eventually_pure] at hd
    subst hd
    exact ⟨rfl, hw⟩
  | outOfFuel =>
    have hd := h (Filter.eventually_pure.mpr rfl)
    rw [Filter.eventually_pure] at hd
    subst hd
    exact rfl

/-- What was built for a target stands for it. -/
theorem stands_target {setting : Setting} {ok : Grammar → Prop} {main : Grammar} {session : Session}
    (hsetting : session.setting = setting) (hsound : Sound setting ok session.world.heap)
    (hmain : Stands setting session.world.heap session.main main) (target : Target) :
    Stands setting session.world.heap (session.grammar target) (target.written main) := by
  cases target with
  | main => exact hmain
  | rule name =>
    simp only [Session.grammar, hsetting, Target.written]
    cases hcell : setting.cellOf? name with
    | none =>
      exact .missing (g := .rule name) trivial (Setting.definition?_of_cellOf?_none hcell)
    | some id =>
      obtain ⟨entry, hentry, hdef⟩ := Setting.definition?_of_cellOf? hcell
      exact .cell (hsound.rules id entry hentry) hdef

/-- A session between two steps. -/
structure Ready (setting : Setting) (main : Grammar) (session : Session) : Prop where
  setting_eq : session.setting = setting
  plain : Plain main
  ledger : session.world.ledger = {}
  faithful : Faithful setting none session.world.heap
  stands : Stands setting session.world.heap session.main main

namespace Ready
variable {setting : Setting} {main : Grammar} {session : Session}

theorem follows (h : Ready setting main session) (fuel : ℕ) (target : Target) :
    (lockstep (World.Beside (Beyond setting session.world.heap)) (pure 0)).Follows
      (session.parser fuel target) fun _ => meaning setting fuel (target.written main) := by
  have := eval_lockstep setting fuel _ _ _
    (stands_target h.setting_eq h.faithful.toSound h.stands target)
    (target.written_all h.plain fun _ => trivial)
  rwa [Session.parser, h.setting_eq]

/-- The worlds to which steps lead. -/
def Fit (setting : Setting) (session : Session) (w : World Heap) : Prop :=
  w.ledger = {} ∧ Faithful setting none w.heap ∧ session.world.heap.Extends w.heap

theorem fit (h : Ready setting main session) : Fit setting session session.world :=
  ⟨h.ledger, h.faithful, .refl _⟩

/-- A run from such a world to such a world, as without history. -/
theorem run (h : Ready setting main session) (fuel : ℕ) (target : Target) (config : Config)
    (s : Value) (source : Source) {w : World Heap} (hw : Fit setting session w) :
    (Parser.run config (session.parser fuel target) s source w).Matches
      (fun w _ => Fit setting session w) (pure 0) fun _ =>
        Parser.run config (meaning setting fuel (target.written main)) s source ⟨{}, []⟩ :=
  ((run_lockstep (h.follows fuel target) config s source ⟨hw.1, hw.2⟩).and_ends
    ((eval_accounts _ fuel _).run config s source w)).mono
      fun _ _ hw' => ⟨hw'.2.trans hw.1, hw'.1.2⟩

theorem apply (h : Ready setting main session) (fuel : ℕ) (target : Target) (s : Value)
    (t : Stream) :
    (session.parser fuel target s t session.world).Matches
      (fun w _ => Fit setting session w) (pure 0) fun _ =>
        meaning setting fuel (target.written main) s t ⟨{}, []⟩ :=
  ((follows_lockstep.mp (h.follows fuel target) s t session.world ⟨{}, []⟩
      ⟨h.ledger, h.fit.2⟩).and_ends
    ((eval_accounts _ fuel _).apply s t session.world)).mono
      fun _ _ hw => ⟨(hw.2.eq_of_not_inRun (by rw [h.ledger])).trans h.ledger, hw.1.2⟩

/-- A run anywhere is a run of the reference. -/
theorem runAt (h : Ready setting main session) (l : Ledger) (fuel : ℕ) (target : Target)
    (config : Config) (s : Value) (source : Source) :
    (session.runAt l fuel target config s source).Matches (fun _ _ => True) (pure 0) fun _ =>
      Parser.run config (meaning setting fuel (target.written main)) s source ⟨l, []⟩ :=
  (run_lockstep (h.follows fuel target) config s source
    (w := { session.world with ledger := l }) ⟨rfl, h.fit.2⟩).mono fun _ _ _ => trivial

theorem conclude (h : Ready setting main session) {r : Result (World Heap) Answer} {answer : Answer}
    (hr : Says (Fit setting session) r answer) :
    (session.conclude r).1 = answer ∧ Ready setting main (session.conclude r).2 := by
  have hfit {w : World Heap} (hw : Fit setting session w) :
      Ready setting main { session with world := w } :=
    ⟨h.setting_eq, h.plain, hw.1, hw.2.1, h.stands.mono hw.2.2⟩
  cases r with
  | done a w => exact ⟨hr.1, hfit hr.2⟩
  | fault cause w => exact ⟨hr.1, hfit hr.2⟩
  | outOfFuel => exact ⟨hr, h⟩

/-- A step is answered as by the reference, if at all, and leaves the session ready. -/
theorem step (h : Ready setting main session) (fuel : ℕ) (step : Step) :
    (∀ answer ∈ reference setting main fuel step, (session.step fuel step).1 = answer) ∧
      Ready setting main (session.step fuel step).2 := by
  cases step with
  | run target config state text twice =>
    simp only [reference, Option.mem_some_iff, forall_eq']
    have hrun {w : World Heap} := h.run fuel target config (setting.written state) ⟨text, 0⟩ (w := w)
    refine h.conclude ?_
    rw [Session.run, h.setting_eq]
    refine says_of_matches (hrun h.fit) fun reply w w' href hw => ?_
    cases twice with
    | false => exact ⟨rfl, hw⟩
    | true =>
      -- the second run is like the reference's first one too
      have hagain := says_of_matches (f := fun again => .ran reply (some (reply.same again)))
        (k := fun again w => .done (.ran reply (some (reply.same again))) w) (hrun hw)
        fun again w _ _ hw => ⟨rfl, hw⟩
      rwa [href, Answer.ofReply, Reply.same_refl] at hagain
  | apply target state text offset =>
    simp only [reference, Option.mem_some_iff, forall_eq']
    refine h.conclude ?_
    rw [Session.apply, h.setting_eq]
    cases (Stream.start ⟨text, 0⟩).advance offset with
    | error cause => exact ⟨rfl, h.fit⟩
    | ok stream =>
      exact says_of_matches (h.apply fuel target (setting.written state) stream)
        fun reply w _ _ hw => ⟨rfl, hw⟩
  | shape target => exact ⟨fun _ ha => (Option.not_mem_none _ ha).elim, h⟩
  | builds => exact ⟨fun _ ha => (Option.not_mem_none _ ha).elim, h⟩

theorem after (h : Ready setting main session) (fuel : ℕ) (before : List Step) :
    Ready setting main (session.after fuel before) := by
  induction before generalizing session with
  | nil => exact h
  | cons step before ih => exact ih (h.step fuel step).2

end Ready

/-- A session of plain grammars begins, and is ready. -/
theorem start_ready {setting : Setting} {main : Grammar} (hmain : Plain main)
    (hrules : ∀ entry ∈ setting.rules, Plain entry.2) :
    ∃ session world, (∀ fuel, start fuel setting main = .done session world) ∧
      Ready setting main session := by
  obtain ⟨g, h, hbuild, hfaithful, _, hstands⟩ := build_stands hmain setting.initialWorld
    (initialHeap_faithful hrules)
  refine ⟨⟨setting, g, ⟨{}, h⟩⟩, ⟨{}, h⟩, fun fuel => ?_, rfl, hmain, rfl, hfaithful, hstands⟩
  dsimp only at hbuild
  rw [start, hbuild]
  rfl

theorem ready_of_start {setting : Setting} {main : Grammar} (hmain : Plain main)
    (hrules : ∀ entry ∈ setting.rules, Plain entry.2) {fuel : ℕ} {session : Session}
    {world : World Heap} (hstart : start fuel setting main = .done session world) :
    Ready setting main session := by
  obtain ⟨session', world', hstart', hready⟩ := start_ready hmain hrules
  rw [hstart' fuel] at hstart
  cases hstart
  exact hready

/-- **Steps do not depend on history.** After any steps at all, with whatever fuel, a run
or an application is answered as by a session that only began, which is the answer of the
reference without cells. A run that is repeated gives the same reply, since the
reference says so. -/
theorem session_transparent (setting : Setting) (main : Grammar) (hmain : Plain main)
    (hrules : ∀ entry ∈ setting.rules, Plain entry.2) :
    ∃ session world, (∀ fuel, start fuel setting main = .done session world) ∧
      ∀ fuel step, ∀ answer ∈ reference setting main fuel step,
        (session.step fuel step).1 = answer ∧
          ∀ fuel' before, ((session.after fuel' before).step fuel step).1 = answer := by
  obtain ⟨session, world, hstart, hready⟩ := start_ready hmain hrules
  exact ⟨session, world, hstart, fun fuel step answer hanswer =>
    ⟨(hready.step fuel step).1 answer hanswer, fun fuel' before =>
      ((hready.after fuel' before).step fuel step).1 answer hanswer⟩⟩

/-- Round brackets in one another, each an array around what is in it. -/
def brackets : Grammar :=
  .optional .null
    (.map (fun v => .array [v]) (.between (.literal ['(']) (.literal [')']) (.rule "brackets")))

def bracketsSetting : Setting := { rules := [("brackets", brackets)] }

theorem brackets_plain : Plain brackets := by
  simp [brackets, All.iff_children, Picks, children, Written]

theorem bracketsSetting_plain : ∀ entry ∈ bracketsSetting.rules, Plain entry.2 := by
  simp [bracketsSetting, brackets_plain]

/-- Brackets are read, twice the same, after a run of them that was cut short. -/
theorem brackets_transparent :
    Plain brackets ∧ (∀ entry ∈ bracketsSetting.rules, Plain entry.2) ∧
    ∃ session world, (∀ fuel, start fuel bracketsSetting brackets = .done session world) ∧
      let text := ['(', '(', ')', ')']
      let cut := Step.run .main { maxRecursionDepth := 1 } .null text false
      ((session.after 20 [cut]).step 20 (.run .main {} .null text true)).1 =
        .ran ⟨.null, ⟨⟨text, 0⟩, 4, []⟩, .ok (.array [.array [.null]])⟩ (some true) := by
  obtain ⟨session, world, hstart, h⟩ := session_transparent bracketsSetting brackets
    brackets_plain bracketsSetting_plain
  exact ⟨brackets_plain, bracketsSetting_plain, session, world, hstart, (h 20 _ _ rfl).2 20 _⟩

end Session

end Descent
