import Descent.Proofs.Session
import Descent.Proofs.Streams.Safety
import Descent.Proofs.Variant.Session

/-! States that are not read.

Every combinator hands the caller's state on in its own way: it goes forward, is put back,
or is thrown away with the reply. Where no node looks at it, that cannot be seen in
anything but the state itself. Machines are `unread` if they are in lockstep but for their
states, of which nothing is known, and one of them may have none to keep. Built, found and
run like that, a session that is `Unread` does the same from any two states
(`unread_state_inert`). -/
namespace Descent
open Descent.Grammar Descent.Coupling

/-- The same stream and outcome, whatever the states. -/
def Reply.Concurs {α : Type} (reply reply' : Reply Value α) : Prop :=
  reply.stream = reply'.stream ∧ reply.outcome = reply'.outcome

/-- A result of which the state is forgotten. -/
def Result.unstated {ω α : Type} (r : Result ω (Reply Value α)) : Result ω (Stream × Outcome α) :=
  r.next fun reply w => .done (reply.stream, reply.outcome) w

theorem Result.Meets.unstated_eq {ω α : Type} {W : ω → ω → Prop} {faults : Prop}
    {r r' : Result ω (Reply Value α)} (h : r.Meets Reply.Concurs W faults (pure 0) fun _ => r')
    (hW : ∀ w w', W w w' → w = w') : r.unstated = r'.unstated := by
  obtain ⟨⟨s, t, o⟩, w, ⟨s', t', o'⟩, w', rfl, rfl, ⟨ht, ho⟩, hw⟩ |
    ⟨-, f, w, w', rfl, rfl, hw⟩ | ⟨rfl, rfl⟩ := h.cases
  · obtain rfl : t = t' := ht
    obtain rfl : o = o' := ho
    obtain rfl := hW w w' hw
    rfl
  · obtain rfl := hW w w' hw
    rfl
  · rfl

/-! ### Machines whose states are not read -/

/-- The node does not look at the state. -/
def Grammar.Stateless : Grammar → Prop
  | .getState | .readState _ => False
  | _ => True

namespace Coupling
variable {ω ω' η η' α : Type} {W : ω → ω' → Prop} {H : η → η' → Prop}

/-- Machines in lockstep but for their states. -/
def unread (W : ω → ω' → Prop) : Coupling ω ω' :=
  { lockstep W (pure 0) with state := fun _ _ => True }

instance : IsEmpty (unread W).Cause := inferInstanceAs (IsEmpty Empty)

theorem follows_unread {p : Parser ω Value α} {q : ℕ → Parser ω' Value α} :
    (unread W).Follows p q ↔ ∀ s s' t w w', W w w' →
      (p s t w).Meets Reply.Concurs W True (pure 0) fun m => q m s' t w' := by
  have hreplies {reply reply' : Reply Value α} :
      (unread W).Replies reply reply' ↔ reply.Concurs reply' := by
    obtain ⟨s, t, o⟩ := reply
    obtain ⟨s', t', o'⟩ := reply'
    cases o <;> cases o' <;> simp [Replies, unread, guarded, Reply.Concurs]
  rw [follows_iff_meets .rfl]
  constructor
  · intro h s s' t w w' hw
    exact (h t s s' t t w w' trivial rfl trivial hw).mono (fun _ _ hr => hreplies.mp hr.1)
      fun _ _ => id
  · rintro h base s s' t _ w w' - rfl - hw
    exact (h s s' t w w' hw).mono (fun _ _ hr => ⟨hreplies.mpr hr, trivial⟩) fun _ _ => id

theorem unread_lawful : (unread W).Lawful :=
  { (lockstep_lawful : (lockstep W (pure 0)).Lawful) with
    state_refl := fun _ => trivial
    state_map := fun _ _ _ _ => trivial
    many := fun _ _ => alone_of_isEmpty _ }

theorem unread_admits {g : Grammar} (hg : Stateless g) : (unread W).Admits g := by
  cases g with
  | position => exact fun _ _ ht => congrArg Stream.location ht
  | advance n => exact ⟨trivial, fun _ _ ht => congrArg Stream.offset ht⟩
  | rewind =>
    refine ⟨fun t t' ht => ?_, fun _ _ => id⟩
    obtain rfl : t = t' := ht
    rfl
  | getState => exact hg.elim
  | readState => exact hg.elim
  | _ => trivial

variable {p : Parser (World η) Value α} {q : Parser (World η') Value α}

theorem deferred_unread (h : (unread (World.Beside H)).Follows p fun _ => q) :
    (unread (World.Beside H)).Follows (Parser.deferred p) fun _ => Parser.deferred q := by
  rw [follows_unread] at h ⊢
  intro s s' t w w' hw
  have hledger : (w.mapLedger Ledger.enter).ledger = (w'.mapLedger Ledger.enter).ledger :=
    (hw.mapLedger Ledger.enter).1
  simp only [Parser.deferred, ← hw.1, ← hledger]
  split
  · exact .done ⟨rfl, rfl⟩ hw
  · split
    · exact .done ⟨rfl, rfl⟩ ((hw.mapLedger _).mapLedger _)
    · exact (h s s' t _ _ (hw.mapLedger Ledger.enter)).settle fun w₁ w₁' hw₁ => hw₁.mapLedger _

theorem run_unread (h : (unread (World.Beside H)).Follows p fun _ => q) (config : Config)
    (s s' : Value) (source : Source) {w : World η} {w' : World η'} (hw : w.Beside H w') :
    (Parser.run config p s source w).Meets Reply.Concurs (World.Beside H) True (pure 0)
      fun _ => Parser.run config q s' source w' := by
  rw [follows_unread] at h
  simp only [Parser.run, ← hw.1]
  split
  · exact .done ⟨rfl, rfl⟩ hw
  · refine .settle (.next (h s s' _ _ _ (hw.mapLedger _))
      (fun reply reply' w₁ w₁' hr hw₁ => ?_) fun _ _ => id) fun w₁ w₁' hw₁ => hw₁.mapLedger _
    rw [hw₁.1]
    refine .done ?_ hw₁
    cases w₁'.ledger.tripped with
    | none => exact hr
    | some e => exact ⟨by simp only [Parser.verdict, hr.1], rfl⟩

theorem nestedRun_unread (h : (unread (World.Beside H)).Follows p fun _ => q) (config : Config) :
    (unread (World.Beside H)).Follows (Parser.nestedRun config p)
      fun _ => Parser.nestedRun config q := by
  rw [follows_unread]
  intro s s' t w w' hw
  refine (run_unread h config s s' _ hw).next (fun reply reply' w₁ w₁' hr hw₁ => ?_) fun _ _ => id
  rw [← hr.1, ← hr.2]
  cases reply.outcome with
  | error messages => exact .done ⟨rfl, rfl⟩ hw₁
  | ok v =>
    cases t.advance reply.stream.offset with
    | ok u => exact .done ⟨rfl, rfl⟩ hw₁
    | error cause => exact ⟨trivial, w₁', .of_forall fun _ => rfl, hw₁⟩

end Coupling

/-! ### Building and evaluation -/

namespace Grammar
variable {setting : Setting} {g g' : Grammar}

theorem stateless_blind : Blind Stateless False False where
  like h := by cases h <;> exact id
  cell _ := trivial
  fail _ := trivial
  succeed _ := trivial
  placeless _ := False.elim
  probeless _ := not_false

/-- The same grammar, in which nothing looks at the state. -/
abbrev Unreading : Grammar → Grammar → Prop := Variant Stateless False

theorem Unreading.eq (h : Unreading g g') : g = g' := Variant.eq h not_false

/-- The same world, in whose cells nothing looks at the state. -/
abbrev UnreadWorlds : World Heap → World Heap → Prop := World.Beside (Heap.Pairs Unreading)

theorem UnreadWorlds.eq {w w' : World Heap} (h : UnreadWorlds w w') : w = w' := by
  have hheap : w.heap = w'.heap := h.2.eq fun _ _ => Unreading.eq
  exact (World.Beside.eq ⟨h.1, hheap⟩).symm

theorem unreadWorlds_share : Shares Unreading UnreadWorlds where
  pairs hw := hw.2
  update hw hh := ⟨hw.1, hh⟩

/-- Two ways of applying grammars that find the same from any two states. -/
def Concur (apply apply' : Grammar → Parser (World Heap) Value Value) : Prop :=
  ∀ {g g'}, Unreading g g' → (unread UnreadWorlds).Follows (apply g) fun _ => apply' g'

namespace Concur
variable {apply apply' : Grammar → Parser (World Heap) Value Value}
variable (h : Concur apply apply') (hsetting : setting.Pairs Unreading setting) (stateful : Bool)
include h hsetting

theorem build (hg : Unreading g g') {w w' : World Heap} (hw : UnreadWorlds w w') :
    (build setting (probeWith apply) g w).Meets Unreading UnreadWorlds True (pure 0)
      fun _ => Grammar.build { setting with stateful } (probeWith apply') g' w' := by
  rw [build_stateful setting stateful]
  refine build_variant stateless_blind.toStable hsetting (fun _ _ => id)
    unreadWorlds_share.accommodates (fun _ _ q q' w w' hq hw => ?_) hg w w' hw
  -- a probe begins without a state, and makes no value of the one it comes to
  refine (follows_unread.mp (h hq) .null .null _ w w' hw).next (fun reply reply' w w' hr hw => ?_)
    fun _ _ => id
  exact .done (congrArg ofOutcome hr.2) hw

theorem buildThen (hg : Unreading g g') :
    (unread UnreadWorlds).Follows (buildThen setting apply g)
      fun _ => Grammar.buildThen { setting with stateful } apply' g' := by
  rw [follows_unread]
  intro s s' t w w' hw
  exact (h.build hsetting stateful hg hw).next (fun p p' w w' hp hw =>
    follows_unread.mp (h hp) s s' t w w' hw) fun _ _ => id

theorem force (id : ℕ) :
    (unread UnreadWorlds).Follows (force setting apply id)
      fun _ => Grammar.force { setting with stateful } apply' id := by
  rw [follows_unread]
  intro s s' t w w' hw
  exact force_meets unreadWorlds_share (fun hg hw => h.build hsetting stateful hg hw)
    (fun hg hw => follows_unread.mp (h hg) s s' t _ _ hw) ⟨rfl, rfl⟩ id hw

end Concur

/-- **Evaluation finds the same from any two states**, one of which need not be kept. -/
theorem eval_concur (hsetting : setting.Pairs Unreading setting) (stateful : Bool) (n : ℕ) :
    Concur (eval setting n) (eval { setting with stateful } n) := by
  induction n with
  | zero =>
    intro g g' _
    rw [follows_unread]
    exact fun s s' t w w' hw _ => .of_forall fun _ => rfl
  | succ n ih =>
    intro g g' hg
    cases hg with
    | left h => exact h.elim
    | right h => exact h.elim
    | @akin R _ _ h parts here here' =>
      have hg : Unreading g g' := .akin h parts here here'
      cases h with
      | node h =>
        let parts' (m : ℕ) : Parts (World Heap) :=
          { Grammar.parts { setting with stateful } (eval { setting with stateful } n) n with
            rounds := n + m }
        have hparts : (unread UnreadWorlds).PartsFollow R R (Grammar.parts setting (eval setting n) n)
            parts' g' :=
          { apply := fun hp => ih (parts _ _ hp)
            chosen := fun hp => ih.buildThen hsetting stateful (parts _ _ hp)
            nested := fun _ hp => nestedRun_unread (ih (parts _ _ hp)) _
            written := ⟨_, fun _ => rfl, fun _ _ _ => trivial⟩
            rounds := fun _ => rfl }
        exact (layer_follows unread_lawful hparts h (unread_admits here')
          (escapes_of_isEmpty _ g')).congr (Filter.eventually_pure.mpr rfl)
      | cell id => exact deferred_unread (ih.force hsetting stateful id)
      | _ => exact ih.buildThen hsetting stateful hg

end Grammar

/-! ### Sessions -/

namespace Session
variable {session : Session} {setting : Setting} {main : Grammar}

/-- The session of a caller who keeps a state, or of one who does not. -/
def keeping (stateful : Bool) (session : Session) : Session :=
  { session with setting := { session.setting with stateful } }

/-- Nothing in the grammars of a session looks at the state, whatever its cells have come
to. -/
structure Unread (session : Session) : Prop where
  grammars : Throughout Stateless session.setting session.main
  cells : ∀ c ∈ session.world.heap.cells, All Stateless c.definition ∧
    ∀ g, c.status = .built g → All Stateless g

/-- The same step, which may be given another state. -/
inductive Step.Restated : Step → Step → Prop
  | run (target : Target) (config : Config) (s s' : Value) (text : Text) (twice : Bool) :
    Restated (.run target config s text twice) (.run target config s' text twice)
  | apply (target : Target) (s s' : Value) (text : Text) (offset : ℕ) :
    Restated (.apply target s text offset) (.apply target s' text offset)
  | shape (target : Target) : Restated (.shape target) (.shape target)
  | builds : Restated .builds .builds

/-- Replies with the same stream and outcome, or the same other answer. -/
def Answer.Concurs : Answer → Answer → Prop
  | .ran reply _, .ran reply' _ | .applied reply, .applied reply' => reply.Concurs reply'
  | .shape kind, .shape kind' => kind = kind'
  | .builds counts, .builds counts' => counts = counts'
  | .fault cause, .fault cause' => cause = cause'
  | .outOfFuel, .outOfFuel => True
  | _, _ => False

theorem unreading_iff_all {g : Grammar} : Unreading g g ↔ All Stateless g :=
  ⟨fun h => h.all fun hg => by cases hg <;> trivial, .refl⟩

theorem pairs_iff_forall {setting : Setting} : setting.Pairs Unreading setting ↔
    ∀ entry ∈ setting.rules, All Stateless entry.2 := by
  simp only [← unreading_iff_all]
  exact ⟨fun h entry he => (List.forall₂_same.mp h.rules entry he).2,
    fun h => ⟨List.forall₂_same.mpr fun entry he => ⟨rfl, h entry he⟩, rfl⟩⟩

/-- Such sessions are those that are paired with themselves. -/
theorem unread_iff_paired : session.Unread ↔ Paired Stateless False session session := by
  constructor
  · intro h
    refine ⟨pairs_iff_forall.mpr h.grammars.rules, .refl h.grammars.main, .refl True _, rfl,
      fun id => ?_, rfl⟩
    cases hc : session.world.heap.cells[id]? with
    | none => exact .none
    | some c =>
      obtain ⟨hdef, hbuilt⟩ := h.cells c (Array.mem_of_getElem? hc)
      refine .some ⟨.refl hdef, rfl, ?_⟩
      cases hstatus : c.status with
      | waiting => exact .waiting
      | taken => exact .taken
      | built g => exact .built (.refl (hbuilt g hstatus))
  · intro h
    refine ⟨⟨unreading_iff_all.mp h.main, pairs_iff_forall.mp h.setting⟩, fun c hc => ?_⟩
    obtain ⟨id, hid⟩ := Array.getElem?_of_mem hc
    have hcells := h.world.heap.cells id
    rw [hid] at hcells
    cases hcells with
    | some hpair =>
      refine ⟨unreading_iff_all.mp hpair.definition, fun g hg => ?_⟩
      have hstatus := hpair.status
      rw [hg] at hstatus
      cases hstatus with
      | built hg => exact unreading_iff_all.mp hg

namespace Unread

theorem after (h : session.Unread) (fuel : ℕ) (before : List Step) :
    (session.after fuel before).Unread :=
  unread_iff_paired.mpr ((unread_iff_paired.mp h).after stateless_blind fuel before)

section
variable (h : session.Unread) (stateful : Bool)
include h

theorem worlds (l : Ledger) : UnreadWorlds { session.world with ledger := l }
    { session.world with ledger := l } :=
  ⟨rfl, (unread_iff_paired.mp h).world.heap⟩

theorem follows (fuel : ℕ) (target : Target) :
    (unread UnreadWorlds).Follows (session.parser fuel target)
      fun _ => (session.keeping stateful).parser fuel target := by
  have hpaired := unread_iff_paired.mp h
  exact eval_concur hpaired.setting stateful fuel
    (hpaired.grammar stateless_blind.toStable target)

theorem run (fuel : ℕ) (target : Target) (config : Config) (s s' : Value) (source : Source)
    {w w' : World Heap} (hw : UnreadWorlds w w') :
    (Parser.run config (session.parser fuel target) s source w).Meets Reply.Concurs UnreadWorlds
      True (pure 0)
      fun _ => Parser.run config ((session.keeping stateful).parser fuel target) s' source w' :=
  run_unread (h.follows stateful fuel target) config s s' source hw

/-- Steps that differ in their states at most are answered alike. -/
theorem step (fuel : ℕ) {step step' : Step} (hstep : step.Restated step') :
    (session.step fuel step).1.Concurs ((session.keeping stateful).step fuel step').1 ∧
      ((session.keeping stateful).step fuel step').2 = (session.step fuel step).2.keeping stateful := by
  have hconclude {r r' : Result (World Heap) Answer}
      (hr : r.Meets Answer.Concurs UnreadWorlds True (pure 0) fun _ => r') :
      (session.conclude r).1.Concurs ((session.keeping stateful).conclude r').1 ∧
        ((session.keeping stateful).conclude r').2 = (session.conclude r).2.keeping stateful := by
    obtain ⟨answer, w, answer', w', rfl, rfl, ha, hw⟩ | ⟨-, f, w, w', rfl, rfl, hw⟩ |
      ⟨rfl, rfl⟩ := hr.cases
    · obtain rfl := UnreadWorlds.eq hw
      exact ⟨ha, rfl⟩
    · obtain rfl := UnreadWorlds.eq hw
      exact ⟨rfl, rfl⟩
    · exact ⟨trivial, rfl⟩
  have hworld : UnreadWorlds session.world session.world := h.worlds session.world.ledger
  cases hstep with
  | run target config s s' text twice =>
    have hrun {w w' : World Heap} (hw : UnreadWorlds w w') := h.run stateful fuel target config
      (session.setting.written s) ((session.keeping stateful).setting.written s') ⟨text, 0⟩ hw
    refine hconclude ((hrun hworld).next (fun reply reply' w w' hr hw => ?_) fun _ _ => id)
    cases twice with
    | false => exact .done hr hw
    | true => exact (hrun hw).next (fun _ _ w w' _ hw => .done hr hw) fun _ _ => id
  | apply target s s' text offset =>
    refine hconclude ?_
    unfold Session.apply
    cases (Stream.start ⟨text, 0⟩).advance offset with
    | error cause => exact ⟨trivial, _, .of_forall fun _ => rfl, hworld⟩
    | ok stream =>
      exact (follows_unread.mp (h.follows stateful fuel target) _ _ stream _ _ hworld).next
        (fun _ _ _ _ hr hw => .done hr hw) fun _ _ => id
  | shape target => exact ⟨rfl, rfl⟩
  | builds => exact ⟨rfl, rfl⟩

end

/-- Steps in order. -/
theorem steps (h : session.Unread) (stateful : Bool) (fuel : ℕ) {steps steps' : List Step}
    (hsteps : List.Forall₂ Step.Restated steps steps') :
    List.Forall₂ Answer.Concurs (session.steps fuel steps)
      ((session.keeping stateful).steps fuel steps') := by
  induction hsteps generalizing session with
  | nil => exact .nil
  | cons hstep _ ih =>
    obtain ⟨hanswer, hnext⟩ := h.step stateful fuel hstep
    simp only [Session.steps, hnext]
    exact .cons hanswer (ih (h.after fuel [_]))

end Unread

/-- A session begins alike for a caller who keeps a state and for one who does not. -/
theorem start_unread (h : Throughout Stateless setting main) (stateful : Bool) (fuel : ℕ) :
    start fuel { setting with stateful } main =
        (start fuel setting main).next (fun session w => .done (session.keeping stateful) w) ∧
      (start fuel setting main).Ends (fun session _ => session.Unread) (fun _ => True) True := by
  have hsetting : setting.Pairs Unreading setting := pairs_iff_forall.mpr h.rules
  have hworld : UnreadWorlds setting.initialWorld setting.initialWorld := ⟨rfl, .initial hsetting⟩
  have hbuild := Concur.build (eval_concur hsetting stateful fuel) hsetting stateful
    (.refl h.main) hworld
  unfold start
  obtain ⟨g, w, g', w', hg, hg', hsame, hw⟩ | ⟨-, f, w, w', hg, hg', hw⟩ | ⟨hg, hg'⟩ :=
    hbuild.cases
  · obtain rfl := hsame.eq
    obtain rfl := UnreadWorlds.eq hw
    rw [hg]
    exact ⟨congrArg (Result.next · _) hg', unread_iff_paired.mpr
      ⟨hsetting, hsame, .refl True _, hw.2⟩⟩
  · obtain rfl := UnreadWorlds.eq hw
    rw [hg]
    exact ⟨congrArg (Result.next · _) hg', trivial⟩
  · rw [hg]
    exact ⟨congrArg (Result.next · _) hg', trivial⟩

/-- **A state that is not read does not matter.** Let nothing in the grammars look at the
state, which they may write anywhere. The session begins alike, with the same grammar, cells,
builds or fault, whether the caller keeps a state or not, and nothing in it looks at the
state after any steps. From then on, with whatever cells, an application in any account and
a run in any account end alike from any two states, in one session or in one that keeps a
state and one that does not: with the same stream and outcome, the same fault, and the same
world, in which are the account with its excess, the cells and the counts of builds. So
steps that differ in their states are answered alike. -/
theorem unread_state_inert (h : Throughout Stateless setting main) (stateful : Bool) :
    (∀ fuel, start fuel { setting with stateful } main =
      (start fuel setting main).next fun session w => .done (session.keeping stateful) w) ∧
    (∀ fuel session w, start fuel setting main = .done session w →
      ∀ fuel' before, (session.after fuel' before).Unread) ∧
    ∀ session : Session, session.Unread → ∀ fuel,
      (∀ l target s s' t, (session.applyAt l fuel target s t).unstated =
        ((session.keeping stateful).applyAt l fuel target s' t).unstated) ∧
      (∀ l target config s s' source, (session.runAt l fuel target config s source).unstated =
        ((session.keeping stateful).runAt l fuel target config s' source).unstated) ∧
      ∀ steps steps', List.Forall₂ Step.Restated steps steps' →
        List.Forall₂ Answer.Concurs (session.steps fuel steps)
          ((session.keeping stateful).steps fuel steps') := by
  refine ⟨fun fuel => (start_unread h stateful fuel).1, fun fuel session w hstart fuel' before => ?_,
    fun session hsession fuel => ⟨fun l target s s' t => ?_, fun l target config s s' source => ?_,
      fun _ _ => hsession.steps stateful fuel⟩⟩
  · have hunread := (start_unread h stateful fuel).2
    rw [hstart] at hunread
    exact Unread.after hunread fuel' before
  · exact (follows_unread.mp (hsession.follows stateful fuel target) s s' t _ _
      (hsession.worlds l)).unstated_eq fun _ _ => UnreadWorlds.eq
  · exact (hsession.run stateful fuel target config s s' source
      (hsession.worlds l)).unstated_eq fun _ _ => UnreadWorlds.eq

/-- One more, where a number is kept. -/
def deeper : Value → Value
  | .int n => .int (n + 1)
  | v => v

/-- Brackets in one another, each of which counts. -/
def counted : Grammar :=
  .optional .null (.map (fun v => .array [v])
    (.between (.then_ (.transformState deeper) (.literal ['('])) (.literal [')']) (.rule "counted")))

def countedSetting : Setting := { rules := [("counted", counted)] }

/-- Brackets that are counted from three on are read alike where nobody counts. -/
theorem counted_inert :
    Throughout Stateless countedSetting counted ∧
    ∃ session world, start 20 countedSetting counted = .done session world ∧
      let source : Source := ⟨['(', '(', ')', ')'], 0⟩
      let v : Value := .array [.array [.null]]
      ∃ w, session.runAt {} 20 .main {} (.int 3) source = .done ⟨.int 5, ⟨source, 4, []⟩, .ok v⟩ w ∧
        ∀ s', ((session.keeping false).runAt {} 20 .main {} s' source).unstated =
          .done (⟨source, 4, []⟩, .ok v) w := by
  have hstateless : Throughout Stateless countedSetting counted := by
    constructor <;> simp [countedSetting, counted, All.iff_children, Picks, children, Stateless]
  obtain ⟨-, hunread, hinert⟩ := unread_state_inert hstateless false
  refine ⟨hstateless, _, _, rfl, _, rfl, fun s' => ?_⟩
  exact ((hinert _ (hunread 20 _ _ rfl 20 []) 20).2.1 {} .main {} (.int 3) s' _).symm

end Session

end Descent
