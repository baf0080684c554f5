import Descent.Proofs.Session
import Descent.Proofs.Variant.Evaluation

/-! Sessions of variants.

Two sessions are `Paired` if their rules, their main grammars and their cells are variants
of each other. A step takes paired sessions to paired sessions and is answered alike, but
for messages (`Paired.step`), and so are steps in order (`Paired.steps`). A session may be
paired with itself, which says of what nodes its cells consist. -/
namespace Descent
open Descent.Grammar Descent.Coupling

/-- The same state, stream and value, or a failure on both sides. -/
def Reply.Alike (reply reply' : Reply Value Value) : Prop :=
  reply.state = reply'.state ∧ reply.stream = reply'.stream ∧
    match reply.outcome, reply'.outcome with
    | .ok v, .ok v' => v = v'
    | .error _, .error _ => True
    | _, _ => False

namespace Session
variable {ok : Grammar → Prop} {reworded moved : Prop} {extra : Filter ℕ}
variable {session session' : Session} {setting setting' : Setting} {main main' : Grammar}

/-- Streams that are not displaced are equal. -/
theorem alike_of_abreast {source : Source} {base : Stream} {reply reply' : Reply Value Value}
    (h : Abreast (Stream.Displaced source source 0) (fun l l' => reworded ∨ l = l')
      (Stream.Leads False) base reply reply') : reply.Alike reply' := by
  obtain ⟨s, t, o⟩ := reply
  obtain ⟨s', t', o'⟩ := reply'
  obtain ⟨hs, ht, -, ho⟩ := h
  refine ⟨hs, Stream.Displaced.eq ht, ?_⟩
  cases o <;> cases o'
  case error.error => trivial
  all_goals exact ho

/-- Replies that are alike, the same fault or the same counts of builds. -/
def Answer.Alike : Answer → Answer → Prop
  | .ran reply _, .ran reply' _ | .applied reply, .applied reply' => reply.Alike reply'
  | .shape _, .shape _ | .outOfFuel, .outOfFuel => True
  | .builds counts, .builds counts' => counts = counts'
  | .fault cause, .fault cause' => cause = cause'
  | _, _ => False

/-- Sessions of variants between two steps. -/
structure Paired (ok : Grammar → Prop) (reworded : Prop) (session session' : Session) : Prop where
  setting : session.setting.Pairs (Variant ok reworded) session'.setting
  main : Variant ok reworded session.main session'.main
  world : Together ok reworded True session.world session'.world

/-- Sessions of variants begin alike. -/
theorem start_paired (hok : Blind ok moved reworded) (hextra : reworded → extra = Filter.atTop)
    (hsetting : setting.Pairs (Variant ok reworded) setting')
    (hmain : Variant ok reworded main main') (fuel : ℕ) :
    (start fuel setting main).Meets (Paired ok reworded) (Together ok reworded True) (¬moved) extra
      fun m => start (fuel + m) setting' main' :=
  (GoAbreast.build (eval_variant hok hsetting hextra fuel) hok hsetting hmain
    ⟨.refl True {}, .initial hsetting⟩).next
      (fun _ _ _ _ hg hw => .done ⟨hsetting, hg, hw⟩ hw) fun _ _ => id

namespace Paired

/-- The parsers of a target were built alike. -/
theorem grammar (h : Paired ok reworded session session') (hok : Stable ok) (target : Target) :
    Variant ok reworded (session.grammar target) (session'.grammar target) := by
  cases target with
  | main => exact h.main
  | rule name =>
    simp only [Session.grammar, h.setting.cellOf? name]
    cases session'.setting.cellOf? name with
    | none => exact .fail hok _
    | some id => exact .cell hok id

section
variable (h : Paired ok reworded session session') (hok : Blind ok moved reworded)
variable (hextra : reworded → extra = Filter.atTop)
include h hok hextra

theorem follows {source source' : Source} {k : ℕ} {placed : Prop}
    (hmoved : ¬moved → source = source' ∧ k = 0) (hplaced : placed → k = 0) (fuel : ℕ)
    (target : Target) :
    (displaced source source' k reworded (Together ok reworded placed) (¬moved) extra).Follows
      (session.parser fuel target) fun m => session'.parser (fuel + m) target :=
  eval_variant hok h.setting hextra fuel hmoved hplaced (h.grammar hok.toStable target)

/-- From one stream on. -/
theorem follows_here (source : Source) (fuel : ℕ) (target : Target) :
    (displaced source source 0 reworded (Together ok reworded True) (¬moved) extra).Follows
      (session.parser fuel target) fun m => session'.parser (fuel + m) target :=
  h.follows hok hextra (fun _ => ⟨rfl, rfl⟩) (fun _ => rfl) fuel target

theorem run (fuel : ℕ) (target : Target) (config : Config) (s : Value) (source : Source)
    {w w' : World Heap} (hw : Together ok reworded True w w') :
    (Parser.run config (session.parser fuel target) s source w).Meets Reply.Alike
      (Together ok reworded True) (¬moved) extra
      fun m => Parser.run config (session'.parser (fuel + m) target) s source w' :=
  (run_displaced (h.follows_here hok hextra source fuel target) config s hw).mono
    (fun _ _ => alike_of_abreast) fun _ _ => id

/-- Steps are answered alike if the left one is answered. -/
theorem step (fuel : ℕ) (step : Step) :
    (session.step fuel step).1 = .outOfFuel ∧ (session.step fuel step).2 = session ∨
    ∃ next, (∀ᶠ m in extra, session'.step (fuel + m) step = next) ∧
      (session.step fuel step).1.Alike next.1 ∧ Paired ok reworded (session.step fuel step).2 next.2 := by
  have hconclude {r : Result (World Heap) Answer} {d : ℕ → Result (World Heap) Answer}
      (hr : r.Meets Answer.Alike (Together ok reworded True) (¬moved) extra d) :
      (session.conclude r).1 = .outOfFuel ∧ (session.conclude r).2 = session ∨
      ∃ next, (∀ᶠ m in extra, session'.conclude (d m) = next) ∧
        (session.conclude r).1.Alike next.1 ∧ Paired ok reworded (session.conclude r).2 next.2 := by
    cases r with
    | done answer w =>
      obtain ⟨answer', w', hd, ha, hw⟩ := hr
      exact .inr ⟨_, hd.mono fun m hm => congrArg session'.conclude hm, ha, h.setting, h.main, hw⟩
    | fault cause w =>
      obtain ⟨-, w', hd, hw⟩ := hr
      exact .inr ⟨_, hd.mono fun m hm => congrArg session'.conclude hm, rfl, h.setting, h.main, hw⟩
    | outOfFuel => exact .inl ⟨rfl, rfl⟩
  cases step with
  | run target config state text twice =>
    have hrun {w w' : World Heap} (hw : Together ok reworded True w w') :=
      h.run hok hextra fuel target config (session.setting.written state) ⟨text, 0⟩ hw
    refine hconclude ?_
    simp only [Session.run, h.setting.written]
    refine (hrun h.world).next (fun reply reply' w w' hr hw => ?_) fun _ _ => id
    cases twice with
    | false => exact .done hr hw
    | true => exact (hrun hw).next (fun _ _ w w' _ hw => .done hr hw) fun _ _ => id
  | apply target state text offset =>
    simp only [Session.step, Session.apply, h.setting.written]
    cases hstream : (Stream.start ⟨text, 0⟩).advance offset with
    | error cause => exact .inr ⟨_, .of_forall fun _ => rfl, rfl, h⟩
    | ok stream =>
      refine hconclude ?_
      have hvalid := Stream.advance_valid (Stream.start_valid ⟨text, 0⟩) hstream
      have hhere : stream.Displaced stream.source stream.source 0 stream :=
        ⟨rfl, rfl, rfl, (Nat.zero_add _).symm⟩
      have hfollows := h.follows_here hok hextra stream.source fuel target
      exact (follows_abreast.mp hfollows stream _ stream stream _ _ hhere (.refl hvalid)
        h.world).next (fun _ _ _ _ hr hw => .done (alike_of_abreast hr) hw) fun _ _ => id
  | shape target => exact .inr ⟨_, .of_forall fun _ => rfl, trivial, h⟩
  | builds => exact .inr ⟨_, .of_forall fun _ => rfl, h.world.heap.builds, h⟩

/-- Steps in order, of which each one on the left is answered. -/
theorem steps (fuel : ℕ) (steps : List Step) (hends : .outOfFuel ∉ session.steps fuel steps) :
    ∀ᶠ m in extra, List.Forall₂ Answer.Alike (session.steps fuel steps)
      (session'.steps (fuel + m) steps) := by
  induction steps generalizing session session' with
  | nil => exact .of_forall fun _ => .nil
  | cons step more ih =>
    simp only [Session.steps, List.mem_cons, not_or] at hends ⊢
    obtain ⟨hstarved, -⟩ | ⟨next, hnext, hanswer, hpaired⟩ := h.step hok hextra fuel step
    · exact (hends.1 hstarved.symm).elim
    · refine hnext.mp ((ih hpaired hends.2).mono fun m hmore hnext => ?_)
      simp only [hnext]
      exact .cons hanswer hmore

end

/-- A session whose cells consist of such nodes keeps consisting of them. -/
theorem after (h : Paired ok False session session) (hok : Blind ok moved False) (fuel : ℕ)
    (before : List Step) :
    Paired ok False (session.after fuel before) (session.after fuel before) := by
  induction before generalizing session with
  | nil => exact h
  | cons step before ih =>
    have hextra : False → (pure 0 : Filter ℕ) = Filter.atTop := False.elim
    have hstep : Paired ok False (session.step fuel step).2 (session.step fuel step).2 := by
      obtain ⟨-, hsame⟩ | ⟨next, hnext, -, hpaired⟩ := h.step hok hextra fuel step
      · rwa [hsame]
      · rwa [← Filter.eventually_pure.mp hnext] at hpaired
    exact ih hstep

end Paired

end Session

end Descent
