import Descent.Proofs.Variant.Session

/-! Diagnostics do not influence parsing.

Labels and changes of messages say how a failure is told, and nothing else comes of them:
two sessions whose grammars and rules differ in such nodes alone, at any places, give the
same answers to all steps, up to the messages of failures (`diagnostics_inert`). The one
may need more fuel than the other, for the nodes that it has more. -/
namespace Descent
open Descent.Grammar Descent.Coupling

namespace Grammar

/-- The node is no probe. -/
def Probeless : Grammar → Prop
  | .probe _ _ => False
  | _ => True

theorem probeless_blind : Blind Probeless False True where
  like h := by cases h <;> exact id
  cell _ := trivial
  fail _ := trivial
  succeed _ := trivial
  placeless _ := False.elim
  probeless := False.elim

/-- The one grammar is the other one, where labels and changes of messages may be missing
at any places, also in what is chosen and deferred. None of the two has cells or probes. -/
abbrev Reworded : Grammar → Grammar → Prop := Variant Written True

variable {g g' : Grammar}

theorem Reworded.plain (h : Reworded g g') : Plain g :=
  h.all fun hg => by cases hg <;> trivial

theorem Reworded.probeless (h : Reworded g g') : Variant Probeless True g g' :=
  h.mono fun g hg => by cases g <;> first | exact hg.elim | trivial

theorem Reworded.plain_rules {setting setting' : Setting} (h : setting.Pairs Reworded setting') :
    ∀ entry ∈ setting.rules, Plain entry.2 := by
  have hrules := h.rules
  generalize setting.rules = rules, setting'.rules = rules' at hrules
  induction hrules with
  | nil => exact fun _ he => (List.not_mem_nil he).elim
  | cons hentry _ ih => exact List.forall_mem_cons.mpr ⟨Reworded.plain hentry.2, ih⟩

end Grammar

namespace Session
variable {setting setting' : Setting} {main main' : Grammar}

/-- Sessions of reworded grammars begin, with any fuel, and are paired. -/
theorem start_reworded (hsetting : setting.Pairs Reworded setting') (hmain : Reworded main main') :
    ∃ session world session' world', (∀ fuel, start fuel setting main = .done session world) ∧
      (∀ fuel, start fuel setting' main' = .done session' world') ∧
      Paired Probeless True session session' := by
  obtain ⟨session, world, hstart, -⟩ := start_ready (Reworded.plain hmain)
    (Reworded.plain_rules hsetting)
  obtain ⟨session', world', hstart', -⟩ := start_ready (Reworded.plain hmain.symm)
    (Reworded.plain_rules (hsetting.symm fun _ _ => Variant.symm))
  have hpaired := start_paired probeless_blind (fun _ => rfl)
    (hsetting.mono fun _ _ => Reworded.probeless) (Reworded.probeless hmain) 0
  rw [hstart] at hpaired
  obtain ⟨again, w', hd, hpaired, -⟩ := hpaired
  obtain ⟨m, hm⟩ := hd.exists
  cases (hstart' (0 + m)).symm.trans hm
  exact ⟨session, world, session', world', hstart, hstart', hpaired⟩

/-- What is answered on the left is answered alike on the right, with enough fuel. -/
theorem Paired.answers {session session' : Session} (h : Paired Probeless True session session')
    (fuel : ℕ) (before : List Step) (hends : .outOfFuel ∉ session.steps fuel before) :
    ∀ᶠ fuel' in Filter.atTop, List.Forall₂ Answer.Alike (session.steps fuel before)
      (session'.steps fuel' before) := by
  rw [← Filter.map_add_atTop_eq_nat fuel, Filter.eventually_map]
  simp only [Nat.add_comm _ fuel]
  exact h.steps probeless_blind (fun _ => rfl) fuel before hends

theorem Paired.symm {ok : Grammar → Prop} {reworded : Prop} {session session' : Session}
    (h : Paired ok reworded session session') : Paired ok reworded session' session where
  setting := h.setting.symm fun _ _ => Variant.symm
  main := h.main.symm
  world := ⟨h.world.ledger.eq ▸ .refl True _, h.world.heap.symm fun _ _ => Variant.symm⟩

/-- **Diagnostics do not influence parsing.** Of two grammars with their rules, let the one
be the other with labels and changes of messages left out anywhere, and let there be no
probe, which makes values of messages. If the steps of a session with the one end, with a
reply or in a fault, then the same steps with the other one do so, with enough fuel, and
are answered alike: with the same state, stream and value or a failure on both sides, the
same fault, and the same counts of builds. -/
theorem diagnostics_inert (hsetting : setting.Pairs Reworded setting')
    (hmain : Reworded main main') :
    ∃ session world session' world', (∀ fuel, start fuel setting main = .done session world) ∧
      (∀ fuel, start fuel setting' main' = .done session' world') ∧
      ∀ fuel steps,
        (.outOfFuel ∉ session.steps fuel steps → ∀ᶠ fuel' in Filter.atTop,
          List.Forall₂ Answer.Alike (session.steps fuel steps) (session'.steps fuel' steps)) ∧
        (.outOfFuel ∉ session'.steps fuel steps → ∀ᶠ fuel' in Filter.atTop,
          List.Forall₂ Answer.Alike (session'.steps fuel steps) (session.steps fuel' steps)) := by
  obtain ⟨session, world, session', world', hstart, hstart', h⟩ := start_reworded hsetting hmain
  exact ⟨session, world, session', world', hstart, hstart', fun fuel steps =>
    ⟨h.answers fuel steps, h.symm.answers fuel steps⟩⟩

/-- Brackets to the end of the text, which has a name. -/
def toldBrackets : Grammar := .skipRight (.rule "brackets") (.label "end of brackets" .endOfInput)

/-- The rule of brackets, which tells at length that one is not closed. -/
def toldSetting : Setting :=
  { rules := [("brackets", .optional .null (.map (fun v => .array [v])
      (.mapMessages (fun messages => "not closed" :: messages) (.between (.literal ['('])
        (.label "closing bracket" (.literal [')'])) (.rule "brackets")))))] }

/-- The brackets without names fail where those with names do, after as many builds. -/
theorem told_inert :
    toldSetting.Pairs Reworded bracketsSetting ∧
    Reworded toldBrackets (.skipRight (.rule "brackets") .endOfInput) ∧
    ∃ session' world', (∀ fuel, start fuel bracketsSetting
        (.skipRight (.rule "brackets") .endOfInput) = .done session' world') ∧
      ∀ᶠ fuel in Filter.atTop, List.Forall₂ Answer.Alike
        [.ran ⟨.null, .start ⟨['(', '(', ')'], 0⟩, .error ["expected end of brackets"]⟩ none,
          .builds [("brackets", 1)]]
        (session'.steps fuel [.run .main {} .null ['(', '(', ')'] false, .builds]) := by
  have hleaf {g : Grammar} (hg : Plain g) : Reworded g g := .refl hg
  have hrule : Reworded (.rule "brackets") (.rule "brackets") :=
    hleaf (by simp [All.iff_children, Picks, children, Written])
  have hliteral (text : Text) : Reworded (.literal text) (.literal text) :=
    hleaf (by simp [All.iff_children, Picks, children, Written])
  have hend : Reworded .endOfInput .endOfInput :=
    hleaf (by simp [All.iff_children, Picks, children, Written])
  have hmain : Reworded toldBrackets (.skipRight (.rule "brackets") .endOfInput) :=
    .node (.skipRight hrule (.left trivial (.label _) hend)) trivial trivial
  have hbetween := Variant.node (.between (hliteral ['('])
    (.left trivial (.label "closing bracket") (hliteral [')'])) hrule) trivial trivial
  have hsetting : toldSetting.Pairs Reworded bracketsSetting :=
    { rules := .cons ⟨rfl, .node (.optional .null (.node (.map _ (.left trivial (.mapMessages _)
        hbetween)) trivial trivial)) trivial trivial⟩ .nil
      stateful := rfl }
  obtain ⟨session, world, session', world', hstart, hstart', h⟩ :=
    diagnostics_inert hsetting hmain
  refine ⟨hsetting, hmain, session', world', hstart', ?_⟩
  cases (hstart 0).symm.trans rfl
  have hfails := (h 20 [.run .main {} .null ['(', '(', ')'] false, .builds]).1
  refine hfails fun hstarved => ?_
  obtain h | h := List.mem_pair.mp hstarved <;> cases h

end Session

end Descent
