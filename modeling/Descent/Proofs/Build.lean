import Descent.Grammar.Build
import Descent.Proofs.Shape

/-! Building, case by case.

Only deferred parsers and probes are built in a way of their own. Every other node is
the same node over its children, built in order (`build_eq`). -/
namespace Descent.Grammar
variable {setting : Setting} {prober : Prober}

/-- A node that is not about recursion is built by building its children. -/
theorem build_eq {g : Grammar} (hg : ¬g.Recursive) (w : World Heap) :
    build setting prober g w =
      (buildAll setting prober g.children w).next fun ps w => .done (g.rebuild ps) w := by
  cases g <;> simp only [Recursive, not_true_eq_false] at hg <;>
    simp only [build, buildAll, built, children, rebuild, Result.next_next, Result.next_done]

theorem buildAll_congr {setting' : Setting} {ps : List Grammar}
    (h : ∀ p ∈ ps, build setting prober p = build setting' prober p) :
    buildAll setting prober ps = buildAll setting' prober ps := by
  induction ps with
  | nil => rfl
  | cons p ps ih =>
    obtain ⟨hp, hps⟩ := List.forall_mem_cons.mp h
    funext w
    rw [buildAll, buildAll, hp, ih hps]

/-- Whether the caller keeps a state is nothing to what is built. -/
theorem build_stateful (setting : Setting) (stateful : Bool) (prober : Prober) (g : Grammar) :
    build { setting with stateful } prober g = build setting prober g := by
  induction g using children_induction with
  | step g ih =>
    funext w
    by_cases hg : g.Recursive
    · cases g with
      | rule name => rw [build, build]; rfl
      | fresh name => rw [build, build]; rfl
      | lazy p => rw [build, build]
      | cell id => rfl
      | probe p text => rw [build, build, ih p (List.mem_singleton_self p)]
      | _ => exact hg.elim
    · rw [build_eq hg, build_eq hg, buildAll_congr ih]

end Descent.Grammar
