import Descent.Proofs.Limit
import Descent.Proofs.Session

/-! What the recursion limit means.

A run under a limit is the run without one, or the verdict on the first deferred
application that is too deep. Nothing that encloses the application can hide, replace or
move it (`recursion_limit_exact`). The applications are those in the log of the
reference, which has the run's own ones and not those of nested runs. -/
namespace Descent
open Descent.Parser Descent.Grammar

namespace Coupling
variable {source : Source} {L d₀ : ℕ}

/-- With no fuel and nothing promised there is nothing to show. -/
theorem alone_of_starved {α : Type} {q : ℕ → Parser (World Log) Value α}
    (hq : q 0 = fun _ _ _ => .outOfFuel) : (limited source L d₀ (pure 0) False False).Alone q :=
  fun _ _ _ _ _ _ _ => ⟨.outOfFuel, Filter.eventually_pure.mpr (by simp only [hq]), id⟩

theorem limited_lawful_pure : (limited source L d₀ (pure 0) False False).Lawful :=
  limited_equal.lawful limited_ahead_past fun _ _ => alone_of_starved rfl

theorem limited_escapes_pure (parts : ℕ → Parts (World Log)) (g : Grammar) :
    (limited source L d₀ (pure 0) False False).Escapes parts g := by
  cases g with
  | manyTill p ending => exact fun _ => alone_of_starved rfl
  | chainLeft operator p combine => exact fun _ => alone_of_starved rfl
  | chainRight operator p combine => exact fun _ _ => alone_of_starved rfl
  | _ => trivial

/-- With the same fuel on both sides nothing is asked of a plain grammar. -/
theorem meaning_limited_pure (source : Source) (d₀ : ℕ) {setting : Setting}
    (hrules : ∀ entry ∈ setting.rules, Plain entry.2)
    (hL : 0 < L) (n : ℕ) {g : Grammar} (hg : Plain g) :
    (limited source L d₀ (pure 0) False False).Follows (meaning setting n g)
      fun m => meaning setting (n + m) g :=
  meaning_limited hL limited_lawful_pure (fun _ _ => all_definition? hrules)
    (fun _ hok => ⟨hok, False.elim⟩) (fun _ _ => alone_of_starved rfl)
    (fun _ g _ => limited_escapes_pure _ g)
    (fun n config p _ => apart_alone (fun m => meaning_accounts setting (n + m) p) config
      fun _ _ _ _ _ _ => ⟨_, Filter.eventually_pure.mpr rfl, False.elim⟩) n hg

end Coupling

/-- What the limit means for the reference. -/
theorem meaning_limit_exact {setting : Setting} (hrules : ∀ entry ∈ setting.rules, Plain entry.2)
    {g : Grammar} (hg : Plain g) {config : Config} (hL : 0 < config.maxRecursionDepth) {n : ℕ}
    {l : Ledger} {s : Value} {source : Source} {r₀ r : Reply Value Value} {w₀ w : World Log}
    (h₀ : Parser.run { config with maxRecursionDepth := 0 } (meaning setting n g) s source ⟨l, []⟩ =
      .done r₀ w₀)
    (h : Parser.run config (meaning setting n g) s source ⟨l, []⟩ = .done r w) :
    ((∀ v ∈ w₀.heap, v.depth ≤ config.maxRecursionDepth) → r = r₀) ∧
      ∀ v, w₀.heap.firstBeyond config.maxRecursionDepth = some v →
        r.outcome = .error [Excess.message ⟨v.offset, max config.maxRecursionDepth l.depth + 1,
          config.maxRecursionDepth⟩] ∧
        (Stream.start source).advance? v.offset = some r.stream := by
  have hrun := Coupling.run_limited
    (Coupling.meaning_limited_pure source l.depth hrules hL n hg) rfl s
  rw [h₀] at hrun
  obtain ⟨hlog, w', hd⟩ | ⟨x, hx, r', hd, hr⟩ := hrun
  · rw [Filter.eventually_pure, Nat.add_zero, h] at hd
    cases hd
    refine ⟨fun _ => rfl, fun v hv => ?_⟩
    have hdeep : config.maxRecursionDepth < v.depth := by simpa using List.find?_some hv
    exact absurd (hlog v (List.mem_of_find?_eq_some hv)) (Nat.not_le_of_lt hdeep)
  · rw [Filter.eventually_pure, Nat.add_zero, h] at hd
    subst hd
    have hdeep : config.maxRecursionDepth < x.depth := by simpa using List.find?_some hx
    refine ⟨fun hlog => absurd (hlog _ (List.mem_of_find?_eq_some hx)) (Nat.not_le_of_lt hdeep),
      fun v hv => ?_⟩
    obtain rfl : x.toVisit = v := Option.some.inj (hx.symm.trans hv)
    have hr : x.Verdict r := hr
    rwa [FirstExcess.Verdict, FirstExcess.excess, x.depth_eq] at hr

/-- **The exact meaning of the recursion limit**, for any target of any session of plain
grammars after any steps, from any state and entry depth, when the run without limit and
the run under the limit both end. If no deferred application of the run without limit is
deeper than the limit, the replies are equal. Else the run under the limit fails with the
message of the excess alone, at the place of the first such application. -/
theorem recursion_limit_exact {setting : Setting} {main : Grammar} (hmain : Plain main)
    (hrules : ∀ entry ∈ setting.rules, Plain entry.2) {fuel : ℕ} {session : Session}
    {world : World Heap} (hstart : Session.start fuel setting main = .done session world)
    (k : ℕ) (before : List Session.Step) (l : Ledger) (target : Session.Target) {config : Config}
    (hL : 0 < config.maxRecursionDepth) (s : Value) (source : Source) {n₀ n : ℕ}
    {r₀ r : Reply Value Value} {w₀ w : World Heap}
    (h₀ : (session.after k before).runAt l n₀ target { config with maxRecursionDepth := 0 } s
      source = .done r₀ w₀)
    (h : (session.after k before).runAt l n target config s source = .done r w) :
    ∃ w' : World Log,
      Parser.run { config with maxRecursionDepth := 0 } (meaning setting n₀ (target.written main)) s
        source ⟨l, []⟩ = .done r₀ w' ∧
      ((∀ v ∈ w'.heap, v.depth ≤ config.maxRecursionDepth) → r = r₀) ∧
      ∀ v, w'.heap.firstBeyond config.maxRecursionDepth = some v →
        r.outcome = .error [Excess.message ⟨v.offset, max config.maxRecursionDepth l.depth + 1,
          config.maxRecursionDepth⟩] ∧
        (Stream.start source).advance? v.offset = some r.stream := by
  have hready := (Session.ready_of_start hmain hrules hstart).after k before
  have hleft := hready.runAt l n₀ target { config with maxRecursionDepth := 0 } s source
  have hright := hready.runAt l n target config s source
  rw [h₀] at hleft
  rw [h] at hright
  obtain ⟨w', hd₀, -⟩ := hleft
  obtain ⟨w₁', hd, -⟩ := hright
  rw [Filter.eventually_pure] at hd₀ hd
  refine ⟨w', hd₀, ?_⟩
  -- both with the fuel of both
  have hmore₀ := Coupling.run_meaning_mono hd₀ (by simp) n
  have hmore := Coupling.run_meaning_mono hd (by simp) n₀
  rw [Nat.add_comm] at hmore
  exact meaning_limit_exact hrules (target.written_all hmain fun _ => trivial) hL hmore₀ hmore

open Session (brackets bracketsSetting brackets_plain bracketsSetting_plain)

/-- The brackets under the limit 1: the second rule is too deep, and the failure is there. -/
theorem brackets_limit_exact :
    Plain brackets ∧ (∀ entry ∈ bracketsSetting.rules, Plain entry.2) ∧
    ∃ session world r₀ w₀ r w,
    let source : Source := ⟨['(', '(', ')', ')'], 0⟩
    Session.start 0 bracketsSetting brackets = .done session world ∧
      session.runAt {} 20 .main { maxRecursionDepth := 0 } .null source = .done r₀ w₀ ∧
      session.runAt {} 20 .main { maxRecursionDepth := 1 } .null source = .done r w ∧
      r₀.outcome = .ok (.array [.array [.null]]) ∧
      r.outcome = .error [Excess.message ⟨2, 2, 1⟩] ∧
      (Stream.start source).advance? 2 = some r.stream := by
  refine ⟨brackets_plain, bracketsSetting_plain, _, _, _, _, _, _, rfl, rfl, rfl, rfl, ?_⟩
  obtain ⟨w', h₀, -, hbeyond⟩ := @recursion_limit_exact _ _ brackets_plain bracketsSetting_plain 0
    _ _ rfl 0 [] {} .main { maxRecursionDepth := 1 } (by decide) .null ⟨['(', '(', ')', ')'], 0⟩
    20 20 _ _ _ _ rfl rfl
  cases h₀
  exact hbeyond ⟨2, 2⟩ rfl

end Descent
