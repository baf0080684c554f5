import Descent.Proofs.Limit.Termination

/-! Loops that stand still.

A loop that does not check that it moves, and once begins to idle for ever, never ends
(`manyTill_idles_forever` and its like for chains). So it cannot be left out of
`recursion_limit_terminates` that loops do not: there is a chain, of no more than a rule
in a rule and a look ahead, that ends on any text without a limit, and that a limit keeps
going in place for ever (`standing_diverges`). -/
namespace Descent
open Descent.Parser Descent.Grammar
open Filter (atTop)
open Coupling (eventually_add)

namespace Parser
variable {ω σ α β : Type}

/-- Succeeds in place over and over, if it ends at all. -/
def Stalls (round : Parser ω σ α) (t : Stream) (place : ℕ → σ × ω) : Prop :=
  ∀ i, round (place i).1 t (place i).2 = .outOfFuel ∨
    ∃ v, round (place i).1 t (place i).2 = .done ⟨(place (i + 1)).1, t, .ok v⟩ (place (i + 1)).2

variable {p : Parser ω σ α} {t : Stream} {place : ℕ → σ × ω}

theorem manyTillFrom_stalls {ending : Parser ω σ β}
    (h : Stalls (then_ (notFollowedBy ending) p) t place) (found : List α) (rounds i : ℕ) :
    manyTillFrom p ending found rounds (place i).1 t (place i).2 = .outOfFuel := by
  induction rounds generalizing found i with
  | zero => rfl
  | succ rounds ih =>
    have hround := h i
    simp only [then_, notFollowedBy, andThen, Result.next_next] at hround
    simp only [manyTillFrom, andThen]
    cases hending : ending (place i).1 t (place i).2 with
    | outOfFuel => rfl
    | fault f w => simp [hending] at hround
    | done finished w =>
      cases ho : finished.outcome with
      | ok v => simp [hending, ho, reject, accept] at hround
      | error l =>
        simp only [hending, Result.next_done, ho, accept] at hround
        obtain hp | ⟨v, hp⟩ := hround
        · simp only [Result.next_done, ho, hp, Result.next_outOfFuel]
        · simp only [Result.next_done, ho, hp]
          exact ih (v :: found) (i + 1)

theorem link_stalls {operator : Parser ω σ β} (combine : β → α → α → α)
    (h : Stalls (then_ operator p) t place) (i : ℕ)
    {more : (α → α → α) → α → σ → Stream → ω → Result ω (Reply σ α)}
    (hmore : ∀ f b, more f b (place (i + 1)).1 t (place (i + 1)).2 = .outOfFuel)
    (ends : ω → Result ω (Reply σ α)) :
    link (map combine operator) p (place i).1 t (place i).2 more ends = .outOfFuel := by
  have hround := h i
  simp only [then_, andThen] at hround
  simp only [link, map]
  cases hoperator : operator (place i).1 t (place i).2 with
  | outOfFuel => rfl
  | fault f w => simp [hoperator] at hround
  | done operation w =>
    cases ho : operation.outcome with
    | error l => simp [hoperator, ho, reject] at hround
    | ok f =>
      simp only [hoperator, Result.next_done, ho] at hround
      obtain hp | ⟨b, hp⟩ := hround
      · simp only [Result.next_done, Reply.map, ho, Except.map, hp, Result.next_outOfFuel]
      · simp only [Result.next_done, Reply.map, ho, Except.map, hp]
        exact hmore _ b

theorem chainLeftFrom_stalls {operator : Parser ω σ β} (combine : β → α → α → α)
    (h : Stalls (then_ operator p) t place) (acc : α) (rounds i : ℕ) :
    chainLeftFrom (map combine operator) p acc rounds (place i).1 t (place i).2 = .outOfFuel := by
  induction rounds generalizing acc i with
  | zero => rfl
  | succ rounds ih => exact link_stalls combine h i (fun f b => ih (f acc b) (i + 1)) _

theorem chainRightFrom_stalls {operator : Parser ω σ β} (combine : β → α → α → α)
    (h : Stalls (then_ operator p) t place) (pending : List (α × (α → α → α))) (last : α)
    (rounds i : ℕ) :
    chainRightFrom (map combine operator) p pending last rounds (place i).1 t (place i).2 =
      .outOfFuel := by
  induction rounds generalizing pending last i with
  | zero => rfl
  | succ rounds ih =>
    exact link_stalls combine h i (fun f b => ih ((last, f) :: pending) b (i + 1)) _

end Parser

/-! ### Grammars that idle -/

section
variable {setting : Setting} {t u : Stream} {s : Value} {w : World Log}
variable {place : ℕ → Value × World Log}

open Coupling

/-- With any fuel a parser comes to nothing else than with all large amounts. -/
theorem eq_of_eventually {α : Type} {q : ℕ → Parser (World Log) Value α} {n : ℕ}
    (h : (lockstep (World.Beside Eq) ⊤).Follows (q n) fun m => q (n + m))
    {r : Result (World Log) (Reply Value α)} (hd : ∀ᶠ m in atTop, q m s t w = r) :
    q n s t w = .outOfFuel ∨ q n s t w = r := by
  refine or_iff_not_imp_left.mpr fun hn => ?_
  obtain ⟨m, hm⟩ := ((eventually_add n _).mpr hd).exists
  exact (h.eq_of_more hn m).symm.trans hm

theorem round_lockstep {g : Grammar} {round : ℕ → Parser (World Log) Value Value}
    (hround : round ∈ round? setting g) (n : ℕ) :
    (lockstep (World.Beside Eq) ⊤).Follows (round n) fun m => round (n + m) := by
  cases g <;> simp only [round?, Option.mem_def, Option.some.injEq, reduceCtorEq] at hround
  case manyTill p ending =>
    subst hround
    exact ((meaning_lockstep ⊤ setting n ending).notFollowedBy lockstep_lawful).then_
      (meaning_lockstep ⊤ setting n p)
  all_goals
    subst hround
    exact (meaning_lockstep ⊤ setting n _).then_ (meaning_lockstep ⊤ setting n _)

/-- Idling is the same with any fuel that is enough. -/
theorem stalls_of_idles {g : Grammar} {round : ℕ → Parser (World Log) Value Value}
    (hround : round ∈ round? setting g) (h : ∀ i, Idles round t (place (i + 1)) (place i)) (n : ℕ) :
    Stalls (round n) t place := fun i =>
  have ⟨_, v, hd⟩ := h i
  (eq_of_eventually (round_lockstep hround n) hd).imp_right fun hn => ⟨v, hn⟩

/-- **Items until an ending** never end that idle for ever. -/
theorem manyTill_idles_forever {p ending : Grammar}
    (h : ∀ i, Idles (fun m => then_ (notFollowedBy (meaning setting m ending)) (meaning setting m p))
      t (place (i + 1)) (place i)) (n : ℕ) :
    meaning setting n (.manyTill p ending) (place 0).1 t (place 0).2 = .outOfFuel := by
  cases n with
  | zero => rfl
  | succ n =>
    have hstalls := stalls_of_idles (g := .manyTill p ending) rfl h n
    simp only [meaning, layer, reference, Parser.map, Parser.manyTill,
      manyTillFrom_stalls hstalls, Result.next_outOfFuel]

section
variable {operator p : Grammar} {v : Value} (combine : Value → Value → Value → Value)

/-- **A chain** never ends that idles for ever after its first operand. -/
theorem chainLeft_idles_forever
    (hfirst : ∀ᶠ m in atTop, meaning setting m p s u w =
      .done ⟨(place 0).1, t, .ok v⟩ (place 0).2)
    (h : ∀ i, Idles (fun m => then_ (meaning setting m operator) (meaning setting m p)) t
      (place (i + 1)) (place i)) (n : ℕ) :
    meaning setting n (.chainLeft operator p combine) s u w = .outOfFuel := by
  cases n with
  | zero => rfl
  | succ n =>
    have hstalls := stalls_of_idles (g := .chainLeft operator p combine) rfl h n
    simp only [meaning, layer, reference, Parser.chainLeft, andThen]
    obtain hn | hn := eq_of_eventually (meaning_lockstep ⊤ setting n p) hfirst
    · simp only [hn, Result.next_outOfFuel]
    · simp only [hn, Result.next_done, chainLeftFrom_stalls combine hstalls]

theorem chainRight_idles_forever
    (hfirst : ∀ᶠ m in atTop, meaning setting m p s u w =
      .done ⟨(place 0).1, t, .ok v⟩ (place 0).2)
    (h : ∀ i, Idles (fun m => then_ (meaning setting m operator) (meaning setting m p)) t
      (place (i + 1)) (place i)) (n : ℕ) :
    meaning setting n (.chainRight operator p combine) s u w = .outOfFuel := by
  cases n with
  | zero => rfl
  | succ n =>
    have hstalls := stalls_of_idles (g := .chainRight operator p combine) rfl h n
    simp only [meaning, layer, reference, Parser.chainRight, andThen]
    obtain hn | hn := eq_of_eventually (meaning_lockstep ⊤ setting n p) hfirst
    · simp only [hn, Result.next_outOfFuel]
    · simp only [hn, Result.next_done, chainRightFrom_stalls combine hstalls]

end

end

/-! ### A chain that a limit keeps going -/

/-- A character, worth one. Where it cannot be had through the rules, a look at it is
worth two. -/
def glimpsed : Grammar :=
  .or (.lazy (.lazy (.map (fun _ => .int 1) .anyChar)))
    (.lookAhead (.map (fun _ => .int 2) .anyChar))

/-- Between the characters is an operator that is found everywhere. -/
def standing : Grammar := .chainLeft (.succeed (.str "+")) glimpsed Value.compute

theorem standing_plain : Plain standing := by
  simp [standing, glimpsed, All.iff_children, Picks, children, Written]

/-- Where the chain stands, and in which world after the excess. -/
def standingStream : Stream := .start ⟨['a'], 0⟩
def standingWorld : World Log :=
  ⟨{ limit := 1, inRun := true, tripped := some ⟨0, 2, 1⟩ }, [⟨0, 1⟩]⟩

theorem glimpsed_first : ∀ᶠ m in atTop,
    meaning {} m glimpsed .null standingStream ⟨({} : Ledger).beginRun 1, []⟩ =
      .done ⟨.null, standingStream, .ok (.int 2)⟩ standingWorld :=
  (eventually_add 4 _).mp (.of_forall fun _ => rfl)

theorem glimpsed_idles :
    Idles (fun m => then_ (meaning {} m (.succeed (.str "+"))) (meaning {} m glimpsed))
      standingStream (.null, standingWorld) (.null, standingWorld) :=
  ⟨rfl, .int 2, (eventually_add 4 _).mp (.of_forall fun _ => rfl)⟩

theorem standing_run (n : ℕ) : Parser.run { maxRecursionDepth := 1 } (meaning {} n standing) .null
    ⟨['a'], 0⟩ ⟨{}, []⟩ = .outOfFuel := by
  have hends : meaning {} n standing .null standingStream ⟨({} : Ledger).beginRun 1, []⟩ =
      .outOfFuel :=
    @chainLeft_idles_forever _ _ _ _ _ (fun _ => (.null, standingWorld)) _ _ _ Value.compute
      glimpsed_first (fun _ => glimpsed_idles) n
  rw [run_accepted _ _ _ (by decide)]
  exact congrArg (finished _ _) hends

/-- **A limit can keep a run from ending**: over one character the chain ends without a
limit, and under the limit 1 it never does. -/
theorem standing_diverges :
    ∃ session world, (∀ fuel, Session.start fuel {} standing = .done session world) ∧
      (∃ n, session.runAt {} n .main { maxRecursionDepth := 0 } .null ⟨['a'], 0⟩ ≠ .outOfFuel) ∧
      ∀ n, session.runAt {} n .main { maxRecursionDepth := 1 } .null ⟨['a'], 0⟩ = .outOfFuel := by
  obtain ⟨session, world, hstart, hready⟩ :=
    @Session.start_ready {} _ standing_plain nofun
  refine ⟨session, world, hstart, ⟨6, ?_⟩, fun n => ?_⟩
  · rw [Ne, (hready.runAt _ _ _ _ _ _).outOfFuel_iff]
    nofun
  · rw [(hready.runAt _ _ _ _ _ _).outOfFuel_iff]
    exact standing_run n

end Descent
