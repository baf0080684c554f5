import Descent.Proofs.Coupling.Loops
import Descent.Proofs.Limit
import Descent.Proofs.Session

/-! When a limit keeps the end of a run.

From the first excess on every deferred application of the run fails at once, so what is
left of the grammar is a finite tree of combinators, and only a loop can keep the run
from ending. So a run that ends without a limit ends under one too, unless a loop that
does not check that it moves goes on for ever in place after the excess
(`recursion_limit_terminates`). That is asked of each node of the grammar (`Unwinds`).
What is deferred need not be looked at. -/
namespace Descent
open Descent.Parser Descent.Grammar
open Filter (atTop eventually_atTop)

/-- A round that succeeds in place, after an excess, from one state and world to another. -/
def Idles {α : Type} (round : ℕ → Parser (World Log) Value α) (t : Stream)
    (after before : Value × World Log) : Prop :=
  before.2.ledger.tripped.isSome ∧
    ∃ v, ∀ᶠ m in atTop, round m before.1 t before.2 = .done ⟨after.1, t, .ok v⟩ after.2

/-- A round that never succeeds in place does not go on with it for ever. -/
theorem Idles.wellFounded {α : Type} {round : ℕ → Parser (World Log) Value α} {t : Stream}
    (h : ∀ after before, ¬Idles round t after before) : WellFounded (Idles round t) :=
  ⟨fun before => ⟨before, fun after hin => (h after before hin).elim⟩⟩

namespace Grammar

/-- A round of a loop that does not check that it moves. -/
def round? (setting : Setting) : Grammar → Option (ℕ → Parser (World Log) Value Value)
  | .manyTill p ending => some fun m =>
    Parser.then_ (Parser.notFollowedBy (meaning setting m ending)) (meaning setting m p)
  | .chainLeft operator p _ | .chainRight operator p _ => some fun m =>
    Parser.then_ (meaning setting m operator) (meaning setting m p)
  | _ => none

/-- A node from which a run comes to its end after an excess. -/
structure Unwinds (setting : Setting) (g : Grammar) : Prop where
  written : Written g
  forward : g ≠ .rewind
  /-- A loop that does not check that it moves does not idle for ever. -/
  rounds : ∀ round ∈ round? setting g, ∀ t : Stream, t.Valid → WellFounded (Idles round t)
  /-- A nested run has a limit of its own, and ends. -/
  nested : ∀ config p, g = .nestedRun config p → ∀ s (t : Stream) w, t.Valid →
    w.ledger.tripped.isSome →
      ∃ n, apart (Parser.nestedRun config (meaning setting n p)) s t w ≠ .outOfFuel

/-- A node that is no such loop and no nested run. -/
theorem Unwinds.of_node {setting : Setting} {g : Grammar} (hwritten : Written g)
    (hforward : g ≠ .rewind) (hround : round? setting g = none)
    (hnested : ∀ config p, g ≠ .nestedRun config p) : Unwinds setting g :=
  ⟨hwritten, hforward, by simp [hround], fun config p hg => (hnested config p hg).elim⟩

end Grammar

namespace Coupling
variable {α β : Type} {source : Source} {L d₀ : ℕ}

/-- Runs that go forward, of which the one under the limit has any fuel it needs. -/
abbrev unwinding (source : Source) (L d₀ : ℕ) : Coupling (World Log) (World Log) :=
  limited source L d₀ atTop True True

theorem unwinding_progressive : (unwinding source L d₀).Progressive where
  extra := rfl
  answers := trivial
  stay h := ⟨h.1, h.2.1, fun _ => le_rfl⟩
  trans h h' := ⟨h'.1, h'.2.1, fun _ => (h.2.2 trivial).trans (h'.2.2 trivial)⟩
  valid h := h.1
  source_eq h h' := h'.2.1.trans h.2.1.symm
  offset_le h := h.2.2 trivial

/-- A loop is idle only after an excess. -/
theorem idling_wellFounded {round : ℕ → Parser (World Log) Value α} {t : Stream}
    (h : WellFounded (Idles round t)) (x : FirstExcess source L d₀) :
    WellFounded ((unwinding source L d₀).Idling x round t) :=
  Subrelation.wf (fun hin => ⟨Option.isSome_of_eq_some hin.1, hin.2⟩) h

theorem strays_add (n : ℕ) {fit : β → Prop} {d : ℕ → Result (World Log) β}
    {x : FirstExcess source L d₀} : (unwinding source L d₀).Strays fit (fun m => d (m + n)) x ↔
      (unwinding source L d₀).Strays fit d x :=
  exists_congr fun r => and_congr_left' (eventually_add n fun m => d m = r)

theorem alone_add (n : ℕ) {q : ℕ → Parser (World Log) Value α} :
    ((unwinding source L d₀).Alone fun m => q (m + n)) ↔ (unwinding source L d₀).Alone q :=
  ⟨fun h base s t ha x w hx => (strays_add n).mp (h base s t ha x w hx),
    fun h base s t ha x w hx => (strays_add n).mpr (h base s t ha x w hx)⟩

theorem idles_add (n : ℕ) (round : ℕ → Parser (World Log) Value α) (t : Stream) :
    Idles (fun m => round (m + n)) t = Idles round t := by
  funext after before
  exact propext (and_congr_right' (exists_congr fun v =>
    eventually_add n fun m => round m before.1 t before.2 = .done ⟨after.1, t, .ok v⟩ after.2))

theorem unwinding_lawful : (unwinding source L d₀).Lawful :=
  limited_equal.lawful limited_ahead_past unwinding_progressive.alone_many

variable {setting : Setting} {g : Grammar}

theorem escapes_unwinding (h : Unwinds setting g)
    (hchildren : ∀ p ∈ g.children, (unwinding source L d₀).Alone fun m => meaning setting m p)
    (n : ℕ) : (unwinding source L d₀).Escapes
      (fun m => reference setting (meaning setting (m + n)) (m + n)) g := by
  have hparts (p : Grammar) (hp : p ∈ g.children) :
      (unwinding source L d₀).Alone fun m => meaning setting (m + n) p :=
    (alone_add n (q := fun m => meaning setting m p)).mpr (hchildren p hp)
  have hrounds (round) (hround : round ∈ round? setting g) (t : Stream) (ht : t.Valid) :
      WellFounded (Idles (fun m => round (m + n)) t) :=
    idles_add n round t ▸ h.rounds round hround t ht
  cases g with
  | manyTill p ending =>
    exact fun found => unwinding_progressive.alone_manyTill (hparts p (by simp [children]))
      (hparts ending (by simp [children]))
      (fun x t ht => idling_wellFounded (hrounds _ rfl t ht.1) x) found
  | chainLeft operator p combine =>
    exact fun acc => unwinding_progressive.alone_chainLeft combine
      (hparts operator (by simp [children])) (hparts p (by simp [children]))
      (fun x t ht => idling_wellFounded (hrounds _ rfl t ht.1) x) acc
  | chainRight operator p combine =>
    exact fun pending last => unwinding_progressive.alone_chainRight combine
      (hparts operator (by simp [children])) (hparts p (by simp [children]))
      (fun x t ht => idling_wellFounded (hrounds _ rfl t ht.1) x) pending last
  | _ => trivial

theorem alone_nested (h : Unwinds setting g) {config : Config} {p : Grammar}
    (hg : g = .nestedRun config p) :
    (unwinding source L d₀).Alone fun m => apart (Parser.nestedRun config (meaning setting m p)) := by
  refine apart_alone (fun m => meaning_accounts setting m p) config fun s t w ht _ htripped => ?_
  obtain ⟨n, hn⟩ := h.nested config p hg s t w ht htripped
  let q (m : ℕ) := apart (Parser.nestedRun config (meaning setting m p))
  have hmore : (lockstep (World.Beside Eq) ⊤).Follows (q n) fun m => q (n + m) :=
    apart_lockstep rfl (nestedRun_lockstep (meaning_lockstep ⊤ setting n p) config)
  exact ⟨_, (eventually_add n fun m => q m s t w = q n s t w).mp (.of_forall (hmore.eq_of_more hn)),
    fun _ => hn⟩

/-- **After an excess a grammar ends** with any fuel that is enough. -/
theorem alone_meaning (hg : All (Unwinds setting) g) :
    (unwinding source L d₀).Alone fun m => meaning setting m g := by
  induction hg with
  | @node g here _ _ hchildren hpicks =>
  rw [← alone_add 1]
  by_cases hrec : g.Recursive
  · -- refused, or there is nothing to refuse
    simp only [meaning_recursive hrec, recalled]
    cases body? setting g with
    | none => exact (Follows.fail unwinding_lawful _).alone
    | some p => exact fun base s t hahead x w hx =>
        ⟨_, .of_forall fun m => deferred_tripped _ s t hx, hahead, hx⟩
  · exact layer_alone unwinding_lawful False.elim
      (.refl g hrec (fun p hp => ⟨rfl, hchildren p hp⟩) fun p hp => ⟨rfl, hpicks p hp⟩)
      (fun _ => id) (fun _ => id) (fun _ _ hnode _ => alone_nested here hnode) (fun _ => rfl)
      (fun _ => rfl)
      (limited_equal.admits (fun _ _ => trivial) fun hrewind => (here.forward hrewind).elim)
      (escapes_unwinding here hchildren 0)

end Coupling

/-! ### Runs -/

open Coupling

/-- Under a limit the reference ends, if it does without. -/
theorem meaning_limit_terminates {setting : Setting}
    (hrules : ∀ entry ∈ setting.rules, All (Unwinds setting) entry.2) {g : Grammar}
    (hg : All (Unwinds setting) g) {config : Config} (hL : 0 < config.maxRecursionDepth) {n : ℕ}
    {l : Ledger} {s : Value} {source : Source}
    (h₀ : Parser.run { config with maxRecursionDepth := 0 } (meaning setting n g) s source ⟨l, []⟩ ≠
      .outOfFuel) :
    ∃ m, Parser.run config (meaning setting m g) s source ⟨l, []⟩ ≠ .outOfFuel := by
  have hfollows := meaning_limited hL (@unwinding_lawful source _ l.depth)
    (fun _ _ => all_definition? hrules) (fun _ h => ⟨h.written, fun _ => h.forward⟩)
    (fun _ hg => alone_meaning hg) (fun n g hg => ?escapes) (fun n config p hg => ?nested) n hg
  case escapes =>
    simpa only [Nat.add_comm n] using
      escapes_unwinding hg.here (fun p hp => alone_meaning (hg.child hp)) n
  case nested =>
    simpa only [Nat.add_comm n] using (alone_add n).mpr (alone_nested hg.here rfl)
  have hrun := run_limited hfollows rfl s
  have hends {d : ℕ → Result (World Log) (Reply Value Value)} {V : Reply Value Value → Prop}
      (h : ∃ r, (∀ᶠ m in atTop, d m = r) ∧ r.Ends (fun reply _ => V reply) (fun _ => True) ¬True) :
      ∃ m, d m ≠ .outOfFuel := by
    obtain ⟨r, hd, hr⟩ := h
    obtain ⟨m, hm⟩ := hd.exists
    refine ⟨m, fun heq => ?_⟩
    rw [← hm, heq] at hr
    exact hr trivial
  have hmore : ∃ m, Parser.run config (meaning setting (n + m) g) s source ⟨l, []⟩ ≠ .outOfFuel := by
    cases hr : Parser.run { config with maxRecursionDepth := 0 } (meaning setting n g) s source
        ⟨l, []⟩ with
    | done r₀ w₀ =>
      rw [hr] at hrun
      obtain ⟨_, w, hd⟩ | ⟨x, _, hd⟩ := hrun
      · obtain ⟨m, hm⟩ := hd.exists
        exact ⟨m, by simp [hm]⟩
      · exact hends hd
    | fault f w₀ =>
      rw [hr] at hrun
      exact hends (V := fun _ => True) hrun
    | outOfFuel => exact (h₀ hr).elim
  exact hmore.elim fun m hm => ⟨n + m, hm⟩

/-- **A limit does not keep a run from ending**, for any target of any session after any
steps, from any state and account: if the run without limit ends, with a reply or in a
fault, then so does the run under the limit. Of each node of the grammar and of the rules
it is asked that it unwinds. -/
theorem recursion_limit_terminates {setting : Setting} {main : Grammar}
    (hmain : All (Unwinds setting) main)
    (hrules : ∀ entry ∈ setting.rules, All (Unwinds setting) entry.2) {fuel : ℕ}
    {session : Session} {world : World Heap}
    (hstart : Session.start fuel setting main = .done session world) (k : ℕ)
    (before : List Session.Step) (l : Ledger) (target : Session.Target) {config : Config}
    (hL : 0 < config.maxRecursionDepth) (s : Value) (source : Source) {n : ℕ}
    (h₀ : (session.after k before).runAt l n target { config with maxRecursionDepth := 0 } s
      source ≠ .outOfFuel) :
    ∃ m, (session.after k before).runAt l m target config s source ≠ .outOfFuel := by
  have hready := (Session.ready_of_start (hmain.mono fun _ h => h.written)
    (fun entry he => (hrules entry he).mono fun _ h => h.written) hstart).after k before
  have hwritten : All (Unwinds setting) (target.written main) :=
    target.written_all hmain fun name => .of_node trivial nofun rfl nofun
  rw [Ne, (hready.runAt l n target _ s source).outOfFuel_iff] at h₀
  obtain ⟨m, hm⟩ := meaning_limit_terminates hrules hwritten hL h₀
  exact ⟨m, mt (hready.runAt l m target config s source).outOfFuel_iff.mp hm⟩

/-- A character, which two rules find, or else a zero. -/
def addend : Grammar := .or (.lazy (.lazy .anyChar)) (.literal ['0'])

def addition : Grammar := .chainLeft (.literal ['+']) addend Value.compute

/-- After an excess only zeros are left. -/
theorem addend_tripped {e : Excess} {w : World Log} (h : w.ledger.tripped = some e) (m : ℕ)
    (s : Value) (t : Stream) : meaning {} (m + 2) addend s t w =
      match Text.after? ['0'] t.rest with
      | some rest => accept s { t with offset := t.offset + 1, rest } (.str "0") w
      | none => reject s t [e.message, "expected \"0\""] w := by
  have hlazy : meaning {} (m + 1) (.lazy (.lazy .anyChar)) s t w = reject s t [e.message] w :=
    deferred_tripped _ s t h
  simp only [addend, meaning, layer, reference, Parser.or, orElse] at hlazy ⊢
  rw [hlazy]
  simp only [Parser.map, Parser.literal]
  cases Text.after? ['0'] t.rest <;> rfl

theorem addition_moves (t : Stream) (after before : Value × World Log) :
    ¬Idles (fun m => Parser.then_ (meaning {} m (.literal ['+'])) (meaning {} m addend)) t after
      before := by
  rintro ⟨htripped, v, hd⟩
  obtain ⟨e, he⟩ := Option.isSome_iff_exists.mp htripped
  obtain ⟨m, hm⟩ := ((eventually_add 2 _).mpr hd).exists
  have hplus : meaning {} (m + 2) (.literal ['+']) = Parser.map ofText (Parser.literal ['+']) := rfl
  simp only [Parser.then_, andThen, hplus, Parser.map, Parser.literal] at hm
  split at hm
  · simp only [accept, Result.next_done, Reply.map, Except.map, addend_tripped he] at hm
    split at hm
    · have hoffset := congrArg (fun r : Reply Value Value => r.stream.offset) (Result.done.inj hm).1
      simp only [Nat.add_assoc, Nat.add_eq_left] at hoffset
      omega
    · simp [reject] at hm
  · simp [reject, Reply.map, Except.map] at hm

theorem addition_unwinds : All (Unwinds {}) addition := by
  have hplus : All (Unwinds {}) (.literal ['+']) := by
    simp only [All.iff_children, Picks, children, List.not_mem_nil, exists_false,
      not_false_eq_true, false_implies, implies_true, and_true]
    exact .of_node trivial (by simp) rfl (by simp)
  have haddend : All (Unwinds {}) addend := by
    simp only [addend, All.iff_children, Picks, children, List.forall_mem_cons, List.not_mem_nil,
      exists_false, not_false_eq_true, false_implies, implies_true, and_true]
    and_intros <;> exact .of_node trivial (by simp) rfl (by simp)
  have hchain : Unwinds {} addition :=
    ⟨trivial, by simp [addition], fun round hround t _ => by
      obtain rfl := Option.some.inj hround
      exact Idles.wellFounded (addition_moves t), by simp [addition]⟩
  rw [All.iff_children (by simp [addition, Picks])]
  exact ⟨hchain, by simp [addition, children, hplus, haddend]⟩

/-- The addition of letters ends under a limit that is exceeded at once. -/
theorem addition_terminates : All (Unwinds {}) addition ∧ ∃ session world,
    let source : Source := ⟨['a', '+', 'b'], 0⟩
    Session.start 0 {} addition = .done session world ∧
      session.runAt {} 6 .main { maxRecursionDepth := 0 } .null source ≠ .outOfFuel ∧
      ∃ n, session.runAt {} n .main { maxRecursionDepth := 1 } .null source ≠ .outOfFuel := by
  refine ⟨addition_unwinds, _, _, rfl, nofun, ?_⟩
  exact @recursion_limit_terminates _ _ addition_unwinds nofun 0 _ _ rfl 0 [] {} .main
    { maxRecursionDepth := 1 } (by decide) .null ⟨['a', '+', 'b'], 0⟩ 6 nofun

end Descent
