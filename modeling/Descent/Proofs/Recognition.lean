import Descent.Proofs.Peg.Completeness
import Descent.Proofs.Termination

/-! Sessions recognize what parsing expressions do.

A run without a limit succeeds where the expression of its parser consumes as much, fails
where that fails, and goes on for ever where nothing is derived. A run under a limit ends,
and says the same, if it does not fail for exceeding the limit
(`Session.recognition_exact`). Only texts that are not too large for the run are read at
all (`Session.oversized_refused`). -/
namespace Descent
open Descent.Parser Descent.Grammar Descent.Peg
open Filter (atTop)

/-- Where a success ends. -/
def Reply.end? {σ α : Type} (reply : Reply σ α) : Option ℕ :=
  match reply.outcome with
  | .ok _ => some reply.stream.offset
  | .error _ => none

/-- The failure of a run that went beyond its limit. -/
def Reply.Overruns {σ α : Type} (config : Config) (reply : Reply σ α) : Prop :=
  ∃ e : Excess, e.limit = config.maxRecursionDepth ∧ 0 < e.limit ∧ e.limit < e.depth ∧
    reply.outcome = .error [e.message]

namespace Peg
variable {rules : String → Option Peg} {a : Peg} {text : Text}

/-- The expression consumes so many bytes of the text, or fails on it. -/
def Yields (rules : String → Option Peg) (a : Peg) (text : Text) : Option ℕ → Prop
  | some n => ∃ m taken rest, Derives rules a text m (.consumed taken rest) ∧ taken.byteSize = n
  | none => ∃ m, Derives rules a text m .failed

theorem Yields.unique {c c' : Option ℕ} (h : Yields rules a text c) (h' : Yields rules a text c') :
    c = c' := by
  cases c <;> cases c'
  case none.none => rfl
  case some.some =>
    obtain ⟨_, _, _, hd, rfl⟩ := h
    obtain ⟨_, _, _, hd', rfl⟩ := h'
    cases hd.unique hd'
    rfl
  case none.some =>
    obtain ⟨_, hd⟩ := h
    obtain ⟨_, _, _, hd', _⟩ := h'
    cases hd.unique hd'
  case some.none =>
    obtain ⟨_, _, _, hd, _⟩ := h
    obtain ⟨_, hd'⟩ := h'
    cases hd.unique hd'

/-- What a whole text shows is what is yielded. -/
theorem Effect.Shown.yields {α : Type} {source : Source} {reply : Reply Value α} {o : Effect}
    {m : ℕ} (h : o.Shown (.start source) reply) (hd : Derives rules a source.text m o) :
    Yields rules a source.text reply.end? := by
  obtain ⟨s, u, l | v⟩ := reply
  · obtain rfl := Effect.shown_error.mp h
    exact ⟨m, hd⟩
  · obtain ⟨taken, rest, rfl, rfl⟩ := Effect.shown_ok.mp h
    exact ⟨m, taken, rest, hd, by simp [Stream.past, Stream.start]⟩

/-- What is yielded is an effect with its derivation. -/
theorem Yields.derives {c : Option ℕ} (h : Yields rules a text c) :
    ∃ m o, Derives rules a text m o := by
  cases c with
  | none => exact h.imp fun m hd => ⟨_, hd⟩
  | some n => obtain ⟨m, _, _, hd, _⟩ := h; exact ⟨m, _, hd⟩

end Peg

/-! ### Runs of the reference -/

namespace Grammar
variable {setting : Setting} {rules : String → Option Peg} {g : Grammar} {a : Peg}
variable {config : Config} {l : Ledger} {s : Value} {source : Source}

/-- A run replies what can be derived, or has gone beyond the limit. -/
theorem run_truthful (hrules : Implements setting rules) (hg : Expresses g a)
    (hsize : source.text.byteSize ≤ config.maxInputSize) (n : ℕ) :
    (Parser.run config (meaning setting n g) s source ⟨l, []⟩).Ends
      (fun reply _ => reply.Overruns config ∨ Yields rules a source.text reply.end?)
      (fun _ => False) True := by
  rw [run_accepted _ _ _ hsize.not_gt]
  have hinner := meaning_truthful hrules n hg s (.start source)
    ⟨l.beginRun config.maxRecursionDepth, []⟩ rfl
  have hfree := meaning_unlimited setting n g s (.start source)
    ⟨l.beginRun config.maxRecursionDepth, []⟩
  simp only [World.mapLedger]
  cases hr : meaning setting n g s (.start source) ⟨l.beginRun config.maxRecursionDepth, []⟩ with
  | outOfFuel => trivial
  | fault f w => rw [hr] at hinner; exact hinner
  | done reply w =>
    rw [hr] at hinner hfree
    cases htripped : w.ledger.tripped with
    | none =>
      rw [finished_done htripped]
      obtain ⟨m, o, hd, ho⟩ := hinner.derives htripped
      exact .inr (ho.yields hd)
    | some e =>
      obtain hkept | ⟨_, _, e', he', hlimit, hdepth⟩ := hinner.kept.tripped
      · rw [htripped] at hkept; cases hkept
      · rw [htripped] at he'
        cases he'
        have hpos : 0 < e.limit := by
          refine Nat.pos_of_ne_zero fun hzero => ?_
          have hclean := (hfree ⟨hlimit.symm.trans hzero, rfl⟩).tripped
          rw [htripped] at hclean
          cases hclean
        refine .inl ⟨e, hlimit, hpos, hlimit ▸ hdepth, ?_⟩
        simp only [htripped, verdict]

/-- Without a limit a run replies what is yielded. -/
theorem run_finds (hrules : Implements setting rules) (hg : Expresses g a)
    (hsize : source.text.byteSize ≤ config.maxInputSize) (hlimit : config.maxRecursionDepth = 0)
    {c : Option ℕ} (hc : Yields rules a source.text c) :
    ∃ n reply w, Parser.run config (meaning setting n g) s source ⟨l, []⟩ = .done reply w ∧
      reply.end? = c := by
  obtain ⟨m, o, hd⟩ := hc.derives
  have hbegun : Unlimited ⟨l.beginRun config.maxRecursionDepth, []⟩ := ⟨hlimit, rfl⟩
  obtain ⟨reply, w, hdone, hw, ho⟩ :=
    meaning_finds hrules m hg s (.start source) _ hbegun m le_rfl o hd
  obtain ⟨n, hn : meaning setting n g s (.start source) _ = _⟩ := hdone.exists
  refine ⟨n, reply, w.mapLedger (Ledger.endRun · l), ?_, (ho.yields hd).unique hc⟩
  rw [run_accepted _ _ _ hsize.not_gt, World.mapLedger, hn, finished_done hw.tripped]

theorem Recognizer.written {g : Grammar} (h : Recognizer g) : Written g := by
  cases g <;> trivial

theorem Recognizer.proceeding {bound : ℕ} {g : Grammar} (h : Recognizer g) :
    Proceeding setting bound g := by
  cases g <;> trivial

end Grammar

/-! ### Sessions -/

namespace Session
variable {setting : Setting} {main : Grammar} {rules : String → Option Peg} {a : Peg}

/-- The expression of a target. -/
def Target.expression (a : Peg) : Target → Peg
  | .main => a
  | .rule name => .ref name

theorem Target.expresses (h : Expresses main a) (target : Target) :
    Expresses (target.written main) (target.expression a) := by
  cases target with
  | main => exact h
  | rule name => exact .rule name

/-- **Sessions recognize what parsing expressions do.** Let the main grammar and the
definitions of the rules be parsing expressions, and a text be not too large for a run.
After any steps a run without a limit succeeds, and where it succeeds, as the expression
consumes, fails as it fails, and has no answer where nothing is derived. A run under a
limit ends, and either fails for the limit or answers the same. -/
theorem recognition_exact (hall : ∀ entry ∈ setting.rules, All Recognizer entry.2)
    (hrules : Implements setting rules) (hmain : Expresses main a) :
    ∃ session world, (∀ fuel, start fuel setting main = .done session world) ∧
      ∀ fuel before l target (config : Config) s (source : Source),
        source.text.byteSize ≤ config.maxInputSize →
        let run n := (session.after fuel before).runAt l n target config s source
        let Says c := Yields rules (target.expression a) source.text c
        (config.maxRecursionDepth = 0 →
          (∀ c, (∃ n reply w, run n = .done reply w ∧ reply.end? = c) ↔ Says c) ∧
            ((∀ n, run n = .outOfFuel) ↔ ∀ c, ¬Says c)) ∧
        (0 < config.maxRecursionDepth → ∃ reply w, (∀ᶠ n in atTop, run n = .done reply w) ∧
          (reply.Overruns config ∨ ∀ c, reply.end? = c ↔ Says c)) := by
  obtain ⟨session, world, hstart, hready⟩ := start_ready
    (hmain.all.mono fun _ => Recognizer.written)
    fun entry he => (hall entry he).mono fun _ => Recognizer.written
  refine ⟨session, world, hstart, fun fuel before l target config s source hsize => ?_⟩
  intro run Says
  have hreference (n : ℕ) := (hready.after fuel before).runAt l n target config s source
  have hexpresses := target.expresses hmain
  -- a run replies what the reference replies, and does not fault
  have hsays (n : ℕ) : (run n).Ends (fun reply _ => reply.Overruns config ∨ Says reply.end?)
      (fun _ => False) True := (hreference n).ends (run_truthful hrules hexpresses hsize n)
  have hfinds (hlimit : config.maxRecursionDepth = 0) {c : Option ℕ} (hc : Says c) :
      ∃ n reply w, run n = .done reply w ∧ reply.end? = c := by
    obtain ⟨n, reply, w', hrun, hend⟩ := run_finds hrules hexpresses hsize hlimit hc
    obtain ⟨w, hrun⟩ := (hreference n).done_iff.mpr ⟨w', hrun⟩
    exact ⟨n, reply, w, hrun, hend⟩
  refine ⟨fun hlimit => ⟨fun c => ⟨?_, hfinds hlimit⟩, fun hnone c hc => ?_, fun hnone n => ?_⟩,
    fun hlimit => ?_⟩
  · rintro ⟨n, reply, w, hrun, rfl⟩
    have hn := hsays n
    rw [hrun] at hn
    exact hn.resolve_left fun ⟨e, he, hpos, _⟩ => by omega
  · obtain ⟨n, reply, w, hrun, _⟩ := hfinds hlimit hc
    rw [hnone n] at hrun
    cases hrun
  · have hn := hsays n
    cases hrun : run n with
    | done reply w =>
      rw [hrun] at hn
      exact (hn.elim (fun ⟨e, he, hpos, _⟩ => by omega) (hnone _)).elim
    | fault f w => rw [hrun] at hn; exact hn.elim
    | outOfFuel => rfl
  · have hall : Throughout (Proceeding setting config.maxRecursionDepth) setting main :=
      ⟨hmain.all.mono fun _ => Recognizer.proceeding,
        fun entry he => (hall entry he).mono fun _ => Recognizer.proceeding⟩
    have hbuilt := start_wellBuilt proceeding_permitted hall fuel
    rw [hstart fuel] at hbuilt
    obtain ⟨r, hr, hrun⟩ := (hbuilt.after proceeding_permitted fuel before).run_halts l hlimit
      le_rfl target s source
    obtain ⟨n, hn : run n = r⟩ := hrun.exists
    have hends := hsays n
    rw [hn] at hends
    cases r with
    | done reply w =>
      refine ⟨reply, w, hrun, hends.imp_right fun hsaid c => ⟨fun hc => hc ▸ hsaid, hsaid.unique⟩⟩
    | fault f w => exact hends.elim
    | outOfFuel => exact (hr rfl).elim

/-- A text that is too large is refused, also where the expression consumes it. -/
theorem oversized_refused :
    Implements {} (fun _ => none) ∧ Expresses .anyChar .any ∧
    ∃ session world, (∀ fuel, start fuel {} .anyChar = .done session world) ∧
      let run n := session.runAt {} n .main { maxInputSize := 0, maxRecursionDepth := 0 } .null
        ⟨['a'], 0⟩
      let Says c := Yields (fun _ => none) .any ['a'] c
      Says (some 1) ∧ ¬Says none ∧ ∀ n, ∃ reply w, run n = .done reply w ∧ reply.end? = none := by
  have hconsumes : Yields (fun _ => none) .any ['a'] (some 1) := ⟨1, ['a'], [], .any, rfl⟩
  refine ⟨fun _ => .none, .anyChar, _, _, fun _ => rfl, hconsumes, fun hfails => ?_, fun n => ?_⟩
  · cases hconsumes.unique hfails
  · exact ⟨_, _, run_refused _ _ _ (by decide), rfl⟩

/-- One character, itself perhaps, and another one. -/
def nested (name : String) (opening closing : Char) : Grammar :=
  .then_ (.literal [opening]) (.then_ (.maybe (.rule name)) (.literal [closing]))

def nestedSetting : Setting :=
  { rules := [("ab", nested "ab" 'a' 'b'), ("bc", nested "bc" 'b' 'c')] }

/-- As many `a` as `b` as `c`, and nothing after them. -/
def evenly : Grammar :=
  .then_ (.lookAhead (.then_ (.rule "ab") (.literal ['c'])))
    (.then_ (.many1 (.literal ['a'])) (.then_ (.rule "bc") .endOfInput))

def nestedPeg (name : String) (opening closing : Char) : Peg :=
  .seq (.text [opening]) (.seq (.optional (.ref name)) (.text [closing]))

def nestedRules : String → Option Peg
  | "ab" => some (nestedPeg "ab" 'a' 'b')
  | "bc" => some (nestedPeg "bc" 'b' 'c')
  | _ => none

def evenlyPeg : Peg :=
  .seq (.ahead (.seq (.ref "ab") (.text ['c'])))
    (.seq (.plus (.text ['a'])) (.seq (.ref "bc") .finish))

theorem nested_expresses (name : String) (opening closing : Char) :
    Expresses (nested name opening closing) (nestedPeg name opening closing) :=
  .then_ (.literal _) (.then_ (.maybe (.rule name)) (.literal _))

theorem nested_implements : Implements nestedSetting nestedRules := by
  intro name
  unfold nestedRules
  split
  · exact .some (nested_expresses "ab" 'a' 'b')
  · exact .some (nested_expresses "bc" 'b' 'c')
  · next hab hbc =>
    have hnone : nestedSetting.definition? name = none := by
      simp [nestedSetting, Setting.definition?, List.lookup_cons, beq_false_of_ne hab,
        beq_false_of_ne hbc]
    rw [hnone]
    exact .none

/-- One of each is read to the end. -/
theorem evenly_recognized :
    (∀ entry ∈ nestedSetting.rules, All Recognizer entry.2) ∧
    Implements nestedSetting nestedRules ∧ Expresses evenly evenlyPeg ∧
    Yields nestedRules evenlyPeg ['a', 'b', 'c'] (some 3) := by
  have hall : ∀ entry ∈ nestedSetting.rules, All Recognizer entry.2 := by
    simp [nestedSetting, (nested_expresses _ _ _).all]
  have hmain : Expresses evenly evenlyPeg :=
    .then_ (.lookAhead (.then_ (.rule "ab") (.literal _)))
      (.then_ (.many1 (.literal _)) (.then_ (.rule "bc") .endOfInput))
  refine ⟨hall, nested_implements, hmain, ?_⟩
  let source : Source := ⟨['a', 'b', 'c'], 0⟩
  let config : Config := { maxRecursionDepth := 0 }
  obtain ⟨session, world, hstart, h⟩ := recognition_exact hall nested_implements hmain
  obtain ⟨session', world', hstart', hrun⟩ : ∃ session world,
      start 0 nestedSetting evenly = .done session world ∧
      ∃ n reply w, session.runAt {} n .main config .null source = .done reply w ∧
        reply.end? = some 3 := ⟨_, _, rfl, 12, _, _, rfl, rfl⟩
  rw [hstart 0] at hstart'
  cases hstart'
  exact ((h 0 [] {} .main config .null source (by decide)).1 rfl).1 (some 3) |>.mp hrun

end Session

end Descent
