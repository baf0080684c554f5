import Descent.Proofs.Ledger

/-! What a grammar means, without cells.

`meaning` applies a grammar as it is written: nothing is built, and a deferred parser is
its definition, taken anew at every application. It is the reference for the evaluation
with cells, and it is easier to talk about. In place of a heap its worlds have a log of
the deferred applications in the order in which they are entered, each with its offset
and depth. A nested run has a log to itself. -/
namespace Descent
open Descent.Parser

/-- A deferred application that was entered. -/
structure Visit where
  offset : ℕ
  depth : ℕ
deriving BEq, DecidableEq, Repr

/-- The deferred applications so far. -/
abbrev Log := List Visit

namespace Parser
variable {σ α : Type}

/-- Notes that the parser is applied, which counts already. -/
def noted (p : Parser (World Log) σ α) : Parser (World Log) σ α := fun s t w =>
  p s t { w with heap := w.heap ++ [⟨t.offset, w.ledger.depth⟩] }

/-- With a log to itself. -/
def apart (p : Parser (World Log) σ α) : Parser (World Log) σ α := fun s t w =>
  (p s t { w with heap := [] }).settle fun w' => { w' with heap := w.heap }

end Parser

namespace Grammar

/-- A grammar as it is written down, before cells are made and without probes. -/
def Written : Grammar → Prop
  | .cell _ | .probe _ _ => False
  | _ => True

/-- A grammar whose definitions only construct. -/
abbrev Plain : Grammar → Prop := All Written

/-- A grammar as it is written down, perhaps with probes. -/
def Unbuilt : Grammar → Prop
  | .cell _ => False
  | _ => True

theorem all_definition? {setting : Setting} {ok : Grammar → Prop}
    (hrules : ∀ entry ∈ setting.rules, All ok entry.2) {name : String} {p : Grammar}
    (h : setting.definition? name = some p) : All ok p := by
  obtain ⟨before, after, hsplit, _⟩ := List.lookup_eq_some_iff.mp h
  exact hrules (name, p) (hsplit ▸ List.mem_append_right _ List.mem_cons_self)

/-- The node stands for a deferred parser. -/
def Deferred : Grammar → Prop
  | .rule _ | .fresh _ | .lazy _ => True
  | _ => False

theorem Deferred.recursive {g : Grammar} (h : Deferred g) : g.Recursive := by
  cases g <;> trivial

/-- What a deferred parser defers. -/
def body? (setting : Setting) : Grammar → Option Grammar
  | .rule name | .fresh name => setting.definition? name
  | .lazy p => some p
  | _ => none

/-- The message where nothing is deferred. -/
def missing : Grammar → String
  | .rule name | .fresh name => noSuchRule name
  | _ => underConstruction

/-- A deferred parser is its definition. -/
def recalled (setting : Setting) (apply : Grammar → Parser (World Log) Value Value)
    (g : Grammar) : Parser (World Log) Value Value :=
  match body? setting g with
  | some p => deferred (noted (apply p))
  | none => Parser.fail (missing g)

/-- The parts of a grammar as it is written, when `apply` applies one. -/
def reference (setting : Setting) (apply : Grammar → Parser (World Log) Value Value)
    (rounds : ℕ) : Parts (World Log) where
  apply
  chosen := apply
  recursive := recalled setting apply
  nested config p := apart (Parser.nestedRun config (apply p))
  written := setting.written
  rounds

/-- The parser of a grammar as it is written. -/
def meaning (setting : Setting) : (fuel : ℕ) → Grammar → Parser (World Log) Value Value
  | 0, _ => fun _ _ _ => .outOfFuel
  | n + 1, g => layer (reference setting (meaning setting n) n) g

theorem meaning_recursive {setting : Setting} {n : ℕ} {g : Grammar} (hg : g.Recursive) :
    meaning setting (n + 1) g = recalled setting (meaning setting n) g := by
  cases g <;> first | rfl | exact hg.elim

end Grammar

/-! ### In lockstep -/

namespace Coupling
open Descent.Grammar
variable {η α : Type} {extra : Filter ℕ}

theorem noted_lockstep {H : Log → Log → Prop} (hH : ∀ l l' v, H l l' → H (l ++ [v]) (l' ++ [v]))
    {p : Parser (World Log) Value α} {q : ℕ → Parser (World Log) Value α}
    (h : (lockstep (World.Beside H) extra).Follows p q) :
    (lockstep (World.Beside H) extra).Follows (noted p) fun m => noted (q m) := by
  rw [follows_lockstep] at h ⊢
  exact fun s t w w' hw => h s t _ _ ⟨hw.1, by rw [hw.1]; exact hH _ _ _ hw.2⟩

theorem apart_lockstep {H : Log → Log → Prop} (hnil : H [] []) {p : Parser (World Log) Value α}
    {q : ℕ → Parser (World Log) Value α} (h : (lockstep (World.Beside H) extra).Follows p q) :
    (lockstep (World.Beside H) extra).Follows (apart p) fun m => apart (q m) := by
  rw [follows_lockstep] at h ⊢
  intro s t w w' hw
  exact (h s t { w with heap := [] } { w' with heap := [] } ⟨hw.1, hnil⟩).settle
    fun _ _ hw₁ => ⟨hw₁.1, hw.2⟩

/-- More fuel does the same, beside any log that corresponds. -/
theorem meaning_beside {H : Log → Log → Prop} (hnil : H [] [])
    (hH : ∀ l l' v, H l l' → H (l ++ [v]) (l' ++ [v])) (extra : Filter ℕ) (setting : Setting)
    (n : ℕ) (g : Grammar) : (lockstep (World.Beside H) extra).Follows (meaning setting n g)
      fun m => meaning setting (n + m) g := by
  induction n generalizing g with
  | zero =>
    refine Follows.starved (fun hextra => hextra.mono ?_) (alone_of_isEmpty _)
    rintro m rfl
    rfl
  | succ n ih =>
    simp only [Nat.add_right_comm n 1]
    by_cases hg : g.Recursive
    · simp only [meaning_recursive hg, recalled]
      cases body? setting g with
      | none => exact Follows.fail lockstep_lawful _
      | some p => exact deferred_lockstep (noted_lockstep hH (ih p))
    · have hparts : (lockstep (World.Beside H) extra).PartsFollow (fun p p' => p = p')
          (fun p p' => p = p') (reference setting (meaning setting n) n)
          (fun m => reference setting (meaning setting (n + m)) (n + m)) g :=
        { apply := fun h => h ▸ ih _
          chosen := fun h => h ▸ ih _
          nested := fun _ h => h ▸ apart_lockstep hnil (nestedRun_lockstep (ih _) _)
          written := ⟨_, fun _ => rfl, fun _ _ => congrArg _⟩
          rounds := fun _ => rfl }
      exact layer_lockstep hparts (.refl g hg (fun _ _ => rfl) fun _ _ => rfl)

/-- More fuel does the same. -/
theorem meaning_lockstep (extra : Filter ℕ) (setting : Setting) (n : ℕ) (g : Grammar) :
    (lockstep (World.Beside Eq) extra).Follows (meaning setting n g)
      fun m => meaning setting (n + m) g :=
  meaning_beside rfl (fun _ _ _ => congrArg (· ++ [_])) extra setting n g

/-- A run with more fuel does the same. -/
theorem run_meaning_mono {setting : Setting} {n : ℕ} {g : Grammar} {config : Config} {s : Value}
    {source : Source} {w : World Log} {r : Result (World Log) (Reply Value Value)}
    (h : Parser.run config (meaning setting n g) s source w = r) (hr : r ≠ .outOfFuel) (m : ℕ) :
    Parser.run config (meaning setting (n + m) g) s source w = r := by
  subst h
  exact (run_lockstep (meaning_lockstep ⊤ setting n g) config s source ⟨rfl, rfl⟩).eq_of_more hr m

end Coupling

/-! ### The account -/

namespace Parser
variable {α : Type} {p : Parser (World Log) Value α}

theorem Accounts.noted (h : Accounts p) : Accounts (noted p) :=
  .of fun s t w => h.apply s t { w with heap := _ }

/-- A nested run leaves nothing behind. -/
theorem Accounts.apart_nestedRun (h : Accounts p) (config : Config) (s : Value) (t : Stream)
    (w : World Log) : (Parser.apart (Parser.nestedRun config p) s t w).Ends (fun _ w' => w' = w)
      (fun w' => w' = w) True := by
  have hrun := h.nestedRun_ledger config s t { w with heap := [] }
  unfold Parser.apart
  revert hrun
  cases Parser.nestedRun config p s t { w with heap := [] } with
  | done reply w' => exact congrArg (World.mk · w.heap)
  | fault f w' => exact congrArg (World.mk · w.heap)
  | outOfFuel => exact id

theorem Accounts.apart (h : Accounts p) (config : Config) :
    Accounts (apart (Parser.nestedRun config p)) :=
  .of fun s t w => (h.apart_nestedRun config s t w).mono (fun _ _ h => h ▸ .refl _)
    fun _ h => h ▸ .refl _

/-- Where a nested run leaves the stream. -/
theorem nestedRun_stream {η σ : Type} {p : Parser (World η) σ α} {config : Config} {s : σ}
    {t : Stream} {w w' : World η} {reply : Reply σ α}
    (h : nestedRun config p s t w = .done reply w') :
    reply.stream = t ∨ ∃ n, t.advance? n = some reply.stream := by
  unfold nestedRun at h
  cases hr : run config p s ⟨t.rest, t.source.tag⟩ w with
  | done inner w₁ =>
    rw [hr, Result.next_done] at h
    cases ho : inner.outcome with
    | error messages =>
      simp only [ho, reject, Result.done.injEq] at h
      exact .inl (by rw [← h.1])
    | ok v =>
      simp only [ho, Stream.advance] at h
      cases ha : t.advance? inner.stream.offset with
      | none => simp only [ha, reduceCtorEq] at h
      | some u =>
        simp only [ha, accept, Result.done.injEq] at h
        exact .inr ⟨_, by rw [← h.1, ha]⟩
  | fault f w₁ => rw [hr, Result.next_fault] at h; cases h
  | outOfFuel => rw [hr, Result.next_outOfFuel] at h; cases h

end Parser

namespace Coupling
variable {α : Type} {extra : Filter ℕ}

/-- A nested run depends on the depth around it and on nothing else of the world. -/
theorem apart_nestedRun_matches {p : Parser (World Log) Value α} {q : ℕ → Parser (World Log) Value α}
    (h : (lockstep (World.Beside Eq) extra).Follows p q) (hp : Accounts p) (config : Config)
    (s : Value) (t : Stream) {w w' : World Log} (hdepth : w.ledger.depth = w'.ledger.depth) :
    (apart (nestedRun config p) s t w).Matches (fun w₁ w₁' => w₁ = w ∧ w₁' = w') extra
      fun m => apart (nestedRun config (q m)) s t w' := by
  have hbegin : ({ w with heap := [] } : World Log).mapLedger
        (Ledger.beginRun · config.maxRecursionDepth) =
      ({ w' with heap := [] } : World Log).mapLedger
        (Ledger.beginRun · config.maxRecursionDepth) := by
    simp only [World.mapLedger, Ledger.beginRun, hdepth]
  have hrun : (run config p s ⟨t.rest, t.source.tag⟩ { w with heap := [] }).Matches
      (fun w₁ w₁' => w₁.ledger = w.ledger ∧ w₁'.ledger = w'.ledger) extra
      fun m => run config (q m) s ⟨t.rest, t.source.tag⟩ { w' with heap := [] } := by
    simp only [run]
    split
    · exact .done ⟨rfl, rfl⟩
    · rw [hbegin]
      refine .settle (((follows_lockstep.mp h s _ _ _ ⟨rfl, rfl⟩).and_ends (hp.apply s _ _)).next
        (fun reply w₁ w₁' hw₁ => ?_) fun _ _ => id) fun w₁ w₁' hw₁ => ?_
      · rw [hw₁.1.1]
        exact .done hw₁
      · have hleft : w₁.ledger.depth = w'.ledger.depth := hw₁.2.depth
        have hright : w₁'.ledger.depth = w'.ledger.depth := hw₁.1.1 ▸ hleft
        constructor
        · simp only [World.mapLedger, Ledger.endRun, hleft, ← hdepth]
        · simp only [World.mapLedger, Ledger.endRun, hright]
  refine .settle (hrun.next (fun reply w₁ w₁' hw₁ => ?_) fun _ _ => id) fun w₁ w₁' hw₁ =>
    ⟨congrArg (World.mk · w.heap) hw₁.1, congrArg (World.mk · w'.heap) hw₁.2⟩
  split
  · exact .done hw₁
  · split
    · exact .done hw₁
    · exact .fault hw₁

end Coupling

namespace Grammar
variable {setting : Setting}

theorem meaning_accounts (setting : Setting) (fuel : ℕ) (g : Grammar) :
    Accounts (meaning setting fuel g) := by
  induction fuel generalizing g with
  | zero => exact fun _ _ _ _ _ => trivial
  | succ n ih =>
    have hrecalled (g : Grammar) : Accounts (recalled setting (meaning setting n) g) := by
      unfold recalled
      split
      · exact (ih _).noted.deferred
      · exact fun _ _ _ _ => id
    exact fun l => Keeps.layer (fun p => ih p l) (fun p => ih p l) (fun g => hrecalled g l)
      (fun config p => (ih p).apart config l) g

end Grammar

end Descent
