import Descent.Proofs.Session

/-! Runs are isolated from each other.

Of the account around it a run sees the depth and nothing else, and it puts the account
back. So a run in one account is the run in any other account of the same depth
(`run_isolated`): the enclosing run may have a limit of its own or none, and it may have
tripped. In the other direction a trip of the inner run is a failure like any other to
what encloses it, which goes on in its own account. -/
namespace Descent
open Descent.Parser Descent.Grammar

/-- A result in worlds whose account is `l`. -/
def Result.under {η β : Type} (l : Ledger) : Result η β → Result (World η) β
  | .done b h => .done b ⟨l, h⟩
  | .fault f h => .fault f ⟨l, h⟩
  | .outOfFuel => .outOfFuel

namespace Parser
variable {η α : Type} {p : Parser (World η) Value α}

/-- What a run makes of the result of its parser, apart from the account. -/
def concluded (source : Source) : Result (World η) (Reply Value α) → Result η (Reply Value α)
  | .done reply w => .done (verdict source reply w.ledger.tripped) w.heap
  | .fault f w => .fault f w.heap
  | .outOfFuel => .outOfFuel

theorem finished_under {source : Source} {outer inner : Ledger}
    {r : Result (World η) (Reply Value α)} (hdepth : inner.depth = outer.depth)
    (hr : r.Ends (fun _ w => inner.Kept w.ledger) (fun w => inner.Kept w.ledger) True) :
    finished source outer r = (concluded source r).under outer := by
  have hback {l : Ledger} (hl : inner.Kept l) : l.endRun outer = outer := by
    have hsame : l.depth = outer.depth := hl.depth.trans hdepth
    simp only [Ledger.endRun, hsame]
  cases r with
  | done reply w =>
    simp only [finished, concluded, Result.next_done, Result.settle, World.mapLedger, Result.under,
      hback hr]
  | fault f w =>
    simp only [finished, concluded, Result.next_fault, Result.settle, World.mapLedger, Result.under,
      hback hr]
  | outOfFuel => rfl

/-- A run is the same in all accounts of the same depth, and leaves each as it was. -/
theorem Accounts.run_under (hp : Accounts p) (config : Config) (s : Value) (source : Source)
    (h : η) (depth : ℕ) : ∃ r : Result η (Reply Value α), ∀ l : Ledger, l.depth = depth →
      Parser.run config p s source ⟨l, h⟩ = r.under l := by
  by_cases hsize : config.maxInputSize < source.text.byteSize
  · exact ⟨reject s (.start source) [tooLarge source.text.byteSize config.maxInputSize] h,
      fun l _ => run_refused p s ⟨l, h⟩ hsize⟩
  · let begun : World η := ⟨⟨depth, config.maxRecursionDepth, true, none⟩, h⟩
    refine ⟨concluded source (p s (.start source) begun), fun l hl => ?_⟩
    -- the run begins in the same account, whatever is around it
    have hbegin : World.mapLedger (Ledger.beginRun · config.maxRecursionDepth) ⟨l, h⟩ =
        begun := by
      simp only [World.mapLedger, Ledger.beginRun, hl, begun]
    rw [run_accepted p s ⟨l, h⟩ hsize, hbegin]
    exact finished_under hl.symm (hp.apply s (.start source) _)

/-- A run of a parser that has an answer, in the account that was around it. -/
theorem Accounts.run_done (hp : Accounts p) {config : Config} {s : Value} {source : Source}
    {w w₁ : World η} {reply : Reply Value α} (hsize : source.text.byteSize ≤ config.maxInputSize)
    (hinner : p s (.start source) (w.mapLedger (Ledger.beginRun · config.maxRecursionDepth)) =
      .done reply w₁) :
    Parser.run config p s source w =
      .done (verdict source reply w₁.ledger.tripped) { w with heap := w₁.heap } := by
  have hkept := hp.apply s (.start source)
    (w.mapLedger (Ledger.beginRun · config.maxRecursionDepth))
  rw [hinner] at hkept
  rw [run_accepted p s w hsize.not_gt, hinner]
  exact finished_under (by rfl) hkept

/-- A nested run that trips fails with the message of the excess. -/
theorem Accounts.nestedRun_tripped (hp : Accounts p) {config : Config} {s : Value} {t : Stream}
    {w w₁ : World η} {reply : Reply Value α} {e : Excess}
    (hsize : t.rest.byteSize ≤ config.maxInputSize)
    (hinner : p s (.start ⟨t.rest, t.source.tag⟩)
      (w.mapLedger (Ledger.beginRun · config.maxRecursionDepth)) = .done reply w₁)
    (htripped : w₁.ledger.tripped = some e) :
    Parser.nestedRun config p s t w =
      reject reply.state t [e.message] { w with heap := w₁.heap } := by
  have hrun : Parser.run config p s ⟨t.rest, t.source.tag⟩ w = _ := hp.run_done hsize hinner
  rw [Parser.nestedRun, hrun, Result.next_done, htripped]
  rfl

/-- A nested run has no answer if its parser has none. -/
theorem nestedRun_outOfFuel {config : Config} {s : Value} {t : Stream} {w : World η}
    (hsize : t.rest.byteSize ≤ config.maxInputSize)
    (hinner : p s (.start ⟨t.rest, t.source.tag⟩)
      (w.mapLedger (Ledger.beginRun · config.maxRecursionDepth)) = .outOfFuel) :
    Parser.nestedRun config p s t w = .outOfFuel := by
  have hrun : Parser.run config p s ⟨t.rest, t.source.tag⟩ w = _ := run_accepted p s w hsize.not_gt
  rw [Parser.nestedRun, hrun, hinner]
  rfl

/-! ### What goes on after a failure -/

section
variable {ω σ β : Type} {q : Parser ω σ β} {s s' : σ} {t t' : Stream} {w w₁ : ω}
variable {messages : List String}

theorem or_of_reject (h : q s t w = reject s' t' messages w₁) (q₂ : Parser ω σ β) :
    Parser.or q q₂ s t w =
      orElse (q₂ s t w₁) fun more w => reject s t (messages ++ more) w := by
  simp only [Parser.or, h, orElse, reject, Result.next_done]

theorem maybe_of_reject (h : q s t w = reject s' t' messages w₁) :
    Parser.maybe q s t w = accept s t none w₁ := by
  simp only [Parser.maybe, h, reject, Result.next_done]

theorem manyFrom_of_reject (h : q s t w = reject s' t' messages w₁) (found : List β) (k : ℕ) :
    Parser.manyFrom q found (k + 1) s t w = accept s t found.reverse w₁ := by
  simp only [Parser.manyFrom, h, reject, Result.next_done]

end

end Parser

/-- **A run is isolated from the run around it.** In two accounts of the same depth it ends
alike, with the same answer or fault and the same cells, and each account is as it was.
If it trips inside another run, then that goes on in its own account, which has not
tripped for it: a choice tries what is next, an option finds nothing, and a repetition
keeps what it has found. -/
theorem run_isolated (setting : Setting) (n : ℕ) (g : Grammar) (config : Config) (s : Value) :
    (∀ source h (l l' : Ledger), l.depth = l'.depth →
      ∃ r : Result Heap (Reply Value Value),
        Parser.run config (eval setting n g) s source ⟨l, h⟩ = r.under l ∧
        Parser.run config (eval setting n g) s source ⟨l', h⟩ = r.under l') ∧
    ∀ (t : Stream) (w w₁ : World Heap) reply e, t.rest.byteSize ≤ config.maxInputSize →
      eval setting n g s (.start ⟨t.rest, t.source.tag⟩)
        (w.mapLedger (Ledger.beginRun · config.maxRecursionDepth)) = .done reply w₁ →
      w₁.ledger.tripped = some e →
      let inner := Grammar.nestedRun config g
      let after : World Heap := { w with heap := w₁.heap }
      eval setting (n + 1) inner s t w = reject reply.state t [e.message] after ∧
      (∀ q, eval setting (n + 2) (.or inner q) s t w =
        orElse (eval setting (n + 1) q s t after) fun more w => reject s t (e.message :: more) w) ∧
      eval setting (n + 2) (.maybe inner) s t w = accept s t (ofOption none) after ∧
      ∀ found k, Parser.manyFrom (eval setting (n + 1) inner) found (k + 1) s t w =
        accept s t found.reverse after := by
  have hp := eval_accounts setting n g
  constructor
  · intro source h l l' hdepth
    obtain ⟨r, hr⟩ := hp.run_under config s source h l'.depth
    exact ⟨r, hr l hdepth, hr l' rfl⟩
  · intro t w w₁ reply e hsize hinner htripped inner after
    have hfails : eval setting (n + 1) inner s t w = reject reply.state t [e.message] after :=
      hp.nestedRun_tripped hsize hinner htripped
    refine ⟨hfails, fun q => or_of_reject hfails _, ?_, manyFrom_of_reject hfails⟩
    calc eval setting (n + 2) (.maybe inner) s t w
        = (Parser.maybe (eval setting (n + 1) inner) s t w).next
            fun reply w => .done (reply.map ofOption) w := rfl
      _ = accept s t (ofOption none) after := by rw [maybe_of_reject hfails]; rfl

open Session (brackets bracketsSetting)

/-- The brackets in a run that allows one rule inside of one that allows more: the inner
run ends alike where nothing is around it and in a run that tripped, and the outer one
reads the brackets after the inner one tripped. -/
theorem brackets_isolated :
    let p := eval bracketsSetting 20 brackets
    let heap := bracketsSetting.initialHeap
    let source : Source := ⟨['(', '(', ')', ')'], 0⟩
    let config : Config := { maxRecursionDepth := 1 }
    let tripped : Ledger := { limit := 7, inRun := true, tripped := some ⟨3, 8, 7⟩ }
    let outer : World Heap := ⟨{ limit := 7, inRun := true }, heap⟩
    (∃ r : Result Heap (Reply Value Value), Parser.run config p .null source ⟨{}, heap⟩ = r.under {} ∧
      Parser.run config p .null source ⟨tripped, heap⟩ = r.under tripped) ∧
    ∃ reply w₁, p .null (.start source) (outer.mapLedger (Ledger.beginRun · 1)) = .done reply w₁ ∧
      w₁.ledger.tripped = some ⟨2, 2, 1⟩ ∧
      ∃ w₂, eval bracketsSetting 22 (.or (.nestedRun config brackets) (.rule "brackets")) .null
          (.start source) outer =
        accept .null ⟨source, 4, []⟩ (.array [.array [.null]]) w₂ ∧ w₂.ledger = outer.ledger := by
  intro p heap source config tripped outer
  obtain ⟨hsame, hrecovers⟩ := run_isolated bracketsSetting 20 brackets config .null
  refine ⟨hsame source heap {} tripped rfl, _, _, rfl, rfl, ?_⟩
  obtain ⟨-, hor, -⟩ := hrecovers (.start source) outer _ _ ⟨2, 2, 1⟩ (by decide) rfl rfl
  rw [hor]
  exact ⟨_, rfl, rfl⟩

end Descent
