import Descent.Proofs.Meaning

/-! With a limit and without.

The left machine runs without a limit, the right one under one. They stay together as
long as no deferred application is deeper than the limit. The first that is parts them:
the left machine goes on and has it in its log for good, and in the right one it is the
excess of the run, which nothing can undo before the run ends. Nested runs have limits
of their own and are alike on both sides. -/
namespace Descent
open Descent.Parser Descent.Grammar

/-- The first application of a log that is deeper than the limit. -/
def Log.firstBeyond (L : ℕ) (log : Log) : Option Visit := log.find? fun v => L < v.depth

/-- The worlds of a run without limit, begun at depth `d₀`, that came nowhere deeper
than `L`. -/
structure Within (L d₀ : ℕ) (w : World Log) : Prop where
  limit : w.ledger.limit = 0
  inRun : w.ledger.inRun = true
  tripped : w.ledger.tripped = none
  le_depth : d₀ ≤ w.ledger.depth
  depth_le : w.ledger.depth ≤ max L d₀
  log : ∀ v ∈ w.heap, v.depth ≤ L

/-- The first deferred application that is too deep for the limit. -/
structure FirstExcess (source : Source) (L d₀ : ℕ) extends Visit where
  depth_eq : depth = max L d₀ + 1
  place : ∃ t : Stream, t.Valid ∧ t.source = source ∧ t.offset = offset

def FirstExcess.excess {source : Source} {L d₀ : ℕ} (x : FirstExcess source L d₀) : Excess :=
  ⟨x.offset, x.depth, L⟩

/-- A run over `source` from depth `d₀` without a limit, beside one under the limit `L`.
The streams of the right one only go forward if that is asked for. -/
def Coupling.limited (source : Source) (L d₀ : ℕ) (extra : Filter ℕ) (answers forward : Prop) :
    Coupling (World Log) (World Log) where
  state := Eq
  stream := Eq
  messages := Eq
  world w w' := Within L d₀ w ∧ w'.ledger = { w.ledger with limit := L }
  ahead base t := t.Valid ∧ t.source = source ∧ (forward → base.offset ≤ t.offset)
  extra
  exact := False
  Cause := FirstExcess source L d₀
  left x w := w.heap.firstBeyond L = some x.toVisit
  right x w := w.ledger.tripped = some x.excess
  answers
  faults := True
  together := False.elim

namespace Coupling
variable {source : Source} {L d₀ : ℕ} {extra : Filter ℕ} {answers forward : Prop}

theorem limited_equal : (limited source L d₀ extra answers forward).Equal := ⟨.rfl, .rfl, .rfl⟩

theorem limited_ahead_past {base t : Stream} {taken rest : Text}
    (h : (limited source L d₀ extra answers forward).ahead base t) (hrest : t.rest = taken ++ rest) :
    (limited source L d₀ extra answers forward).ahead base (t.past taken rest) :=
  ⟨Stream.past_valid h.1 hrest, h.2.1, fun hforward =>
    (h.2.2 hforward).trans (Nat.le_add_right _ _)⟩

/-! ### Deferred applications -/

section
variable {p : Parser (World Log) Value Value} {q : ℕ → Parser (World Log) Value Value}

/-- A log that has an application too deep keeps it as the first one. -/
theorem firstBeyond_append {log : Log} {x : Visit} (h : log.firstBeyond L = some x) (v : Visit) :
    Log.firstBeyond L (log ++ [v]) = some x := by
  rw [Log.firstBeyond] at h ⊢
  rw [List.find?_append, h, Option.some_or]

theorem firstBeyond_of_within {log : Log} (h : ∀ v ∈ log, v.depth ≤ L) {v : Visit}
    (hv : L < v.depth) : Log.firstBeyond L (log ++ [v]) = some v := by
  have hnone : log.find? (fun v => decide (L < v.depth)) = none :=
    List.find?_eq_none.mpr fun u hu => by simpa using h u hu
  rw [Log.firstBeyond, List.find?_append, hnone, Option.none_or]
  simp [hv]

/-- The inside of a deferred application that is not too deep. -/
theorem within_noted {w : World Log} (hw : Within L d₀ w) (hdepth : w.ledger.depth + 1 ≤ L)
    (offset : ℕ) : Within L d₀ ⟨w.ledger.enter, w.heap ++ [⟨offset, w.ledger.depth + 1⟩]⟩ where
  limit := hw.limit
  inRun := hw.inRun
  tripped := hw.tripped
  le_depth := hw.le_depth.trans (Nat.le_succ _)
  depth_le := hdepth.trans (le_max_left _ _)
  log v hv := by
    obtain hv | rfl := List.mem_append.mp hv |>.imp_right List.mem_singleton.mp
    exacts [hw.log v hv, hdepth]

/-- What is left of a deferred application that ended where it began to be inside. -/
theorem within_leave {w w₁ : World Log} (hw : Within L d₀ w) (hw₁ : Within L d₀ w₁)
    (hdepth : w₁.ledger.depth = w.ledger.depth + 1) :
    Within L d₀ (w₁.mapLedger Ledger.leave) := by
  have hleave : (w₁.mapLedger Ledger.leave).ledger.depth = w.ledger.depth := by
    simp only [World.mapLedger, Ledger.leave, hdepth, Nat.add_sub_cancel]
  exact ⟨hw₁.limit, hw₁.inRun, hw₁.tripped, hleave ▸ hw.le_depth, hleave ▸ hw.depth_le, hw₁.log⟩

/-- Deferred applications stay together up to the limit, and part beyond it. -/
theorem deferred_limited (hL : 0 < L) (h : (limited source L d₀ extra answers forward).Follows p q)
    (hp : Accounts p) : (limited source L d₀ extra answers forward).Follows (deferred (noted p))
      fun m => deferred (noted (q m)) := by
  intro base s s' t t'
  refine ⟨fun hpre hahead w w' ⟨hw, hw'⟩ => ?_, fun x w hx => ?_, fun hahead x w hx => ?_⟩
  · obtain ⟨rfl, rfl⟩ : s = s' ∧ t = t' := hpre
    have htripped : w'.ledger.tripped = none := by rw [hw', hw.tripped]
    have hunder : w.ledger.enter.overLimit = false := by
      simp [Ledger.overLimit, Ledger.enter, hw.limit]
    have hover : w'.ledger.enter.overLimit = decide (L < w.ledger.depth + 1) := by
      simp [Ledger.overLimit, Ledger.enter, hw', hL]
    rw [deferred_under _ s t hw.tripped hunder]
    by_cases hdeep : L < w.ledger.depth + 1
    · have hdepth : w.ledger.depth = max L d₀ :=
        le_antisymm hw.depth_le (max_le (Nat.lt_succ_iff.mp hdeep) hw.le_depth)
      let x : FirstExcess source L d₀ :=
        ⟨⟨t.offset, w.ledger.depth + 1⟩, congrArg (· + 1) hdepth, t, hahead.1, hahead.2.1, rfl⟩
      refine agrees_of_parted (e := x) (.settle ((h base s s t t).left x _ ?_) fun _ => id) ?_
      · exact firstBeyond_of_within hw.log hdeep
      · refine ⟨_, .of_forall fun m => deferred_over _ s t htripped (by rw [hover]; simp [hdeep]),
          hahead, ?_⟩
        simp [limited, World.mapLedger, Ledger.trip, Ledger.enter, Ledger.leave, hw', hw.inRun,
          Ledger.excessAt, FirstExcess.excess, x]
    · have hagrees := (h base s s t t).agrees ⟨rfl, rfl⟩ hahead
        ⟨w.ledger.enter, w.heap ++ [⟨t.offset, w.ledger.depth + 1⟩]⟩
        ⟨w'.ledger.enter, w'.heap ++ [⟨t.offset, w'.ledger.depth + 1⟩]⟩
        ⟨within_noted hw (Nat.le_of_not_lt hdeep) t.offset, by rw [hw']; rfl⟩
      refine .congr (.settle (g := World.mapLedger Ledger.leave) hagrees (hp.apply s t _)
        (fun w₁ w₁' hkept hw₁ => ?_) (fun _ _ => id) fun _ _ => id)
        (.of_forall fun m => deferred_under _ s t htripped (by rw [hover]; simp [hdeep]))
      exact ⟨within_leave hw hw₁.1 hkept.depth, by simp only [World.mapLedger, hw₁.2]; rfl⟩
  · -- the left machine notes more, and keeps what it has noted
    cases htripped : w.ledger.tripped with
    | some e => rw [deferred_tripped _ s t htripped]; exact hx
    | none =>
      cases hover : w.ledger.enter.overLimit with
      | true => rw [deferred_over _ s t htripped hover]; exact hx
      | false =>
        rw [deferred_under _ s t htripped hover]
        exact .settle ((h base s s t t).left x _ (firstBeyond_append hx _)) fun _ => id
  · -- the right one refuses
    exact ⟨_, .of_forall fun m => deferred_tripped _ s' t' hx, hahead, hx⟩

/-! ### Nested runs -/

theorem ahead_of_apart {p : Parser (World Log) Value Value} {config : Config} {base : Stream}
    {s : Value} {t : Stream} {w w₁ : World Log} {reply : Reply Value Value}
    (hahead : (limited source L d₀ extra answers forward).ahead base t)
    (h : apart (Parser.nestedRun config p) s t w = .done reply w₁) :
    (limited source L d₀ extra answers forward).ahead base reply.stream := by
  unfold apart at h
  cases hr : Parser.nestedRun config p s t { w with heap := [] } with
  | done reply' w' =>
    rw [hr, Result.settle, Result.done.injEq] at h
    obtain hstream | ⟨n, hn⟩ := nestedRun_stream hr
    · rwa [← h.1, hstream]
    · obtain ⟨taken, rest, hrest, _, hover⟩ := Stream.past_of_advance? hn
      rw [← h.1, hover]
      exact limited_ahead_past hahead hrest
  | fault f w' => rw [hr] at h; cases h
  | outOfFuel => rw [hr] at h; cases h

/-- Nested runs are the same on both sides, whether the outer ones parted or not. -/
theorem apart_limited (h : (lockstep (World.Beside Eq) extra).Follows p q) (hp : Accounts p)
    (config : Config) (halone : (limited source L d₀ extra answers forward).Alone
      fun m => apart (Parser.nestedRun config (q m))) :
    (limited source L d₀ extra answers forward).Follows (apart (Parser.nestedRun config p))
      fun m => apart (Parser.nestedRun config (q m)) := by
  intro base s s' t t'
  refine ⟨fun hpre hahead w w' hw => ?_, fun x w hx => ?_, halone base s' t'⟩
  · obtain ⟨rfl, rfl⟩ : s = s' ∧ t = t' := hpre
    have hdepth : w.ledger.depth = w'.ledger.depth := by rw [hw.2]
    have hmatches := apart_nestedRun_matches h hp config s t hdepth
    cases hr : apart (Parser.nestedRun config p) s t w with
    | done reply w₁ =>
      rw [hr] at hmatches
      obtain ⟨w₁', hd, rfl, rfl⟩ := hmatches
      exact .inl ⟨reply, w₁', hd, limited_equal.replies.mpr rfl, ahead_of_apart hahead hr, hw⟩
    | fault f w₁ =>
      rw [hr] at hmatches
      obtain ⟨w₁', hd, rfl, rfl⟩ := hmatches
      exact .inl ⟨f, w₁', rfl, hd, hw, trivial⟩
    | outOfFuel => exact False.elim
  · exact (hp.apart_nestedRun config s t w).mono (fun _ _ hw => hw ▸ hx) fun _ hw => hw ▸ hx

/-- After parting a nested run needs but to end. -/
theorem apart_alone [extra.NeBot] (hq : ∀ m, Accounts (q m)) (config : Config)
    (hends : ∀ s t w, t.Valid → t.source = source → w.ledger.tripped.isSome →
      ∃ r, (∀ᶠ m in extra, apart (Parser.nestedRun config (q m)) s t w = r) ∧
        (answers → r ≠ .outOfFuel)) :
    (limited source L d₀ extra answers forward).Alone
      fun m => apart (Parser.nestedRun config (q m)) := by
  intro base s t hahead x w hx
  obtain ⟨r, hr, hanswers⟩ := hends s t w hahead.1 hahead.2.1 (Option.isSome_of_eq_some hx)
  refine ⟨r, hr, ?_⟩
  obtain ⟨m, hm⟩ := hr.exists
  have hworld := (hq m).apart_nestedRun config s t w
  rw [hm] at hworld
  cases r with
  | done reply w₁ => exact ⟨ahead_of_apart hahead hm, hworld ▸ hx⟩
  | fault f w₁ => exact hworld ▸ hx
  | outOfFuel => exact fun h => hanswers h rfl

end

/-! ### Grammars -/

/-- **A grammar without limit and the same grammar under one** stay together until an
application is too deep. Of grammars and loops that the right machine may be left with
it is a hypothesis that they end, as far as answers are promised. -/
theorem meaning_limited (hL : 0 < L) (hC : (limited source L d₀ extra answers forward).Lawful)
    {setting : Setting} {ok : Grammar → Prop}
    (hrules : ∀ name p, setting.definition? name = some p → All ok p)
    (hok : ∀ g, ok g → Written g ∧ (forward → g ≠ .rewind))
    (halone : ∀ g, All ok g →
      (limited source L d₀ extra answers forward).Alone fun m => meaning setting m g)
    (hescapes : ∀ n g, All ok g → (limited source L d₀ extra answers forward).Escapes
      (fun m => reference setting (meaning setting (n + m)) (n + m)) g)
    (hnested : ∀ n config p, All ok (.nestedRun config p) →
      (limited source L d₀ extra answers forward).Alone
        fun m => apart (Parser.nestedRun config (meaning setting (n + m) p)))
    (n : ℕ) {g : Grammar} (hg : All ok g) :
    (limited source L d₀ extra answers forward).Follows (meaning setting n g)
      fun m => meaning setting (n + m) g := by
  induction n generalizing g with
  | zero =>
    simp only [Nat.zero_add]
    exact .starved False.elim (halone g hg)
  | succ n ih =>
    simp only [Nat.add_right_comm n 1]
    by_cases hrec : g.Recursive
    · simp only [meaning_recursive hrec, recalled]
      cases hbody : body? setting g with
      | none => exact Follows.fail hC _
      | some p =>
        have hp : All ok p := by
          cases g with
          | rule name => exact hrules name p hbody
          | fresh name => exact hrules name p hbody
          | lazy q => cases hbody; exact hg.child (List.mem_singleton_self p)
          | _ => cases hbody
        exact deferred_limited hL (ih hp) (meaning_accounts setting n p)
    · have hparts : (limited source L d₀ extra answers forward).PartsFollow
          (fun p p' => p = p' ∧ All ok p) (fun p p' => p = p' ∧ All ok p)
          (reference setting (meaning setting n) n)
          (fun m => reference setting (meaning setting (n + m)) (n + m)) g :=
        { apply := fun h => h.1 ▸ ih h.2
          chosen := fun h => h.1 ▸ ih h.2
          nested := fun hnode h => by
            obtain ⟨rfl, _⟩ := h
            subst hnode
            exact apart_limited (meaning_lockstep extra setting n _) (meaning_accounts setting n _) _
              (hnested n _ _ hg)
          written := ⟨_, fun _ => rfl, fun _ _ => congrArg _⟩
          rounds := fun _ => rfl }
      refine layer_follows hC hparts (.refl g hrec (fun p hp => ⟨rfl, hg.child hp⟩)
        fun p hp => ⟨rfl, hg.pick hp⟩) (limited_equal.admits (fun _ _ => trivial) fun hrewind base t hahead => ?_)
        (hescapes n g hg)
      exact ⟨Stream.start_valid _, hahead.2.1, fun hforward =>
        ((hok g hg.here).2 hforward hrewind).elim⟩

end Coupling

/-! ### Runs -/

/-- What a run says of an excess: its message alone, where it happened. -/
def FirstExcess.Verdict {source : Source} {L d₀ : ℕ} (x : FirstExcess source L d₀)
    (reply : Reply Value Value) : Prop :=
  reply.outcome = .error [x.excess.message] ∧
    (Stream.start source).advance? x.offset = some reply.stream

theorem FirstExcess.verdict {source : Source} {L d₀ : ℕ} (x : FirstExcess source L d₀)
    (reply : Reply Value Value) : x.Verdict (Parser.verdict source reply (some x.excess)) := by
  obtain ⟨t, hvalid, rfl, hoffset⟩ := x.place
  have hplace : (Stream.start t.source).advance? x.offset = some t :=
    hoffset ▸ Stream.start_advance? hvalid
  exact ⟨rfl, by simp only [Parser.verdict, excess, hplace, Option.getD_some]⟩

namespace Coupling
variable {source : Source} {L : ℕ} {extra : Filter ℕ} {answers forward : Prop}

/-- What a run under a limit comes to, when the run without limit ends: the same, if
nothing was too deep; else the verdict on the first application that was, if it comes
to an end at all. -/
theorem run_limited {p : Parser (World Log) Value Value} {q : ℕ → Parser (World Log) Value Value}
    {l : Ledger} (h : (limited source L l.depth extra answers forward).Follows p q)
    {config : Config} (hconfig : config.maxRecursionDepth = L) (s : Value) :
    (Parser.run { config with maxRecursionDepth := 0 } p s source ⟨l, []⟩).Ends
      (fun reply w =>
        ((∀ v ∈ w.heap, v.depth ≤ L) ∧
          ∃ w', ∀ᶠ m in extra, Parser.run config (q m) s source ⟨l, []⟩ = .done reply w') ∨
        ∃ x : FirstExcess source L l.depth, w.heap.firstBeyond L = some x.toVisit ∧
          ∃ r, (∀ᶠ m in extra, Parser.run config (q m) s source ⟨l, []⟩ = r) ∧
            r.Ends (fun reply _ => x.Verdict reply) (fun _ => True) ¬answers)
      (fun _ => ∃ r, (∀ᶠ m in extra, Parser.run config (q m) s source ⟨l, []⟩ = r) ∧
        r.Ends (fun _ _ => True) (fun _ => True) ¬answers)
      True := by
  by_cases hsize : config.maxInputSize < source.text.byteSize
  · have hsize' : ({ config with maxRecursionDepth := 0 } : Config).maxInputSize <
        source.text.byteSize := hsize
    rw [run_refused _ _ _ hsize']
    simp only [run_refused _ _ _ hsize]
    exact .inl ⟨fun v hv => (List.not_mem_nil hv).elim, _, .of_forall fun _ => rfl⟩
  · have hfinished {r} (hd : ∀ᶠ m in extra, q m s (.start source) ⟨l.beginRun L, []⟩ = r) :
        ∀ᶠ m in extra, Parser.run config (q m) s source ⟨l, []⟩ = finished source l r :=
      hd.mono fun m hm => by
        rw [run_accepted _ _ _ hsize, hconfig]
        exact congrArg (finished source l) hm
    have hagrees := (h (.start source) s s (.start source) (.start source)).agrees ⟨rfl, rfl⟩
      ⟨Stream.start_valid source, rfl, fun _ => le_rfl⟩ ⟨l.beginRun 0, []⟩ ⟨l.beginRun L, []⟩
      ⟨⟨rfl, rfl, rfl, le_rfl, le_max_right L l.depth, fun v hv => by cases hv⟩, rfl⟩
    have hsize' : ¬({ config with maxRecursionDepth := 0 } : Config).maxInputSize <
        source.text.byteSize := hsize
    rw [run_accepted _ _ _ hsize']
    simp only [World.mapLedger] at hagrees ⊢
    cases hr : p s (.start source) ⟨l.beginRun 0, []⟩ with
    | done reply w =>
      rw [hr] at hagrees
      obtain ⟨reply', w', hd, hreply, _, hw, hw'⟩ | ⟨x, hx, r, hd, hr⟩ := hagrees
      · obtain rfl : reply = reply' := limited_equal.replies.mp hreply
        have htripped : w'.ledger.tripped = none := by rw [hw', hw.tripped]
        rw [finished_done hw.tripped]
        exact .inl ⟨hw.log, _, finished_done htripped ▸ hfinished hd⟩
      · refine .inr ⟨x, hx, _, hfinished hd, finished_ends hr fun reply w hw => ?_⟩
        rw [hw.2]
        exact x.verdict reply
    | fault f w =>
      rw [hr] at hagrees
      obtain ⟨f', w', _, hd, _⟩ | ⟨x, _, r, hd, hr⟩ := hagrees
      · exact ⟨_, hfinished hd, trivial⟩
      · exact ⟨_, hfinished hd, finished_ends hr fun _ _ _ => trivial⟩
    | outOfFuel => trivial

end Coupling

end Descent
