import Descent.Proofs.Coupling.Abreast

/-! Lockstep.

Machines in `lockstep` reply the same and do not part, in worlds that correspond in some
way. If they are `guarded`, something is true of their streams besides. A machine is in
lockstep with itself: read across that says that more fuel gives the same answer, and
read down it says that a property of worlds is kept (`Parser.Keeps`). Deferred
applications and runs stay in lockstep when the worlds agree about the account of nesting
(`World.Beside`). -/
namespace Descent
open Descent.Grammar

/-- The right computation ends as the left one does, with the same value or fault. -/
def Result.Matches {ω ω' β : Type} (W : ω → ω' → Prop) (extra : Filter ℕ) (r : Result ω β)
    (d : ℕ → Result ω' β) : Prop :=
  match r with
  | .done b w => ∃ w', (∀ᶠ m in extra, d m = .done b w') ∧ W w w'
  | .fault f w => ∃ w', (∀ᶠ m in extra, d m = .fault f w') ∧ W w w'
  | .outOfFuel => (∀ᶠ m in extra, m = 0) → ∀ᶠ m in extra, d m = .outOfFuel

namespace Result.Matches
variable {ω ω' β γ : Type} {W W₂ : ω → ω' → Prop} {extra : Filter ℕ}
variable {r : Result ω β} {d : ℕ → Result ω' β}

/-- They meet with equal values. -/
theorem iff_meets : r.Matches W extra d ↔ r.Meets (· = ·) W True extra d := by
  cases r <;> simp [Matches, Meets]

theorem congr {d' : ℕ → Result ω' β} (h : r.Matches W extra d)
    (hd : ∀ᶠ m in extra, d' m = d m) : r.Matches W extra d' :=
  iff_meets.mpr ((iff_meets.mp h).congr hd)

theorem done {b : β} {w : ω} {w' : ω'} (h : W w w') :
    (Result.done b w).Matches W extra fun _ => .done b w' := ⟨w', .of_forall fun _ => rfl, h⟩

theorem fault {f : Fault} {w : ω} {w' : ω'} (h : W w w') :
    (Result.fault f w : Result ω β).Matches W extra fun _ => .fault f w' :=
  ⟨w', .of_forall fun _ => rfl, h⟩

theorem next {k : β → ω → Result ω γ} {k' : ℕ → β → ω' → Result ω' γ} (h : r.Matches W extra d)
    (hk : ∀ b w w', W w w' → (k b w).Matches W₂ extra fun m => k' m b w')
    (hfault : ∀ w w', W w w' → W₂ w w') :
    (r.next k).Matches W₂ extra fun m => (d m).next (k' m) :=
  iff_meets.mpr ((iff_meets.mp h).next
    (fun b _ w w' hb hw => hb ▸ iff_meets.mp (hk b w w' hw)) hfault)

/-- With the same fuel they end alike, or none does. -/
theorem cases {r' : Result ω' β} (h : r.Matches W (pure 0) fun _ => r') :
    (∃ b w w', r = .done b w ∧ r' = .done b w' ∧ W w w') ∨
      (∃ f w w', r = .fault f w ∧ r' = .fault f w' ∧ W w w') ∨
        r = .outOfFuel ∧ r' = .outOfFuel := by
  obtain ⟨b, w, _, w', hr, hr', rfl, hw⟩ | ⟨-, hfault⟩ | hstarved := (iff_meets.mp h).cases
  · exact .inl ⟨b, w, w', hr, hr', hw⟩
  · exact .inr (.inl hfault)
  · exact .inr (.inr hstarved)

/-- With the same fuel none of two machines is out of it alone. -/
theorem outOfFuel_iff {r' : Result ω' β} (h : r.Matches W (pure 0) fun _ => r') :
    r = .outOfFuel ↔ r' = .outOfFuel := by
  obtain ⟨b, w, w', rfl, rfl, -⟩ | ⟨f, w, w', rfl, rfl, -⟩ | ⟨rfl, rfl⟩ := h.cases <;> simp

/-- What is known of how the right one ends is known of the left one. -/
theorem ends {r' : Result ω' β} (h : r.Matches W (pure 0) fun _ => r') {done : β → Prop}
    {fault : Prop} (h' : r'.Ends (fun b _ => done b) (fun _ => fault) True) :
    r.Ends (fun b _ => done b) (fun _ => fault) True := by
  obtain ⟨b, w, w', rfl, rfl, -⟩ | ⟨f, w, w', rfl, rfl, -⟩ | ⟨rfl, rfl⟩ := h.cases <;> exact h'

/-- They find the same. -/
theorem done_iff {r' : Result ω' β} (h : r.Matches W (pure 0) fun _ => r') {b : β} :
    (∃ w, r = .done b w) ↔ ∃ w', r' = .done b w' := by
  obtain ⟨b, w, w', rfl, rfl, -⟩ | ⟨f, w, w', rfl, rfl, -⟩ | ⟨rfl, rfl⟩ := h.cases <;> simp

theorem settle {f : ω → ω} {f' : ω' → ω'} (h : r.Matches W extra d)
    (hf : ∀ w w', W w w' → W₂ (f w) (f' w')) :
    (r.settle f).Matches W₂ extra fun m => (d m).settle f' :=
  iff_meets.mpr ((iff_meets.mp h).settle hf)

theorem mono (h : r.Matches W extra d) (hW : ∀ w w', W w w' → W₂ w w') :
    r.Matches W₂ extra d :=
  iff_meets.mpr ((iff_meets.mp h).mono (fun _ _ => id) hW)

theorem and_ends {I : ω → Prop} (h : r.Matches W extra d) (hI : r.Ends (fun _ => I) I True) :
    r.Matches (fun w w' => W w w' ∧ I w) extra d := by
  cases r with
  | done b w => exact h.imp fun w' => .imp_right fun hw => ⟨hw, hI⟩
  | fault f w => exact h.imp fun w' => .imp_right fun hw => ⟨hw, hI⟩
  | outOfFuel => exact h

end Result.Matches

namespace Coupling
variable {ω ω' α : Type} {W : ω → ω' → Prop} {ahead : Stream → Stream → Prop} {faults : Prop}
variable {extra : Filter ℕ}

/-- Machines that stay together and reply the same, in worlds that correspond, and whose
streams stay where `ahead` says, seen from where a machine began. -/
def guarded (W : ω → ω' → Prop) (ahead : Stream → Stream → Prop) (faults : Prop)
    (extra : Filter ℕ) : Coupling ω ω' where
  state := Eq
  stream := Eq
  messages := Eq
  world := W
  ahead
  extra
  exact := ∀ᶠ m in extra, m = 0
  Cause := Empty
  left e := e.elim
  right e := e.elim
  answers := False
  faults
  together h := ⟨inferInstance, h⟩

/-- Machines that stay together and reply the same, whatever their streams. -/
abbrev lockstep (W : ω → ω' → Prop) (extra : Filter ℕ) : Coupling ω ω' :=
  guarded W (fun _ _ => True) True extra

/-- Machines abreast whose streams and messages are equal. -/
theorem guarded_eq_abreast : guarded W ahead faults extra =
    abreast (· = ·) (· = ·) W ahead faults extra := rfl

instance : IsEmpty (guarded W ahead faults extra).Cause := inferInstanceAs (IsEmpty Empty)

theorem guarded_equal : (guarded W ahead faults extra).Equal := abreast_equal

theorem guarded_lawful (hahead : ∀ {base t taken rest}, ahead base t → t.rest = taken ++ rest →
    ahead base (t.past taken rest)) : (guarded W ahead faults extra).Lawful :=
  guarded_equal.lawful hahead fun _ _ => alone_of_isEmpty _

theorem lockstep_lawful : (lockstep W extra).Lawful := guarded_lawful fun _ _ => trivial

theorem lockstep_admits (g : Grammar) : (lockstep W extra).Admits g :=
  guarded_equal.admits (fun _ _ => trivial) fun _ _ _ _ => trivial

/-- Results that meet with equal replies, and what is known of how they end. -/
theorem meets_iff_matches {r : Result ω (Reply Value α)} {d : ℕ → Result ω' (Reply Value α)}
    {base : Stream} :
    r.Meets (Abreast (· = ·) (· = ·) ahead base) W faults extra d ↔ r.Matches W extra d ∧
      r.Ends (fun reply _ => ahead base reply.stream) (fun _ => faults) True := by
  cases r with
  | done reply w =>
    constructor
    · rintro ⟨reply', w', hd, hreply, hw⟩
      obtain rfl := hreply.eq
      exact ⟨⟨w', hd, hw⟩, hreply.2.2.1⟩
    · rintro ⟨⟨w', hd, hw⟩, ha⟩
      refine ⟨reply, w', hd, ⟨rfl, rfl, ha, ?_⟩, hw⟩
      cases reply.outcome <;> rfl
  | fault f w => exact and_comm
  | outOfFuel => exact (and_iff_left trivial).symm

/-- Of machines that do not part only what happens together counts. -/
theorem follows_guarded {p : Parser ω Value α} {q : ℕ → Parser ω' Value α} :
    (guarded W ahead faults extra).Follows p q ↔
      ∀ base s t w w', ahead base t → W w w' → (p s t w).Matches W extra (fun m => q m s t w') ∧
        (p s t w).Ends (fun reply _ => ahead base reply.stream) (fun _ => faults) True := by
  rw [guarded_eq_abreast, follows_abreast]
  simp only [meets_iff_matches]
  exact ⟨fun h base s t w w' => h base s t t w w' rfl,
    fun h base s t t' w w' ht => ht ▸ h base s t w w'⟩

/-- In lockstep only the results count. -/
theorem follows_lockstep {p : Parser ω Value α} {q : ℕ → Parser ω' Value α} :
    (lockstep W extra).Follows p q ↔
      ∀ s t w w', W w w' → (p s t w).Matches W extra fun m => q m s t w' := by
  rw [follows_guarded]
  refine ⟨fun h s t w w' hw => (h t s t w w' trivial hw).1, fun h base s t w w' _ hw =>
    ⟨h s t w w' hw, ?_⟩⟩
  cases p s t w <;> trivial

/-- A layer follows a layer in lockstep, when the parts do. -/
theorem layer_lockstep {R N : Grammar → Grammar → Prop} {parts : Parts ω} {parts' : ℕ → Parts ω'}
    {g g' : Grammar} (h : (lockstep W extra).PartsFollow R N parts parts' g') (hg : Like R N g g') :
    (lockstep W extra).Follows (layer parts g) fun m => layer (parts' m) g' :=
  layer_follows lockstep_lawful h hg (lockstep_admits g') (escapes_of_isEmpty _ g')

end Coupling

/-! ### What parsers keep -/

namespace Parser
variable {ω α : Type}

/-- The property of worlds is kept, also by a fault. -/
def Keeps (I : ω → Prop) (p : Parser ω Value α) : Prop :=
  ∀ s t w, I w → (p s t w).Ends (fun _ => I) I True

open Coupling

variable {I : ω → Prop} {p : Parser ω Value α}

/-- A parser keeps what it has beside itself. -/
theorem keeps_iff_follows :
    Keeps I p ↔ (lockstep (fun w w' => w = w' ∧ I w) (pure 0)).Follows p fun _ => p := by
  rw [follows_lockstep]
  constructor
  · rintro h s t w _ ⟨rfl, hw⟩
    have hr := h s t w hw
    cases hp : p s t w with
    | done b w₁ => rw [hp] at hr; exact ⟨w₁, .of_forall fun _ => rfl, rfl, hr⟩
    | fault f w₁ => rw [hp] at hr; exact ⟨w₁, .of_forall fun _ => rfl, rfl, hr⟩
    | outOfFuel => exact fun _ => .of_forall fun _ => rfl
  · intro h s t w hw
    have hr := h s t w w ⟨rfl, hw⟩
    cases hp : p s t w with
    | done b w₁ => rw [hp] at hr; exact hr.choose_spec.2.2
    | fault f w₁ => rw [hp] at hr; exact hr.choose_spec.2.2
    | outOfFuel => trivial

/-- **A layer keeps what its parts keep.** -/
theorem Keeps.layer {parts : Parts ω} (happly : ∀ p, Keeps I (parts.apply p))
    (hchosen : ∀ p, Keeps I (parts.chosen p)) (hrecursive : ∀ g, Keeps I (parts.recursive g))
    (hnested : ∀ config p, Keeps I (parts.nested config p)) (g : Grammar) :
    Keeps I (layer parts g) := by
  by_cases hg : g.Recursive
  · cases g <;> first | exact hg.elim | exact hrecursive _
  · rw [keeps_iff_follows]
    have hparts : (lockstep (fun w w' => w = w' ∧ I w) (pure 0)).PartsFollow (fun p p' => p = p')
        (fun p p' => p = p') parts (fun m => { parts with rounds := parts.rounds + m }) g :=
      { apply := fun h => h ▸ keeps_iff_follows.mp (happly _)
        chosen := fun h => h ▸ keeps_iff_follows.mp (hchosen _)
        nested := fun _ h => h ▸ keeps_iff_follows.mp (hnested _ _)
        written := ⟨_, fun _ => rfl, fun _ _ => congrArg _⟩
        rounds := fun _ => rfl }
    exact (layer_lockstep hparts (.refl g hg (fun _ _ => rfl) fun _ _ => rfl)).congr
      (Filter.eventually_pure.mpr rfl)

end Parser

/-! ### Deferred applications and runs -/

/-- The accounts of nesting are equal, and the heaps correspond. -/
def World.Beside {η η' : Type} (H : η → η' → Prop) (w : World η) (w' : World η') : Prop :=
  w.ledger = w'.ledger ∧ H w.heap w'.heap

theorem World.Beside.mapLedger {η η' : Type} {H : η → η' → Prop} {w : World η} {w' : World η'}
    (h : w.Beside H w') (f : Ledger → Ledger) : (w.mapLedger f).Beside H (w'.mapLedger f) :=
  ⟨congrArg f h.1, h.2⟩

theorem World.Beside.eq {η : Type} {w w' : World η} (h : w.Beside Eq w') : w' = w := by
  cases w
  cases w'
  cases h.1
  cases h.2
  rfl

/-- What does the same with more fuel, if it ends. -/
theorem Result.Matches.eq_of_more {η β : Type} {r : Result (World η) β}
    {d : ℕ → Result (World η) β} (h : r.Matches (World.Beside Eq) ⊤ d) (hr : r ≠ .outOfFuel)
    (m : ℕ) : d m = r := by
  cases r with
  | done b w =>
    obtain ⟨w', hd, hw⟩ := h
    exact hw.eq ▸ Filter.eventually_top.mp hd m
  | fault f w =>
    obtain ⟨w', hd, hw⟩ := h
    exact hw.eq ▸ Filter.eventually_top.mp hd m
  | outOfFuel => exact (hr rfl).elim

namespace Coupling
variable {η η' α : Type} {H : η → η' → Prop} {extra : Filter ℕ}
variable {p : Parser (World η) Value α} {q : ℕ → Parser (World η') Value α}

/-- A parser that does the same with more fuel, if it ends. -/
theorem Follows.eq_of_more {η : Type} {q : ℕ → Parser (World η) Value α} {n : ℕ}
    (h : (lockstep (World.Beside Eq) ⊤).Follows (q n) fun m => q (n + m)) {s : Value} {t : Stream}
    {w : World η} (hn : q n s t w ≠ .outOfFuel) (m : ℕ) : q (m + n) s t w = q n s t w := by
  rw [Nat.add_comm]
  exact (follows_lockstep.mp h s t w w ⟨rfl, rfl⟩).eq_of_more hn m

theorem deferred_guarded {faults : Prop} {ahead : Stream → Stream → Prop}
    (h : (guarded (World.Beside H) ahead faults extra).Follows p q) :
    (guarded (World.Beside H) ahead faults extra).Follows (Parser.deferred p)
      fun m => Parser.deferred (q m) := by
  rw [follows_guarded] at h ⊢
  intro base s t w w' ha hw
  have hledger : (w.mapLedger Ledger.enter).ledger = (w'.mapLedger Ledger.enter).ledger :=
    (hw.mapLedger Ledger.enter).1
  simp only [Parser.deferred, ← hw.1, ← hledger]
  split
  · exact ⟨.done hw, ha⟩
  · split
    · exact ⟨.done ((hw.mapLedger _).mapLedger _), ha⟩
    · have hinner := h base s t _ _ ha (hw.mapLedger Ledger.enter)
      exact ⟨hinner.1.settle fun w₁ w₁' hw₁ => hw₁.mapLedger _,
        hinner.2.settle (fun _ _ => id) fun _ => id⟩

theorem deferred_lockstep (h : (lockstep (World.Beside H) extra).Follows p q) :
    (lockstep (World.Beside H) extra).Follows (Parser.deferred p) fun m => Parser.deferred (q m) :=
  deferred_guarded h

/-- Runs of parsers in lockstep end alike. -/
theorem run_lockstep (h : (lockstep (World.Beside H) extra).Follows p q) (config : Config)
    (s : Value) (source : Source) {w : World η} {w' : World η'} (hw : w.Beside H w') :
    (Parser.run config p s source w).Matches (World.Beside H) extra
      fun m => Parser.run config (q m) s source w' := by
  rw [follows_lockstep] at h
  simp only [Parser.run, ← hw.1]
  split
  · exact .done hw
  · refine .settle (.next (h s _ _ _ (hw.mapLedger _)) (fun reply w₁ w₁' hw₁ => ?_) fun _ _ => id)
      fun w₁ w₁' hw₁ => hw₁.mapLedger _
    rw [hw₁.1]
    exact .done hw₁

theorem nestedRun_lockstep (h : (lockstep (World.Beside H) extra).Follows p q) (config : Config) :
    (lockstep (World.Beside H) extra).Follows (Parser.nestedRun config p)
      fun m => Parser.nestedRun config (q m) := by
  rw [follows_lockstep]
  intro s t w w' hw
  refine (run_lockstep h config s _ hw).next (fun reply w₁ w₁' hw₁ => ?_) fun _ _ => id
  split
  · exact .done hw₁
  · split
    · exact .done hw₁
    · exact .fault hw₁

end Coupling

end Descent
