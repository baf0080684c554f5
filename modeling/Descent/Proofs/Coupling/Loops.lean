import Descent.Proofs.Coupling.Layer
import Descent.Proofs.Coupling.Equal

/-! The loops of a machine that is alone.

A machine that parted and goes on with any fuel it needs, and only forward
(`Progressive`), gets out of its loops. Those that check that they move get to the end of
the text. The others, items until an ending and chains, may succeed in place (`Idling`),
and end if they do not go on with that for ever, which is a hypothesis here. With that
a layer of a grammar ends when its parts do (`layer_alone`). -/
namespace Descent
open Descent.Parser
open Filter (atTop eventually_atTop)

namespace Coupling

/-- What holds for all large amounts does not depend on where they are counted from. -/
theorem eventually_add (n : ℕ) (P : ℕ → Prop) :
    (∀ᶠ m in atTop, P (m + n)) ↔ ∀ᶠ m in atTop, P m := by
  conv_rhs => rw [← Filter.map_add_atTop_eq_nat n, Filter.eventually_map]

variable {ω ω' α β : Type} {C : Coupling ω ω'}

variable (C) in
/-- After parting the right machine has any fuel it needs, and does not go back. -/
structure Progressive : Prop where
  extra : C.extra = atTop
  answers : C.answers
  stay : ∀ {base t}, C.ahead base t → C.ahead t t
  trans : ∀ {base t u}, C.ahead base t → C.ahead t u → C.ahead base u
  valid : ∀ {base t}, C.ahead base t → t.Valid
  source_eq : ∀ {t u}, C.ahead t t → C.ahead t u → u.source = t.source
  offset_le : ∀ {t u}, C.ahead t u → t.offset ≤ u.offset

variable (C) in
/-- An answer to what began at the stream. -/
def Arrives (e : C.Cause) (t : Stream) (r : Result ω' (Reply Value α)) : Prop :=
  r.Ends (fun reply w => C.ahead t reply.stream ∧ C.right e w) (C.right e) False

variable (C) in
/-- A round that succeeds in place, from one state and world to another. -/
def Idling (e : C.Cause) (round : ℕ → Parser ω' Value α) (t : Stream)
    (after before : Value × ω') : Prop :=
  C.right e before.2 ∧
    ∃ v, ∀ᶠ m in atTop, round m before.1 t before.2 = .done ⟨after.1, t, .ok v⟩ after.2

variable (C) in
/-- The next round of a loop is its last, or goes forward, or is idle. -/
def Proceeds {X : Type} (e : C.Cause) (idle : Stream → Value × ω' → Value × ω' → Prop)
    (loop : ℕ → X → ℕ → Parser ω' Value α) (acc : X) (s : Value) (t : Stream) (w : ω') : Prop :=
  (∃ r, C.Arrives e t r ∧ ∀ᶠ m in atTop, ∀ k, loop m acc (k + 1) s t w = r) ∨
    ∃ acc' s' u w', C.ahead t u ∧ C.right e w' ∧
      (t.offset < u.offset ∨ u = t ∧ idle t (s', w') (s, w)) ∧
      ∀ᶠ m in atTop, ∀ k, loop m acc (k + 1) s t w = loop m acc' k s' u w'

namespace Progressive
variable (hC : C.Progressive)
include hC

theorem arrives_trans {e : C.Cause} {t u : Stream} {r : Result ω' (Reply Value α)}
    (htu : C.ahead t u) (h : C.Arrives e u r) : C.Arrives e t r :=
  h.mono (fun _ _ hd => ⟨hC.trans htu hd.1, hd.2⟩) fun _ => id

theorem alone_iff {q : ℕ → Parser ω' Value α} :
    C.Alone q ↔ ∀ e s t w, C.ahead t t → C.right e w →
      ∃ r, C.Arrives e t r ∧ ∀ᶠ m in atTop, q m s t w = r := by
  constructor
  · intro h e s t w ht hw
    obtain ⟨r, hr, hends⟩ := h t s t ht e w hw
    rw [hC.extra] at hr
    refine ⟨r, ?_, hr⟩
    cases r with
    | outOfFuel => exact hends hC.answers
    | _ => exact hends
  · intro h base s t ht e w hw
    obtain ⟨r, hends, hr⟩ := h e s t w (hC.stay ht) hw
    refine ⟨r, hC.extra ▸ hr, ?_⟩
    have hends := hC.arrives_trans ht hends
    cases r with
    | outOfFuel => exact hends.elim
    | _ => exact hends

/-- A parser with which the machine is alone replies or faults. -/
theorem alone_cases {q : ℕ → Parser ω' Value α} (h : C.Alone q) {e : C.Cause} (s : Value)
    {t : Stream} {w : ω'} (ht : C.ahead t t) (hw : C.right e w) :
    (∃ reply w', (∀ᶠ m in atTop, q m s t w = .done reply w') ∧ C.ahead t reply.stream ∧
      C.right e w') ∨
    ∃ f w', (∀ᶠ m in atTop, q m s t w = .fault f w') ∧ C.right e w' := by
  obtain ⟨r, hends, hr⟩ := hC.alone_iff.mp h e s t w ht hw
  cases r with
  | done reply w' => exact .inl ⟨reply, w', hr, hends⟩
  | fault f w' => exact .inr ⟨f, w', hr, hends⟩
  | outOfFuel => exact hends.elim

/-- A machine that goes forward goes on or stays. -/
theorem onward {t u : Stream} (ht : C.ahead t t) (hu : C.ahead t u) :
    t.offset < u.offset ∨ u = t :=
  (hC.offset_le hu).lt_or_eq.imp_right fun heq =>
    Stream.eq_of_offset (hC.valid hu) (hC.valid ht) (hC.source_eq ht hu) heq.symm

/-- **A loop ends** that does not idle for ever. -/
theorem loop_arrives {X : Type} {loop : ℕ → X → ℕ → Parser ω' Value α} {e : C.Cause}
    {idle : Stream → Value × ω' → Value × ω' → Prop}
    (hidle : ∀ t, C.ahead t t → WellFounded (idle t))
    (hround : ∀ acc s t w, C.ahead t t → C.right e w → C.Proceeds e idle loop acc s t w)
    (acc : X) (s : Value) (t : Stream) (w : ω') (ht : C.ahead t t) (hw : C.right e w) :
    ∃ r, C.Arrives e t r ∧ ∃ M, ∀ m ≥ M, ∀ k ≥ M, loop m acc k s t w = r := by
  -- first by what is left of the text, then by how long the loop may idle
  induction hleft : t.source.text.byteSize - t.offset using Nat.strong_induction_on
    generalizing acc s t w with
  | _ left ihleft =>
  have hwf := hidle t ht
  induction hplace : (s, w) using hwf.induction generalizing acc s w with
  | _ place ihplace =>
  subst hplace
  obtain ⟨r, hr, hlast⟩ | ⟨acc', s', u, w', hu, hw', hmoves, hmore⟩ := hround acc s t w ht hw
  · obtain ⟨M, hM⟩ := eventually_atTop.mp hlast
    refine ⟨r, hr, M + 1, fun m hm k hk => ?_⟩
    obtain ⟨k, rfl⟩ := Nat.exists_eq_add_of_le' (Nat.one_le_of_lt hk)
    exact hM m (Nat.le_of_succ_le hm) k
  · have hrest : ∃ r, C.Arrives e t r ∧ ∃ M, ∀ m ≥ M, ∀ k ≥ M, loop m acc' k s' u w' = r := by
      obtain hlt | ⟨rfl, hin⟩ := hmoves
      · have hle := Stream.offset_le (hC.valid hu)
        rw [hC.source_eq ht hu] at hle
        obtain ⟨r, hr, hends⟩ := ihleft (t.source.text.byteSize - u.offset) (by omega) acc' s' u w'
          (hC.stay hu) hw' (by rw [hC.source_eq ht hu])
        exact ⟨r, hC.arrives_trans hu hr, hends⟩
      · exact ihplace _ hin acc' s' w' hw' rfl
    obtain ⟨r, hr, M', hM'⟩ := hrest
    obtain ⟨M, hM⟩ := eventually_atTop.mp hmore
    refine ⟨r, hr, max M (M' + 1), fun m hm k hk => ?_⟩
    obtain ⟨k, rfl⟩ := Nat.exists_eq_add_of_le' (Nat.one_le_of_lt (le_of_max_le_right hk))
    rw [hM m (le_of_max_le_left hm) k]
    exact hM' m (by omega) k (by omega)

theorem alone_of_loop {X : Type} (loop : ℕ → X → ℕ → Parser ω' Value α)
    {idle : C.Cause → Stream → Value × ω' → Value × ω' → Prop}
    (hidle : ∀ e t, C.ahead t t → WellFounded (idle e t))
    (hround : ∀ e acc s t w, C.ahead t t → C.right e w → C.Proceeds e (idle e) loop acc s t w)
    (acc : X) : C.Alone fun m => loop m acc m := by
  refine hC.alone_iff.mpr fun e s t w ht hw => ?_
  obtain ⟨r, hr, M, hM⟩ := hC.loop_arrives (hidle e) (hround e) acc s t w ht hw
  exact ⟨r, hr, eventually_atTop.mpr ⟨M, fun m hm => hM m hm m hm⟩⟩

/-! ### The loops -/

variable {p : ℕ → Parser ω' Value α}

theorem alone_many (hp : C.Alone p) (found : List α) :
    C.Alone fun m => manyFrom (p m) found m := by
  refine hC.alone_of_loop (fun m found k => manyFrom (p m) found k) (fun _ _ _ => emptyWf.wf)
    (fun e found s t w ht hw => ?_) found
  obtain ⟨⟨s', u, l | v⟩, w', hd, hu, hw'⟩ | ⟨f, w', hd, hw'⟩ := hC.alone_cases hp s ht hw
  · refine .inl ⟨accept s t found.reverse w', ⟨ht, hw'⟩, ?_⟩
    exact hd.mono fun m hm k => by simp only [manyFrom, hm, Result.next_done]
  · by_cases hsame : (u == t) = true
    · refine .inl ⟨accept s' u found.reverse w', ⟨hu, hw'⟩, ?_⟩
      exact hd.mono fun m hm k => by simp only [manyFrom, hm, Result.next_done, if_pos hsame]
    · have hne : u ≠ t := fun heq => hsame (by simp [heq, BEq.beq])
      refine .inr ⟨v :: found, s', u, w', hu, hw', .inl ((hC.onward ht hu).resolve_right hne), ?_⟩
      exact hd.mono fun m hm k => by simp only [manyFrom, hm, Result.next_done, if_neg hsame]
  · refine .inl ⟨.fault f w', hw', ?_⟩
    exact hd.mono fun m hm k => by simp only [manyFrom, hm, Result.next_fault]

/-- A round of items until an ending is an item where the ending fails. -/
theorem alone_manyTill {ending : ℕ → Parser ω' Value β} (hp : C.Alone p) (hending : C.Alone ending)
    (hidle : ∀ e t, C.ahead t t →
      WellFounded (C.Idling e (fun m => then_ (notFollowedBy (ending m)) (p m)) t))
    (found : List α) : C.Alone fun m => manyTillFrom (p m) (ending m) found m := by
  refine hC.alone_of_loop (fun m found k => manyTillFrom (p m) (ending m) found k) hidle
    (fun e found s t w ht hw => ?_) found
  obtain ⟨⟨s₁, t₁, l | v⟩, w₁, hd₁, hu₁, hw₁⟩ | ⟨f, w₁, hd₁, hw₁⟩ := hC.alone_cases hending s ht hw
  · obtain ⟨⟨s₂, u, l₂ | v₂⟩, w₂, hd₂, hu₂, hw₂⟩ | ⟨f, w₂, hd₂, hw₂⟩ := hC.alone_cases hp s ht hw₁
    · refine .inl ⟨reject s₂ u l₂ w₂, ⟨hu₂, hw₂⟩, ?_⟩
      filter_upwards [hd₁, hd₂] with m hm₁ hm₂ k
      simp only [manyTillFrom, andThen, hm₁, hm₂, Result.next_done]
    · have hin (heq : u = t) :
          C.Idling e (fun m => then_ (notFollowedBy (ending m)) (p m)) t (s₂, w₂) (s, w) := by
        subst heq
        refine ⟨hw, v₂, ?_⟩
        filter_upwards [hd₁, hd₂] with m hm₁ hm₂
        simp only [then_, notFollowedBy, andThen, hm₁, hm₂, Result.next_done, accept]
      refine .inr ⟨v₂ :: found, s₂, u, w₂, hu₂, hw₂,
        (hC.onward ht hu₂).imp_right fun heq => ⟨heq, hin heq⟩, ?_⟩
      filter_upwards [hd₁, hd₂] with m hm₁ hm₂ k
      simp only [manyTillFrom, andThen, hm₁, hm₂, Result.next_done]
    · refine .inl ⟨.fault f w₂, hw₂, ?_⟩
      filter_upwards [hd₁, hd₂] with m hm₁ hm₂ k
      simp only [manyTillFrom, andThen, hm₁, hm₂, Result.next_done, Result.next_fault]
  · refine .inl ⟨accept s₁ t₁ found.reverse w₁, ⟨hu₁, hw₁⟩, ?_⟩
    exact hd₁.mono fun m hm k => by simp only [manyTillFrom, hm, Result.next_done]
  · refine .inl ⟨.fault f w₁, hw₁, ?_⟩
    exact hd₁.mono fun m hm k => by simp only [manyTillFrom, hm, Result.next_fault]

section
variable {operator : ℕ → Parser ω' Value β} (combine : β → α → α → α)

/-- A loop that goes from link to link. A round is an operator and an operand. -/
theorem alone_of_link {X : Type} (loop : ℕ → X → ℕ → Parser ω' Value α)
    (next : X → (α → α → α) → α → X) (value : X → α) (ho : C.Alone operator) (hp : C.Alone p)
    (hidle : ∀ e t, C.ahead t t →
      WellFounded (C.Idling e (fun m => then_ (operator m) (p m)) t))
    (hloop : ∀ m acc k s t w, loop m acc (k + 1) s t w =
      link (map combine (operator m)) (p m) s t w
        (fun f b s t w => loop m (next acc f b) k s t w) fun w => accept s t (value acc) w)
    (acc : X) : C.Alone fun m => loop m acc m := by
  refine hC.alone_of_loop loop hidle (fun e acc s t w ht hw => ?_) acc
  obtain ⟨⟨s₁, t₁, l | f⟩, w₁, hd₁, hu₁, hw₁⟩ | ⟨c, w₁, hd₁, hw₁⟩ := hC.alone_cases ho s ht hw
  · refine .inl ⟨accept s t (value acc) w₁, ⟨ht, hw₁⟩, ?_⟩
    filter_upwards [hd₁] with m hm₁ k
    simp only [hloop, link, map, hm₁, Result.next_done, Reply.map, Except.map]
  · obtain ⟨⟨s₂, u, l | b⟩, w₂, hd₂, hu₂, hw₂⟩ | ⟨c, w₂, hd₂, hw₂⟩ :=
      hC.alone_cases hp s₁ (hC.stay hu₁) hw₁
    · refine .inl ⟨accept s t (value acc) w₂, ⟨ht, hw₂⟩, ?_⟩
      filter_upwards [hd₁, hd₂] with m hm₁ hm₂ k
      simp only [hloop, link, map, hm₁, hm₂, Result.next_done, Reply.map, Except.map]
    · have hin (heq : u = t) :
          C.Idling e (fun m => then_ (operator m) (p m)) t (s₂, w₂) (s, w) := by
        subst heq
        refine ⟨hw, b, ?_⟩
        filter_upwards [hd₁, hd₂] with m hm₁ hm₂
        simp only [then_, andThen, hm₁, hm₂, Result.next_done]
      have hu := hC.trans hu₁ hu₂
      refine .inr ⟨next acc (combine f) b, s₂, u, w₂, hu, hw₂,
        (hC.onward ht hu).imp_right fun heq => ⟨heq, hin heq⟩, ?_⟩
      filter_upwards [hd₁, hd₂] with m hm₁ hm₂ k
      simp only [hloop, link, map, hm₁, hm₂, Result.next_done, Reply.map, Except.map]
    · refine .inl ⟨.fault c w₂, hw₂, ?_⟩
      filter_upwards [hd₁, hd₂] with m hm₁ hm₂ k
      simp only [hloop, link, map, hm₁, hm₂, Result.next_done, Result.next_fault, Reply.map,
        Except.map]
  · refine .inl ⟨.fault c w₁, hw₁, ?_⟩
    filter_upwards [hd₁] with m hm₁ k
    simp only [hloop, link, map, hm₁, Result.next_fault]

theorem alone_chainLeft (ho : C.Alone operator) (hp : C.Alone p)
    (hidle : ∀ e t, C.ahead t t →
      WellFounded (C.Idling e (fun m => then_ (operator m) (p m)) t)) (acc : α) :
    C.Alone fun m => chainLeftFrom (map combine (operator m)) (p m) acc m :=
  hC.alone_of_link combine (fun m acc k => chainLeftFrom (map combine (operator m)) (p m) acc k)
    (fun acc f b => f acc b) id ho hp hidle (fun _ _ _ _ _ _ => rfl) acc

theorem alone_chainRight (ho : C.Alone operator) (hp : C.Alone p)
    (hidle : ∀ e t, C.ahead t t →
      WellFounded (C.Idling e (fun m => then_ (operator m) (p m)) t))
    (pending : List (α × (α → α → α))) (last : α) :
    C.Alone fun m => chainRightFrom (map combine (operator m)) (p m) pending last m :=
  hC.alone_of_link combine (fun m x k => chainRightFrom (map combine (operator m)) (p m) x.1 x.2 k)
    (fun x f b => ((x.2, f) :: x.1, b)) (fun x => combineRight x.1 x.2) ho hp hidle
    (fun _ _ _ _ _ _ => rfl) (pending, last)

end

/-- A round of two parts that succeeds in place has both of them succeed in place. -/
theorem of_idling {q : ℕ → Parser ω' Value β} {e : C.Cause} {t : Stream}
    {after before : Value × ω'} (hp : C.Alone p) (hq : C.Alone q) (ht : C.ahead t t)
    (h : C.Idling e (fun m => then_ (p m) (q m)) t after before) :
    ∃ s w, C.right e w ∧
      (∃ v, ∀ᶠ m in atTop, p m before.1 t before.2 = .done ⟨s, t, .ok v⟩ w) ∧
      ∃ v, ∀ᶠ m in atTop, q m s t w = .done ⟨after.1, t, .ok v⟩ after.2 := by
  obtain ⟨hbefore, v, hround⟩ := h
  obtain ⟨⟨s, u, l | x⟩, w, hd, hu, hw⟩ | ⟨f, w, hd, -⟩ := hC.alone_cases hp before.1 ht hbefore
  · obtain ⟨m, hm, hdm⟩ := (hround.and hd).exists
    simp [then_, andThen, hdm, reject] at hm
  · have hq' : ∀ᶠ m in atTop, q m s u w = .done ⟨after.1, t, .ok v⟩ after.2 := by
      filter_upwards [hround, hd] with m hm hdm
      simpa only [then_, andThen, hdm, Result.next_done] using hm
    -- the second part may go on only from where the first one stayed
    obtain rfl : u = t := by
      obtain ⟨reply, w', hd', hu', -⟩ | ⟨f, w', hd', -⟩ := hC.alone_cases hq s (hC.stay hu) hw
      · obtain ⟨m, hm, hdm⟩ := (hq'.and hd').exists
        rw [hdm, Result.done.injEq] at hm
        rw [hm.1] at hu'
        exact (hC.onward ht hu).resolve_left (hC.offset_le hu').not_gt
      · obtain ⟨m, hm, hdm⟩ := (hq'.and hd').exists
        rw [hdm] at hm
        cases hm
    exact ⟨s, w, hw, ⟨x, hd⟩, v, hq'⟩
  · obtain ⟨m, hm, hdm⟩ := (hround.and hd).exists
    simp [then_, andThen, hdm] at hm

end Progressive

/-! ### Layers -/

open Descent.Grammar

/-- The parts of a machine that does nothing. -/
def idleParts (ω : Type) (written : Value → Value) : Parts ω where
  apply _ _ _ _ := .outOfFuel
  chosen _ _ _ _ := .outOfFuel
  recursive _ _ _ _ := .outOfFuel
  nested _ _ _ _ _ := .outOfFuel
  written
  rounds := 0

/-- **A machine that is alone with a grammar ends**, if it does with the parts. -/
theorem layer_alone (hC : C.Lawful) (hexact : ¬C.exact) {parts : ℕ → Parts ω'}
    {written : Value → Value} {R N : Grammar → Prop} {g : Grammar}
    (hg : Like (fun p q => p = q ∧ R p) (fun p q => p = q ∧ N p) g g)
    (happly : ∀ p, R p → C.Alone fun m => (parts m).apply p)
    (hchosen : ∀ p, N p → C.Alone fun m => (parts m).chosen p)
    (hnested : ∀ config p, g = .nestedRun config p → R p →
      C.Alone fun m => (parts m).nested config p)
    (hwritten : ∀ m, (parts m).written = written) (hrounds : ∀ m, (parts m).rounds = m)
    (hadmits : C.Admits g) (hescapes : C.Escapes parts g) : C.Alone fun m => layer (parts m) g := by
  -- as what follows a machine that does nothing
  have hstarved {q : ℕ → Parser ω' Value Value} (h : C.Alone q) :
      C.Follows (fun _ _ _ => .outOfFuel) q := .starved (fun h => (hexact h).elim) h
  have hparts : C.PartsFollow (fun p q => p = q ∧ R p) (fun p q => p = q ∧ N p)
      (idleParts ω written) parts g :=
    { apply := fun ⟨heq, hp⟩ => heq ▸ hstarved (happly _ hp)
      chosen := fun ⟨heq, hp⟩ => heq ▸ hstarved (hchosen _ hp)
      nested := fun hnode ⟨heq, hp⟩ => hstarved (hnested _ _ hnode (heq ▸ hp))
      written := ⟨_, hwritten, fun _ _ => hC.state_map written⟩
      rounds := fun m => (hrounds m).trans (Nat.zero_add m).symm }
  exact (layer_follows hC hparts hg hadmits hescapes).alone

end Coupling

end Descent
