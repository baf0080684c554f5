import Descent.Proofs.Coupling.Abreast
import Descent.Proofs.Ledger
import Descent.Proofs.Streams

/-! Machines whose streams are displaced.

Two streams may have the same text before them at different places of different sources:
the one is `Displaced` against the other, by a number of bytes that stays what it is while
both are read. Machines on such streams go abreast. What a run does is up to its own text
and begins at its beginning, so inside of a nested run the displacement is zero, and
outside the moves that follow it are by the same amount. The accounts of nesting are
`Near` each other: they may differ in where an excess was, but only where streams differ
in that too. -/
namespace Descent

namespace Stream
variable {forward : Prop} {source : Source} {base t u : Stream}

/-- The place in the source of `t` where one is at `u` in what remains at `t`. -/
def within (t u : Stream) : Stream := ⟨t.source, t.offset + u.offset, u.rest⟩

/-- Where one comes in what remains, one comes over what is passed there. -/
theorem within_eq_past (hrest : t.rest = source.text) (h : (start source).Leads False u) :
    ∃ passed : Text, t.rest = passed ++ u.rest ∧ u.offset = passed.byteSize ∧
      t.within u = t.past passed u.rest := by
  obtain ⟨passed, htext, hoffset⟩ := h.valid
  refine ⟨passed, ?_, hoffset, ?_⟩
  · rw [hrest, ← htext, h.source_eq, start]
  · rw [within, past, hoffset]

theorem advance_within (hrest : t.rest = source.text) (h : (start source).Leads False u) :
    t.advance u.offset = .ok (t.within u) := by
  obtain ⟨passed, hpassed, hoffset, heq⟩ := within_eq_past hrest h
  rw [advance, hoffset, advance?_byteSize hpassed, heq]

theorem Leads.within (ht : Leads forward base t) (hrest : t.rest = source.text)
    (h : (Stream.start source).Leads False u) : Leads forward base (t.within u) := by
  obtain ⟨passed, hpassed, -, heq⟩ := within_eq_past hrest h
  exact heq ▸ ht.past hpassed

end Stream

/-- The same text remains, `k` bytes further in the first source than in the second. -/
structure Stream.Displaced (source source' : Source) (k : ℕ) (t t' : Stream) : Prop where
  left : t.source = source
  right : t'.source = source'
  rest : t.rest = t'.rest
  offset : t.offset = k + t'.offset

namespace Stream.Displaced
variable {source source' : Source} {k : ℕ} {t t' u u' : Stream}

theorem past (h : t.Displaced source source' k t') (taken rest : Text) :
    (t.past taken rest).Displaced source source' k (t'.past taken rest) where
  left := h.left
  right := h.right
  rest := rfl
  offset := by simp only [Stream.past, h.offset, Nat.add_assoc]

theorem within (h : t.Displaced source source' k t') (u : Stream) :
    (t.within u).Displaced source source' k (t'.within u) where
  left := h.left
  right := h.right
  rest := rfl
  offset := by simp only [Stream.within, h.offset, Nat.add_assoc]

theorem same (ht : t.Displaced source source' k t') (hu : u.Displaced source source' k u') :
    (t == u) = (t' == u') := by
  simp only [BEq.beq, ht.left, ht.right, hu.left, hu.right, ht.offset, hu.offset, decide_true,
    Bool.true_and, Nat.add_left_cancel_iff]

theorem between (ht : t.Displaced source source' k t') (hu : u.Displaced source source' k u') :
    t.consumedUntil u = t'.consumedUntil u' := by
  simp only [consumedUntil, ht.rest, ht.offset, hu.offset, Nat.add_sub_add_left]

theorem start {text : Text} {tag tag' : ℕ} :
    (Stream.start ⟨text, tag⟩).Displaced ⟨text, tag⟩ ⟨text, tag'⟩ 0 (.start ⟨text, tag'⟩) :=
  ⟨rfl, rfl, rfl, rfl⟩

/-- Seen from the beginning of what remains. -/
theorem eq_within {base : Stream} (h : u.Displaced base.source source' base.offset u') :
    u = base.within u' := by
  obtain ⟨hleft, -, hrest, hoffset⟩ := h
  cases u
  simp_all only [Stream.within]

/-- Streams of one source at the same offset are one. -/
theorem eq (h : t.Displaced source source 0 t') : t = t' := by
  obtain ⟨rfl, hright, hrest, hoffset⟩ := h
  cases t
  cases t'
  simp_all

end Stream.Displaced

/-- Excesses of the same depth under the same limit, at the same offset where streams are
`placed` at the same offset too. -/
structure Excess.Near (placed : Prop) (e e' : Excess) : Prop where
  depth : e.depth = e'.depth
  limit : e.limit = e'.limit
  offset : placed → e.offset = e'.offset

namespace Excess.Near
variable {placed : Prop} {e e' : Excess}

theorem message (h : e.Near placed e') : e.message = e'.message := by
  unfold Excess.message
  rw [h.depth, h.limit]

theorem eq (h : e.Near True e') : e = e' := by
  cases e
  cases e'
  cases h.depth
  cases h.limit
  cases h.offset trivial
  rfl

end Excess.Near

/-- Accounts that differ at most in where the excess was. -/
structure Ledger.Near (placed : Prop) (l l' : Ledger) : Prop where
  depth : l.depth = l'.depth
  limit : l.limit = l'.limit
  inRun : l.inRun = l'.inRun
  tripped : Option.Rel (Excess.Near placed) l.tripped l'.tripped

namespace Ledger.Near
variable {placed inner : Prop} {l l' outer outer' : Ledger}

theorem refl (placed : Prop) (l : Ledger) : l.Near placed l where
  depth := rfl
  limit := rfl
  inRun := rfl
  tripped := by
    cases l.tripped with
    | none => exact .none
    | some e => exact .some ⟨rfl, rfl, fun _ => rfl⟩

/-- Both have tripped, or none has. -/
theorem cases (h : l.Near placed l') : (l.tripped = none ∧ l'.tripped = none) ∨
    ∃ e e', l.tripped = some e ∧ l'.tripped = some e' ∧ e.Near placed e' := by
  obtain ⟨-, -, -, htripped⟩ := h
  generalize l.tripped = o, l'.tripped = o' at htripped
  cases htripped with
  | none => exact .inl ⟨rfl, rfl⟩
  | some he => exact .inr ⟨_, _, rfl, rfl, he⟩

/-- Where streams are placed the accounts are equal. -/
theorem eq (h : l.Near True l') : l = l' := by
  have htripped : l.tripped = l'.tripped := by
    obtain ⟨hnone, hnone'⟩ | ⟨e, e', he, he', hnear⟩ := h.cases
    · rw [hnone, hnone']
    · rw [he, he', hnear.eq]
  obtain ⟨hdepth, hlimit, hinRun, -⟩ := h
  cases l
  cases l'
  simp_all only

theorem enter (h : l.Near placed l') : l.enter.Near placed l'.enter :=
  ⟨congrArg (· + 1) h.depth, h.limit, h.inRun, h.tripped⟩

theorem leave (h : l.Near placed l') : l.leave.Near placed l'.leave :=
  ⟨congrArg (· - 1) h.depth, h.limit, h.inRun, h.tripped⟩

theorem overLimit (h : l.Near placed l') : l.overLimit = l'.overLimit := by
  simp only [Ledger.overLimit, h.depth, h.limit]

theorem excessAt (h : l.Near placed l') {offset offset' : ℕ} (ho : placed → offset = offset') :
    (l.excessAt offset).Near placed (l'.excessAt offset') := ⟨h.depth, h.limit, ho⟩

theorem trip (h : l.Near placed l') {e e' : Excess} (he : e.Near placed e') :
    (l.trip e).Near placed (l'.trip e') := by
  unfold Ledger.trip
  rw [h.inRun]
  split
  · exact ⟨h.depth, h.limit, rfl, .some he⟩
  · exact h

theorem beginRun (h : l.Near placed l') (limit : ℕ) :
    (l.beginRun limit).Near inner (l'.beginRun limit) := ⟨h.depth, rfl, rfl, .none⟩

theorem endRun (h : l.Near inner l') (hw : outer.Near placed outer') :
    (l.endRun outer).Near placed (l'.endRun outer') := ⟨h.depth, hw.limit, hw.inRun, hw.tripped⟩

end Ledger.Near

/-- The accounts are near each other, and the heaps correspond. -/
structure World.Abreast {η η' : Type} (placed : Prop) (H : η → η' → Prop) (w : World η)
    (w' : World η') : Prop where
  ledger : w.ledger.Near placed w'.ledger
  heap : H w.heap w'.heap

/-- The node does not look at where in which source it is. -/
def Grammar.Placeless : Grammar → Prop
  | .position | .rewind | .advance _ => False
  | _ => True

namespace Coupling
open Descent.Parser Descent.Grammar
variable {η η' ω ω' α : Type} {W : ω → ω' → Prop} {source source' : Source} {k : ℕ}
variable {reworded placed faults : Prop} {extra : Filter ℕ}

/-- Machines abreast, of which the left one has its streams displaced. If `reworded`, any
messages correspond. The right one stays in the source in which it began. -/
abbrev displaced (source source' : Source) (k : ℕ) (reworded : Prop) (W : ω → ω' → Prop)
    (faults : Prop) (extra : Filter ℕ) : Coupling ω ω' :=
  abreast (Stream.Displaced source source' k) (fun l l' => reworded ∨ l = l') W
    (Stream.Leads False) faults extra

theorem displaced_lawful : (displaced source source' k reworded W faults extra).Lawful where
  state_refl _ := rfl
  state_map f _ _ := congrArg f
  messages_refl _ := .inr rfl
  messages_append
    | .inl h, _ => .inl h
    | _, .inl h => .inl h
    | .inr h, .inr h' => .inr (by rw [h, h'])
  messages_map f _ _ := Or.imp_right (congrArg f)
  rest h := h.rest
  past h _ := h.past _ _
  ahead_past h := h.past
  same := Stream.Displaced.same
  between := Stream.Displaced.between
  many _ _ := alone_of_isEmpty _

/-- Streams that are not displaced may be looked at. -/
theorem displaced_admits {g : Grammar}
    (hg : Placeless g ∨ source = source' ∧ k = 0 ∧ faults) :
    (displaced source source' k reworded W faults extra).Admits g := by
  obtain hg | ⟨rfl, rfl, hfaults⟩ := hg
  · cases g <;> first | exact hg.elim | trivial | exact fun _ _ => id
  · cases g <;> first | trivial | exact fun _ _ => id | skip
    case position => exact fun t t' ht => by rw [ht.eq]
    case advance => exact ⟨hfaults, fun t t' ht => by rw [ht.eq]⟩
    case rewind =>
      refine ⟨fun t t' ht => ?_, fun base t ha => ha.start not_false⟩
      rw [ht.left, ht.right]
      exact ⟨rfl, rfl, rfl, rfl⟩

section
variable {H : η → η' → Prop}
variable {p : Parser (World η) Value α} {q : ℕ → Parser (World η') Value α}

/-- Deferred applications are refused on both sides or on none. -/
theorem deferred_displaced (hplaced : placed → k = 0)
    (h : (displaced source source' k reworded (World.Abreast placed H) faults extra).Follows p q) :
    (displaced source source' k reworded (World.Abreast placed H) faults extra).Follows
      (Parser.deferred p) fun m => Parser.deferred (q m) := by
  rw [follows_abreast] at h ⊢
  intro base s t t' w w' ht ha hw
  have hover := hw.ledger.enter.overLimit
  obtain ⟨hnone, hnone'⟩ | ⟨e, e', he, he', hnear⟩ := hw.ledger.cases
  · cases hunder : w.ledger.enter.overLimit with
    | true =>
      simp only [deferred_over _ s _ hnone hunder, deferred_over _ s _ hnone' (hover ▸ hunder)]
      have hexcess : (w.ledger.enter.excessAt t.offset).Near placed
          (w'.ledger.enter.excessAt t'.offset) :=
        hw.ledger.enter.excessAt fun hp => by rw [ht.offset, hplaced hp, Nat.zero_add]
      exact .done ⟨rfl, ht, ha, .inr (by rw [hexcess.message])⟩
        ⟨(hw.ledger.enter.trip hexcess).leave, hw.heap⟩
    | false =>
      simp only [deferred_under _ s _ hnone hunder, deferred_under _ s _ hnone' (hover ▸ hunder)]
      exact (h base s t t' (w.mapLedger Ledger.enter) (w'.mapLedger Ledger.enter) ht ha
        ⟨hw.ledger.enter, hw.heap⟩).settle fun w₁ w₁' hw₁ => ⟨hw₁.ledger.leave, hw₁.heap⟩
  · simp only [deferred_tripped _ s _ he, deferred_tripped _ s _ he']
    exact .done ⟨rfl, ht, ha, .inr (by rw [hnear.message])⟩ hw

/-- Runs over the same text end abreast, in whatever accounts. -/
theorem run_displaced {text : Text} {tag tag' : ℕ}
    (h : (displaced ⟨text, tag⟩ ⟨text, tag'⟩ 0 reworded (World.Abreast True H) faults
      extra).Follows p q) (config : Config) (s : Value) {w : World η} {w' : World η'}
    (hw : w.Abreast placed H w') :
    (run config p s ⟨text, tag⟩ w).Meets
      (Abreast (Stream.Displaced ⟨text, tag⟩ ⟨text, tag'⟩ 0) (fun l l' => reworded ∨ l = l')
        (Stream.Leads False) (.start ⟨text, tag'⟩)) (World.Abreast placed H) faults extra
      fun m => run config (q m) s ⟨text, tag'⟩ w' := by
  have hstart : (Stream.start ⟨text, tag'⟩).Leads False (.start ⟨text, tag'⟩) :=
    .refl (Stream.start_valid _)
  by_cases hsize : config.maxInputSize < text.byteSize
  · have hrefused (tag : ℕ) : config.maxInputSize < (Source.mk text tag).text.byteSize := hsize
    simp only [run_refused _ s _ (hrefused _)]
    exact .done ⟨rfl, .start, hstart, .inr rfl⟩ hw
  · have haccepted (tag : ℕ) : ¬config.maxInputSize < (Source.mk text tag).text.byteSize := hsize
    simp only [run_accepted _ s _ (haccepted _)]
    have hbegun : World.Abreast True H (w.mapLedger (Ledger.beginRun · config.maxRecursionDepth))
        (w'.mapLedger (Ledger.beginRun · config.maxRecursionDepth)) :=
      ⟨hw.ledger.beginRun _, hw.heap⟩
    refine .settle (.next (follows_abreast.mp h _ s _ _ _ _ .start hstart hbegun)
      (fun reply reply' w₁ w₁' hr hw₁ => ?_) fun _ _ => id)
      fun w₁ w₁' hw₁ => ⟨hw₁.ledger.endRun hw.ledger, hw₁.heap⟩
    obtain ⟨hs, ht, ha, ho⟩ := hr
    refine .done ?_ hw₁
    rw [← hw₁.ledger.eq]
    cases w₁.ledger.tripped with
    | none => exact ⟨hs, ht, ha, ho⟩
    | some e =>
      -- the excess is placed in both sources at the same offset, if there is such a place
      refine ⟨hs, ?_, verdict_leads ha, .inr rfl⟩
      simp only [verdict, Stream.advance?, Stream.start]
      cases Text.dropBytes? e.offset text with
      | none => exact ht
      | some rest => exact ⟨rfl, rfl, rfl, (Nat.zero_add _).symm⟩

/-- After nested runs both streams move by the same amount, which is there. -/
theorem nestedRun_displaced
    (h : ∀ text tag tag', (source = source' → tag = tag') →
      (displaced ⟨text, tag⟩ ⟨text, tag'⟩ 0 reworded (World.Abreast True H) faults
        extra).Follows p q) (config : Config) :
    (displaced source source' k reworded (World.Abreast placed H) faults extra).Follows
      (Parser.nestedRun config p) fun m => Parser.nestedRun config (q m) := by
  rw [follows_abreast]
  intro base s t t' w w' ht ha hw
  have htag (heq : source = source') : t.source.tag = t'.source.tag := by
    rw [ht.left, ht.right, heq]
  have hrun := run_displaced (h t'.rest t.source.tag t'.source.tag htag) config s hw
  simp only [Parser.nestedRun, ht.rest]
  refine hrun.next (fun reply reply' w₁ w₁' hr hw₁ => ?_) fun _ _ => id
  obtain ⟨s₁, u, o⟩ := reply
  obtain ⟨s₁', u', o'⟩ := reply'
  obtain ⟨rfl : s₁ = s₁', hu : u.Displaced _ _ 0 u', hleads : Stream.Leads False _ u', ho⟩ := hr
  cases o <;> cases o'
  case error.error l l' => exact .done ⟨rfl, ht, ha, ho⟩ hw₁
  case ok.ok v v' =>
    obtain rfl : v = v' := ho
    simp only [hu.offset, Nat.zero_add, Stream.advance_within ht.rest hleads,
      Stream.advance_within rfl hleads]
    exact Result.Meets.done ⟨rfl, ht.within u', ha.within rfl hleads, rfl⟩ hw₁
  all_goals exact ho.elim

end

end Coupling

end Descent
