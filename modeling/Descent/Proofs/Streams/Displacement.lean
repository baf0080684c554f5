import Descent.Proofs.Isolation
import Descent.Proofs.Streams.Safety
import Descent.Proofs.Variant.Session

/-! Parsers see only what remains.

A parser that does not ask where it is, nor goes by hand, takes nothing from a stream but
the text that remains. So what it does at a place of a source is what it does at the
beginning of what remains there, as a text of its own, only further on
(`only_rest_counts`). In particular a nested run under the same limit, which is given just
that text, finds what the parser finds by itself. -/
namespace Descent
open Descent.Grammar Descent.Coupling

/-- The reply as it is further on. -/
def Reply.within (t : Stream) (reply : Reply Value Value) : Reply Value Value :=
  { reply with stream := t.within reply.stream }

/-- A run with the limit of the run around it, which has not tripped, begins in its account. -/
theorem Ledger.beginRun_self {l : Ledger} (hinRun : l.inRun = true) (htripped : l.tripped = none) :
    l.beginRun l.limit = l := by
  rw [Ledger.beginRun, ← hinRun, ← htripped]

/-- A nested run that does not trip finds what its parser finds in what remains. -/
theorem Parser.Accounts.nestedRun_untripped {η : Type} {p : Parser (World η) Value Value}
    (hp : Accounts p) {config : Config} {s : Value} {t : Stream} {w w₁ : World η}
    {reply : Reply Value Value} (hsize : t.rest.byteSize ≤ config.maxInputSize)
    (hinner : p s (.start ⟨t.rest, t.source.tag⟩)
      (w.mapLedger (Ledger.beginRun · config.maxRecursionDepth)) = .done reply w₁)
    (htripped : w₁.ledger.tripped = none)
    (hleads : (Stream.start ⟨t.rest, t.source.tag⟩).Leads False reply.stream) :
    Parser.nestedRun config p s t w =
      match reply.outcome with
      | .ok _ => .done (reply.within t) { w with heap := w₁.heap }
      | .error messages => reject reply.state t messages { w with heap := w₁.heap } := by
  have hrun : Parser.run config p s ⟨t.rest, t.source.tag⟩ w = _ := hp.run_done hsize hinner
  rw [Parser.nestedRun, hrun, Result.next_done, htripped]
  obtain ⟨s₁, u, o⟩ := reply
  cases o with
  | ok v => simp only [verdict, Stream.advance_within rfl hleads]; rfl
  | error messages => rfl

theorem Grammar.placeless_blind : Blind Placeless True False where
  like h := by cases h <;> exact id
  cell _ := trivial
  fail _ := trivial
  succeed _ := trivial
  placeless h _ := h
  probeless _ := not_false

namespace Session
variable {setting : Setting} {main : Grammar} {session : Session}

/-- A session of placeless grammars begins without a fault, and its cells consist of
placeless nodes. -/
theorem start_placeless (h : Throughout Placeless setting main) (fuel : ℕ) :
    (start fuel setting main).Ends (fun session _ => Paired Placeless False session session)
      (fun _ => False) True := by
  have hsetting : setting.Pairs (Variant Placeless False) setting :=
    ⟨List.forall₂_same.mpr fun entry he => ⟨rfl, .refl (h.rules entry he)⟩, rfl⟩
  have hextra : False → (pure 0 : Filter ℕ) = Filter.atTop := False.elim
  have hpaired : (start fuel setting main).Meets _ _ _ (pure 0) fun _ => start fuel setting main :=
    start_paired placeless_blind hextra hsetting (.refl h.main) fuel
  obtain ⟨session, w, again, w', hr, hr', hpaired, -⟩ | ⟨hmoved, -⟩ | ⟨hr, -⟩ := hpaired.cases
  · rw [hr] at hr' ⊢
    cases hr'
    exact hpaired
  · exact (hmoved trivial).elim
  · rw [hr]
    trivial

section
variable (h : Paired Placeless False session session) (l : Ledger) (n : ℕ) (target : Target)
variable (s : Value) (t : Stream)
include h

/-- At a place and at the beginning of what remains there: the same further on, in worlds
with the same cells, of which both have tripped or none. -/
theorem Paired.further (tag : ℕ) :
    (session.applyAt l n target s t).Meets
      (fun reply reply' => reply = reply'.within t ∧
        (Stream.start ⟨t.rest, tag⟩).Leads False reply'.stream)
      (fun w w' => w.heap = w'.heap ∧ (w.ledger.tripped = none ↔ w'.ledger.tripped = none)) False
      (pure 0) fun _ => session.applyAt l n target s (.start ⟨t.rest, tag⟩) := by
  have hfollows : (displaced t.source ⟨t.rest, tag⟩ t.offset False (Together Placeless False False)
      (¬True) (pure 0)).Follows (session.parser n target) fun m => session.parser (n + m) target :=
    h.follows placeless_blind False.elim (fun hmoved => (hmoved trivial).elim) False.elim n target
  simp only [not_true_eq_false] at hfollows
  refine (follows_abreast.mp hfollows (.start ⟨t.rest, tag⟩) s t (.start ⟨t.rest, tag⟩)
    { session.world with ledger := l } { session.world with ledger := l } ⟨rfl, rfl, rfl, rfl⟩
    (.refl (Stream.start_valid _)) ⟨.refl False l, h.world.heap⟩).mono
      (fun reply reply' hr => ?_) fun w w' hw => ⟨hw.heap.eq fun _ _ hp => hp.eq not_false, ?_⟩
  · obtain ⟨s₁, u, o⟩ := reply
    obtain ⟨s₁', u', o'⟩ := reply'
    obtain ⟨rfl : s₁ = s₁', hu : u.Displaced _ _ _ u', hleads, ho⟩ := hr
    refine ⟨?_, hleads⟩
    cases o <;> cases o'
    case ok.ok v v' =>
      obtain rfl : v = v' := ho
      exact congrArg (Reply.mk _ · _) hu.eq_within
    case error.error messages messages' =>
      obtain rfl : messages = messages' := (ho : False ∨ _).resolve_left id
      exact congrArg (Reply.mk _ · _) hu.eq_within
    all_goals exact ho.elim
  · obtain ⟨hnone, hnone'⟩ | ⟨e, e', he, he', -⟩ := hw.ledger.cases
    · exact iff_of_true hnone hnone'
    · simp [he, he']

/-- Outside of runs it is the same application, further on. -/
theorem Paired.applyAt_eq (hinRun : l.inRun = false) (tag : ℕ) :
    session.applyAt l n target s t =
      (session.applyAt l n target s (.start ⟨t.rest, tag⟩)).next
        fun reply w => .done (reply.within t) w := by
  have hp : Parser.Accounts (session.parser n target) := eval_accounts _ _ _
  have hleft := hp.apply s t { session.world with ledger := l }
  have hright := hp.apply s (.start ⟨t.rest, tag⟩) { session.world with ledger := l }
  have hfurther := h.further l n target s t tag
  unfold Session.applyAt at hfurther ⊢
  obtain ⟨reply, ⟨l₁, h₁⟩, reply', ⟨l₁', h₁'⟩, hr, hr', ⟨rfl, -⟩, hheap, -⟩ | ⟨hfalse, -⟩ |
    ⟨hr, hr'⟩ := hfurther.cases
  · rw [hr] at hleft
    rw [hr'] at hright
    -- the account is that of before on both sides
    obtain rfl : l₁ = l := Ledger.Kept.eq_of_not_inRun hleft hinRun
    obtain rfl : l₁' = l₁ := Ledger.Kept.eq_of_not_inRun hright hinRun
    obtain rfl : h₁ = h₁' := hheap
    rw [hr, hr', Result.next_done]
  · exact hfalse.elim
  · rw [hr, hr', Result.next_outOfFuel]

/-- In a run that has not tripped, a nested run under the same limit finds what the parser
finds, if that does not trip. -/
theorem Paired.nestedRun_iff (hinRun : l.inRun = true) (htripped : l.tripped = none)
    {config : Config} (hlimit : config.maxRecursionDepth = l.limit)
    (hsize : t.rest.byteSize ≤ config.maxInputSize) (s' : Value) (u : Stream) (v : Value)
    (w' : World Heap) :
    Parser.nestedRun config (session.parser n target) s t { session.world with ledger := l } =
        Parser.accept s' u v w' ↔
      session.applyAt l n target s t = Parser.accept s' u v w' ∧ w'.ledger.tripped = none := by
  have hp : Parser.Accounts (session.parser n target) := eval_accounts _ _ _
  have hleft := hp.apply s t { session.world with ledger := l }
  have hright := hp.apply s (.start ⟨t.rest, t.source.tag⟩) { session.world with ledger := l }
  have hfurther := h.further l n target s t t.source.tag
  have hbegin : (World.mapLedger (Ledger.beginRun · config.maxRecursionDepth)
      { session.world with ledger := l }) = { session.world with ledger := l } := by
    rw [World.mapLedger, hlimit, Ledger.beginRun_self hinRun htripped]
  unfold Session.applyAt at hfurther ⊢
  obtain ⟨reply, ⟨l₁, h₁⟩, ⟨s₁, u₁, o⟩, ⟨l₁', h₁'⟩, hr, hr', ⟨rfl, hleads⟩, hheap, hsame⟩ |
    ⟨hfalse, -⟩ | ⟨hr, hr'⟩ := hfurther.cases
  · obtain rfl : h₁ = h₁' := hheap
    rw [hr] at hleft
    rw [hr'] at hright
    cases htripped₁ : l₁'.tripped with
    | some e =>
      rw [hp.nestedRun_tripped hsize (hbegin ▸ hr') htripped₁, hr]
      refine iff_of_false (fun haccept => by cases haccept) ?_
      rintro ⟨haccept, hnone⟩
      cases haccept
      rw [hsame.mp hnone] at htripped₁
      cases htripped₁
    | none =>
      obtain rfl : l₁' = l := Ledger.Kept.eq_of_untripped hright htripped₁
      obtain rfl : l₁ = l₁' := Ledger.Kept.eq_of_untripped hleft (hsame.mpr htripped₁)
      rw [hp.nestedRun_untripped hsize (hbegin ▸ hr') htripped₁ hleads, hr]
      cases o with
      | ok v₁ => exact ⟨fun haccept => ⟨haccept, by cases haccept; exact htripped⟩, And.left⟩
      | error messages =>
        exact iff_of_false (fun haccept => by cases haccept) fun haccept => by cases haccept.1
  · exact hfalse.elim
  · rw [Parser.nestedRun_outOfFuel hsize (hbegin ▸ hr'), hr]
    exact iff_of_false (fun haccept => by cases haccept) fun haccept => by cases haccept.1

end

/-- **Parsers see only what remains.** Let nothing in the grammars ask for a place or go by
hand. After any steps, and with the same cells, an application outside of runs at a place
of a source is the application to what remains there as a text of its own, with the same
state, outcome and world, and the stream further on by the offset of the place. In a run
that has not tripped, a nested run that has the limit of the run and accepts the size of
what remains succeeds if and only if its parser does so without tripping, and then with
the same state, value, stream and world. -/
theorem only_rest_counts (setting : Setting) (main : Grammar)
    (h : Throughout Placeless setting main) (fuel : ℕ) :
    (start fuel setting main).Ends
      (fun session _ => ∀ fuel' before l n target s t,
        let later := session.after fuel' before
        (l.inRun = false → ∀ tag, later.applyAt l n target s t =
          (later.applyAt l n target s (.start ⟨t.rest, tag⟩)).next
            fun reply w => .done (reply.within t) w) ∧
        (l.inRun = true → l.tripped = none → ∀ config : Config,
          config.maxRecursionDepth = l.limit → t.rest.byteSize ≤ config.maxInputSize →
          ∀ s' u v w', eval later.setting (n + 1) (.nestedRun config (later.grammar target)) s t
              { later.world with ledger := l } = Parser.accept s' u v w' ↔
            later.applyAt l n target s t = Parser.accept s' u v w' ∧ w'.ledger.tripped = none))
      (fun _ => False) True := by
  refine (start_placeless h fuel).mono (fun session _ hsession => ?_) fun _ => id
  intro fuel' before l n target s t later
  have hlater : Paired Placeless False later later :=
    hsession.after placeless_blind fuel' before
  exact ⟨hlater.applyAt_eq l n target s t, fun hinRun htripped config hlimit hsize =>
    hlater.nestedRun_iff l n target s t hinRun htripped hlimit hsize⟩

/-- Brackets after a letter of two bytes, by themselves and in a run of their own, are
read as from the beginning of a text. -/
theorem brackets_further :
    let source : Source := ⟨['é', '(', '(', ')', ')'], 7⟩
    let l : Ledger := { inRun := true }
    let v : Value := .array [.array [.null]]
    Throughout Placeless bracketsSetting brackets ∧
    ∃ t, (Stream.start source).advance 2 = .ok t ∧
    ∃ session world, start 20 bracketsSetting brackets = .done session world ∧
      (∃ w, session.applyAt {} 20 .main .null (.start ⟨t.rest, 8⟩) =
          .done ⟨.null, ⟨⟨t.rest, 8⟩, 4, []⟩, .ok v⟩ w ∧
        session.applyAt {} 20 .main .null t = .done ⟨.null, ⟨source, 6, []⟩, .ok v⟩ w) ∧
      ∃ w, eval session.setting 21 (.nestedRun {} (session.grammar .main)) .null t
        { session.world with ledger := l } = Parser.accept .null ⟨source, 6, []⟩ v w := by
  intro source l v
  have hplaceless : Throughout Placeless bracketsSetting brackets := by
    constructor <;> simp [bracketsSetting, brackets, All.iff_children, Picks, children, Placeless]
  have hrest := only_rest_counts bracketsSetting brackets hplaceless 20
  obtain ⟨session, world, hstart, ⟨w, happly⟩, w', happly', huntripped⟩ : ∃ session world,
      start 20 bracketsSetting brackets = .done session world ∧
      (∃ w, session.applyAt {} 20 .main .null (.start ⟨['(', '(', ')', ')'], 8⟩) =
        .done ⟨.null, ⟨⟨['(', '(', ')', ')'], 8⟩, 4, []⟩, .ok v⟩ w) ∧
      ∃ w', session.applyAt l 20 .main .null ⟨source, 2, ['(', '(', ')', ')']⟩ =
        Parser.accept .null ⟨source, 6, []⟩ v w' ∧ w'.ledger.tripped = none :=
    ⟨_, _, rfl, ⟨_, rfl⟩, _, rfl, rfl⟩
  rw [hstart] at hrest
  let t : Stream := ⟨source, 2, ['(', '(', ')', ')']⟩
  refine ⟨hplaceless, t, rfl, session, world, hstart, ⟨w, happly, ?_⟩, w', ?_⟩
  · calc session.applyAt {} 20 .main .null t
        = (session.applyAt {} 20 .main .null (.start ⟨t.rest, 8⟩)).next
            fun reply w => .done (reply.within t) w := (hrest 0 [] {} 20 .main .null t).1 rfl 8
      _ = .done ⟨.null, ⟨source, 6, []⟩, .ok v⟩ w := congrArg (Result.next · _) happly
  · exact ((hrest 0 [] l 20 .main .null t).2 rfl rfl {} rfl (by decide) _ _ _ _).mpr
      ⟨happly', huntripped⟩

end Session

end Descent
