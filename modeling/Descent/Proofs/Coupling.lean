import Mathlib.Order.Filter.AtTopBot.Basic
import Descent.Grammar.Eval

/-! Couplings: two machines side by side.

Many statements about grammars compare two ways of applying one: under two limits,
with cells and without, from two ledgers, with less and with more fuel. A `Coupling`
says which worlds, states, streams and messages of the two machines correspond.
`Follows` then says that from corresponding places two parsers come to corresponding
replies, and it is proved once for each combinator.

Two machines need not stay together. A coupling has causes for which they part; for
each it says what is true of the left world from then on, and of the right one. What
each machine does after that is a matter of its own, and both facts travel with
`Follows`: the left machine keeps what is true of its worlds (`Tracks.left`), and so
does the right one (`Tracks.right`), which besides ends, if the coupling promises an
answer.

The right machine may have more fuel than the left one: a family of computations
counts how much more, and what is said of it holds for the amounts of the filter
`extra`, which is one amount or all large ones. Where the left machine runs out of
fuel, nothing is said, unless the coupling is `exact`. -/
namespace Descent

/-- How a computation ends: with a value, in a fault or without an answer. -/
def Result.Ends {ω β : Type} (r : Result ω β) (done : β → ω → Prop) (fault : ω → Prop)
    (starved : Prop) : Prop :=
  match r with
  | .done b w => done b w
  | .fault _ w => fault w
  | .outOfFuel => starved

namespace Result.Ends
variable {ω β γ : Type} {r : Result ω β} {done done₂ : β → ω → Prop} {fault fault₂ : ω → Prop}
variable {starved : Prop}

theorem mono (h : r.Ends done fault starved) (hdone : ∀ b w, done b w → done₂ b w)
    (hfault : ∀ w, fault w → fault₂ w) : r.Ends done₂ fault₂ starved := by
  cases r with
  | done b w => exact hdone b w h
  | fault f w => exact hfault w h
  | outOfFuel => exact h

theorem and (h : r.Ends done fault starved) (h₂ : r.Ends done₂ fault₂ starved) :
    r.Ends (fun b w => done b w ∧ done₂ b w) (fun w => fault w ∧ fault₂ w) starved := by
  cases r with
  | done b w => exact ⟨h, h₂⟩
  | fault f w => exact ⟨h, h₂⟩
  | outOfFuel => exact h

theorem next {k : β → ω → Result ω γ} {done₂ : γ → ω → Prop} (h : r.Ends done fault starved)
    (hk : ∀ b w, done b w → (k b w).Ends done₂ fault starved) :
    (r.next k).Ends done₂ fault starved := by
  cases r with
  | done b w => exact hk b w h
  | fault f w => exact h
  | outOfFuel => exact h

theorem settle {f : ω → ω} (h : r.Ends done fault starved)
    (hdone : ∀ b w, done b w → done₂ b (f w)) (hfault : ∀ w, fault w → fault₂ (f w)) :
    (r.settle f).Ends done₂ fault₂ starved := by
  cases r with
  | done b w => exact hdone b w h
  | fault c w => exact hfault w h
  | outOfFuel => exact h

end Result.Ends

/-- What ties a machine to another. -/
structure Coupling (ω ω' : Type) where
  state : Value → Value → Prop
  stream : Stream → Stream → Prop
  messages : List String → List String → Prop
  /-- Worlds of machines that are together. -/
  world : ω → ω' → Prop
  /-- Where the right machine may stand, if it began at the first of the two. -/
  ahead : Stream → Stream → Prop
  /-- How much more fuel the right machine has. -/
  extra : Filter ℕ
  /-- Both machines run out of fuel, or none does. -/
  exact : Prop
  Cause : Type
  left : Cause → ω → Prop
  right : Cause → ω' → Prop
  /-- After parting the right machine has an answer. -/
  answers : Prop
  /-- While they are together a fault may end both machines. -/
  faults : Prop
  together : exact → IsEmpty Cause ∧ ∀ᶠ m in extra, m = 0

namespace Coupling
variable {ω ω' β β' : Type} {C : Coupling ω ω'}
variable {pre pre₂ fits fits₂ : Prop} {post : β → β' → Prop} {fit : β' → Prop}

variable (C) in
/-- The right machine after parting: it has an answer, or is out of fuel where none
is promised, and what is true of its worlds stays true. -/
def Strays (fit : β' → Prop) (d : ℕ → Result ω' β') (e : C.Cause) : Prop :=
  ∃ r, (∀ᶠ m in C.extra, d m = r) ∧
    r.Ends (fun b w => fit b ∧ C.right e w) (C.right e) ¬C.answers

variable (C) in
/-- The left machine after parting. -/
def Stays (r : Result ω β) (e : C.Cause) : Prop :=
  r.Ends (fun _ => C.left e) (C.left e) True

variable (C) in
/-- Results that correspond: both machines are together, or they parted. -/
def Agrees (post : β → β' → Prop) (fit : β' → Prop) (r : Result ω β) (d : ℕ → Result ω' β') :
    Prop :=
  r.Ends
    (fun b w => (∃ b' w', (∀ᶠ m in C.extra, d m = .done b' w') ∧ post b b' ∧ fit b' ∧
      C.world w w') ∨ ∃ e, C.left e w ∧ C.Strays fit d e)
    (fun w => (∃ f w', r = .fault f w ∧ (∀ᶠ m in C.extra, d m = .fault f w') ∧ C.world w w' ∧
      C.faults) ∨ ∃ e, C.left e w ∧ C.Strays fit d e)
    (C.exact → ∀ᶠ m in C.extra, d m = .outOfFuel)

variable (C) in
/-- Two computations: from corresponding worlds they come to results that correspond,
and after parting each keeps to itself. `pre` is what relates what they were given,
`fits` what the right one needs. -/
structure Tracks (pre fits : Prop) (post : β → β' → Prop) (fit : β' → Prop)
    (c : ω → Result ω β) (d : ℕ → ω' → Result ω' β') : Prop where
  agrees : pre → fits → ∀ w w', C.world w w' → C.Agrees post fit (c w) fun m => d m w'
  left : ∀ e w, C.left e w → C.Stays (c w) e
  right : fits → ∀ e w, C.right e w → C.Strays fit (fun m => d m w) e

/-! ### Rules for computations -/

theorem Strays.congr {d d' : ℕ → Result ω' β'} {e : C.Cause} (h : C.Strays fit d e)
    (heq : ∀ᶠ m in C.extra, d' m = d m) : C.Strays fit d' e := by
  obtain ⟨r, hr, hends⟩ := h
  exact ⟨r, heq.mp (hr.mono fun _ h heq => heq.trans h), hends⟩

theorem Agrees.congr {r : Result ω β} {d d' : ℕ → Result ω' β'} (h : C.Agrees post fit r d)
    (heq : ∀ᶠ m in C.extra, d' m = d m) : C.Agrees post fit r d' := by
  have trans {s} (hs : ∀ᶠ m in C.extra, d m = s) : ∀ᶠ m in C.extra, d' m = s :=
    heq.mp (hs.mono fun _ h heq => heq.trans h)
  cases r with
  | done b w =>
    exact h.imp (fun ⟨b', w', hd, hrest⟩ => ⟨b', w', trans hd, hrest⟩)
      fun ⟨e, hleft, hright⟩ => ⟨e, hleft, hright.congr heq⟩
  | fault f w =>
    exact h.imp (fun ⟨f', w', hf, hd, hrest⟩ => ⟨f', w', hf, trans hd, hrest⟩)
      fun ⟨e, hleft, hright⟩ => ⟨e, hleft, hright.congr heq⟩
  | outOfFuel => exact fun hexact => trans (h hexact)

/-- Machines that parted stay parted. -/
theorem agrees_of_parted {r : Result ω β} {d : ℕ → Result ω' β'} {e : C.Cause}
    (hleft : C.Stays r e) (hright : C.Strays fit d e) : C.Agrees post fit r d := by
  cases r with
  | done b w => exact .inr ⟨e, hleft, hright⟩
  | fault f w => exact .inr ⟨e, hleft, hright⟩
  | outOfFuel => exact fun hexact => ((C.together hexact).1.false e).elim

theorem Stays.next {γ : Type} {r : Result ω β} {k : β → ω → Result ω γ} {e : C.Cause}
    (h : C.Stays r e) (hk : ∀ b w, C.left e w → C.Stays (k b w) e) : C.Stays (r.next k) e :=
  Result.Ends.next h hk

theorem Strays.next {γ' : Type} {fit₂ : γ' → Prop} {d : ℕ → Result ω' β'}
    {k : ℕ → β' → ω' → Result ω' γ'} {e : C.Cause} (h : C.Strays fit d e)
    (hk : ∀ b w, fit b → C.right e w → C.Strays fit₂ (fun m => k m b w) e) :
    C.Strays fit₂ (fun m => (d m).next (k m)) e := by
  obtain ⟨r, hr, hends⟩ := h
  refine .congr (d := fun m => r.next (k m)) ?_ (hr.mono fun m h => by simp only [h])
  cases r with
  | done b w => exact hk b w hends.1 hends.2
  | fault f w => exact ⟨_, .of_forall fun _ => rfl, hends⟩
  | outOfFuel => exact ⟨_, .of_forall fun _ => rfl, hends⟩

theorem Stays.settle {r : Result ω β} {f : ω → ω} {e : C.Cause} (h : C.Stays r e)
    (hleft : ∀ w, C.left e w → C.left e (f w)) : C.Stays (r.settle f) e := by
  cases r with
  | done b w => exact hleft w h
  | fault c w => exact hleft w h
  | outOfFuel => trivial

theorem Strays.settle {d : ℕ → Result ω' β'} {f : ω' → ω'} {e : C.Cause} (h : C.Strays fit d e)
    (hright : ∀ w, C.right e w → C.right e (f w)) : C.Strays fit (fun m => (d m).settle f) e := by
  obtain ⟨r, hr, hends⟩ := h
  refine ⟨r.settle f, hr.mono fun m h => by simp only [h], ?_⟩
  cases r with
  | done b w => exact hends.imp_right (hright w)
  | fault c w => exact hright w hends
  | outOfFuel => exact hends

/-- Settling results that correspond; what is known of the left world may be used. -/
theorem Agrees.settle {r : Result ω β} {d : ℕ → Result ω' β'} {f : ω → ω} {g : ω' → ω'}
    {I : ω → Prop} (h : C.Agrees post fit r d) (hI : r.Ends (fun _ => I) I True)
    (hworld : ∀ w w', I w → C.world w w' → C.world (f w) (g w'))
    (hleft : ∀ e w, C.left e w → C.left e (f w)) (hright : ∀ e w, C.right e w → C.right e (g w)) :
    C.Agrees post fit (r.settle f) fun m => (d m).settle g := by
  cases r with
  | done b w =>
    refine h.imp (fun ⟨b', w', hd, hpost, hfit, hw⟩ => ?_)
      fun ⟨e, he, hd⟩ => ⟨e, hleft e w he, hd.settle (hright e)⟩
    exact ⟨b', g w', hd.mono fun m h => by simp only [h, Result.settle], hpost, hfit,
      hworld w w' hI hw⟩
  | fault c w =>
    refine h.imp (fun ⟨c', w', hc, hd, hw, hfaults⟩ => ?_)
      fun ⟨e, he, hd⟩ => ⟨e, hleft e w he, hd.settle (hright e)⟩
    exact ⟨c', g w', by cases hc; rfl, hd.mono fun m h => by simp only [h, Result.settle],
      hworld w w' hI hw, hfaults⟩
  | outOfFuel => exact fun hexact => (h hexact).mono fun m h => by simp only [h, Result.settle]

/-- Going on from results that correspond. -/
theorem Agrees.next {γ γ' : Type} {post₂ : γ → γ' → Prop} {fit₂ : γ' → Prop} {r : Result ω β}
    {d : ℕ → Result ω' β'} {k : β → ω → Result ω γ} {k' : ℕ → β' → ω' → Result ω' γ'}
    (h : C.Agrees post fit r d)
    (hk : ∀ b b' w w', post b b' → fit b' → C.world w w' →
      C.Agrees post₂ fit₂ (k b w) fun m => k' m b' w')
    (hleft : ∀ e b w, C.left e w → C.Stays (k b w) e)
    (hright : ∀ e b w, fit b → C.right e w → C.Strays fit₂ (fun m => k' m b w) e) :
    C.Agrees post₂ fit₂ (r.next k) fun m => (d m).next (k' m) := by
  cases r with
  | done b w =>
    obtain ⟨b', w', hd, hpost, hfit, hw⟩ | ⟨e, he, hd⟩ := h
    · exact (hk b b' w w' hpost hfit hw).congr (hd.mono fun m h => by simp only [h, Result.next_done])
    · exact agrees_of_parted (hleft e b w he) (hd.next (hright e))
  | fault f w =>
    obtain ⟨f', w', hf, hd, hw⟩ | ⟨e, he, hd⟩ := h
    · exact .inl ⟨f', w', congrArg (·.next k) hf,
        hd.mono fun m h => by simp only [h, Result.next_fault], hw⟩
    · exact agrees_of_parted he (hd.next (hright e))
  | outOfFuel =>
    exact fun hexact => (h hexact).mono fun m h => by simp only [h, Result.next_outOfFuel]

theorem Tracks.of {c : ω → Result ω β} {d : ℕ → ω' → Result ω' β'}
    (h : C.Tracks pre fits post fit c d)
    (hpre : pre₂ → pre) (hfits : fits₂ → fits) : C.Tracks pre₂ fits₂ post fit c d where
  agrees p f := h.agrees (hpre p) (hfits f)
  left := h.left
  right f := h.right (hfits f)

/-- Values that are there. -/
theorem Tracks.done {b : β} {b' : β'} (hpost : pre → fits → post b b') (hfit : fits → fit b') :
    C.Tracks pre fits post fit (fun w => .done b w) fun _ w => .done b' w where
  agrees p f _ w' hw := .inl ⟨b', w', .of_forall fun _ => rfl, hpost p f, hfit f, hw⟩
  left _ _ he := he
  right f _ _ he := ⟨_, .of_forall fun _ => rfl, hfit f, he⟩

/-- The same fault. -/
theorem Tracks.fault {f f' : Fault} (hfaults : C.faults) (h : pre → f = f') :
    C.Tracks pre fits post fit (fun w => .fault f w) fun _ w => .fault f' w where
  agrees p _ _ w' hw := .inl ⟨f, w', rfl, .of_forall fun _ => by rw [h p], hw, hfaults⟩
  left _ _ he := he
  right _ _ _ he := ⟨_, .of_forall fun _ => rfl, he⟩

/-- By what both sides were given, which is equal on both. -/
theorem Tracks.cases {X : Type} (x x' : X) {c : X → ω → Result ω β}
    {d : X → ℕ → ω' → Result ω' β'} (hx : pre → x = x')
    (h : ∀ y, C.Tracks (pre ∧ x = y) (fits ∧ x' = y) post fit (c y) (d y)) :
    C.Tracks pre fits post fit (c x) (d x') where
  agrees p f := by
    cases hx p
    exact (h x).agrees ⟨p, rfl⟩ ⟨f, rfl⟩
  left := (h x).left
  right f := (h x').right ⟨f, rfl⟩

/-- The same choice on both sides. -/
theorem Tracks.ite {a b : Prop} [Decidable a] [Decidable b] {c₁ c₂ : ω → Result ω β}
    {d₁ d₂ : ℕ → ω' → Result ω' β'} (hab : pre → (a ↔ b)) (h₁ : C.Tracks pre fits post fit c₁ d₁)
    (h₂ : C.Tracks pre fits post fit c₂ d₂) :
    C.Tracks pre fits post fit (fun w => if a then c₁ w else c₂ w)
      fun m w => if b then d₁ m w else d₂ m w where
  agrees p f w w' hw := by
    by_cases ha : a
    · simp only [if_pos ha, if_pos ((hab p).mp ha)]
      exact h₁.agrees p f w w' hw
    · simp only [if_neg ha, if_neg (mt (hab p).mpr ha)]
      exact h₂.agrees p f w w' hw
  left e w he := by
    by_cases ha : a
    · simpa only [if_pos ha] using h₁.left e w he
    · simpa only [if_neg ha] using h₂.left e w he
  right f e w he := by
    by_cases hb : b
    · simpa only [if_pos hb] using h₁.right f e w he
    · simpa only [if_neg hb] using h₂.right f e w he

/-! ### Parsers that follow each other -/

variable {α δ : Type}

variable (C) in
/-- Replies that correspond. -/
def Replies (reply reply' : Reply Value α) : Prop :=
  C.state reply.state reply'.state ∧ C.stream reply.stream reply'.stream ∧
    match reply.outcome, reply'.outcome with
    | .ok v, .ok v' => v = v'
    | .error messages, .error messages' => C.messages messages messages'
    | _, _ => False

variable (C) in
/-- Two computations of replies, of which the right one began at `base`. -/
def Replying (pre fits : Prop) (base : Stream) (c : ω → Result ω (Reply Value α))
    (d : ℕ → ω' → Result ω' (Reply Value α)) : Prop :=
  C.Tracks pre fits C.Replies (fun reply => C.ahead base reply.stream) c d

variable (C) in
/-- The right parser follows the left one. -/
def Follows (p : Parser ω Value α) (q : ℕ → Parser ω' Value α) : Prop :=
  ∀ base s s' t t', C.Replying (C.state s s' ∧ C.stream t t') (C.ahead base t') base
    (p s t) fun m => q m s' t'

/-- Going on from replies that correspond: after a success with the same value, after
a failure with messages that correspond. -/
theorem Replying.next {base : Stream} {c : ω → Result ω (Reply Value α)}
    {d : ℕ → ω' → Result ω' (Reply Value α)} {k : Reply Value α → ω → Result ω (Reply Value δ)}
    {k' : ℕ → Reply Value α → ω' → Result ω' (Reply Value δ)} (h : C.Replying pre fits base c d)
    (hok : ∀ v s s' t t', C.Replying (pre ∧ C.state s s' ∧ C.stream t t') (fits ∧ C.ahead base t')
      base (k ⟨s, t, .ok v⟩) fun m => k' m ⟨s', t', .ok v⟩)
    (herror : ∀ l l' s s' t t', C.Replying (pre ∧ C.messages l l' ∧ C.state s s' ∧ C.stream t t')
      (fits ∧ C.ahead base t') base (k ⟨s, t, .error l⟩) fun m => k' m ⟨s', t', .error l'⟩) :
    C.Replying pre fits base (fun w => (c w).next k) fun m w => (d m w).next (k' m) := by
  have hleft (e) (reply : Reply Value α) (w) (he : C.left e w) : C.Stays (k reply w) e := by
    obtain ⟨s, t, l | v⟩ := reply
    · exact (herror l l s s t t).left e w he
    · exact (hok v s s t t).left e w he
  have hright (f : fits) (e) (reply : Reply Value α) (w) (ha : C.ahead base reply.stream)
      (he : C.right e w) :
      C.Strays (fun reply => C.ahead base reply.stream) (fun m => k' m reply w) e := by
    obtain ⟨s, t, l | v⟩ := reply
    · exact (herror l l s s t t).right ⟨f, ha⟩ e w he
    · exact (hok v s s t t).right ⟨f, ha⟩ e w he
  refine ⟨fun p f w w' hw => ?_, fun e w he => (h.left e w he).next (hleft e),
    fun f e w he => (h.right f e w he).next (hright f e)⟩
  refine (h.agrees p f w w' hw).next (fun reply reply' v v' hreply ha hv => ?_) hleft (hright f)
  obtain ⟨s, t, o⟩ := reply
  obtain ⟨s', t', o'⟩ := reply'
  obtain ⟨hs, ht, ho⟩ := hreply
  cases o <;> cases o'
  case ok.ok =>
    cases ho
    exact (hok _ s s' t t').agrees ⟨p, hs, ht⟩ ⟨f, ha⟩ v v' hv
  case error.error => exact (herror _ _ s s' t t').agrees ⟨p, ho, hs, ht⟩ ⟨f, ha⟩ v v' hv
  all_goals exact ho.elim

end Coupling

end Descent
