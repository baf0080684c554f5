import Descent.Proofs.Coupling.Equal

/-! Machines abreast.

Machines that go `abreast` do not part, but they need not reply the same: streams and
messages correspond in some way, and so do the worlds. What is built, found or run on the
way may correspond in ways of its own, which is what `Result.Meets` says of any two
computations. -/
namespace Descent
open Descent.Grammar

/-- The right computation ends as the left one does: with a value that corresponds, or in
the same fault, if there may be one. -/
def Result.Meets {ω ω' β β' : Type} (post : β → β' → Prop) (W : ω → ω' → Prop) (faults : Prop)
    (extra : Filter ℕ) (r : Result ω β) (d : ℕ → Result ω' β') : Prop :=
  match r with
  | .done b w => ∃ b' w', (∀ᶠ m in extra, d m = .done b' w') ∧ post b b' ∧ W w w'
  | .fault f w => faults ∧ ∃ w', (∀ᶠ m in extra, d m = .fault f w') ∧ W w w'
  | .outOfFuel => (∀ᶠ m in extra, m = 0) → ∀ᶠ m in extra, d m = .outOfFuel

namespace Result.Meets
variable {ω ω' β β' γ γ' : Type} {post : β → β' → Prop} {post₂ : γ → γ' → Prop}
variable {W W₂ : ω → ω' → Prop} {faults : Prop} {extra : Filter ℕ}
variable {r : Result ω β} {d : ℕ → Result ω' β'}

theorem congr {d' : ℕ → Result ω' β'} (h : r.Meets post W faults extra d)
    (hd : ∀ᶠ m in extra, d' m = d m) : r.Meets post W faults extra d' := by
  have trans {s} (hs : ∀ᶠ m in extra, d m = s) : ∀ᶠ m in extra, d' m = s :=
    hd.mp (hs.mono fun _ h hd => hd.trans h)
  cases r with
  | done b w =>
    obtain ⟨b', w', hdone, hrest⟩ := h
    exact ⟨b', w', trans hdone, hrest⟩
  | fault f w =>
    obtain ⟨hfaults, w', hfault, hw⟩ := h
    exact ⟨hfaults, w', trans hfault, hw⟩
  | outOfFuel => exact fun hextra => trans (h hextra)

theorem done {b : β} {b' : β'} {w : ω} {w' : ω'} (hb : post b b') (hw : W w w') :
    (Result.done b w).Meets post W faults extra fun _ => .done b' w' :=
  ⟨b', w', .of_forall fun _ => rfl, hb, hw⟩

theorem next {k : β → ω → Result ω γ} {k' : ℕ → β' → ω' → Result ω' γ'}
    (h : r.Meets post W faults extra d)
    (hk : ∀ b b' w w', post b b' → W w w' →
      (k b w).Meets post₂ W₂ faults extra fun m => k' m b' w')
    (hfault : ∀ w w', W w w' → W₂ w w') :
    (r.next k).Meets post₂ W₂ faults extra fun m => (d m).next (k' m) := by
  cases r with
  | done b w =>
    obtain ⟨b', w', hd, hb, hw⟩ := h
    exact (hk b b' w w' hb hw).congr (hd.mono fun m h => by rw [h, Result.next_done])
  | fault f w =>
    obtain ⟨hfaults, w', hd, hw⟩ := h
    exact ⟨hfaults, w', hd.mono fun m h => by simp only [h, Result.next_fault], hfault w w' hw⟩
  | outOfFuel => exact fun hextra => (h hextra).mono fun m h => by simp only [h, Result.next_outOfFuel]

theorem settle {f : ω → ω} {f' : ω' → ω'} (h : r.Meets post W faults extra d)
    (hf : ∀ w w', W w w' → W₂ (f w) (f' w')) :
    (r.settle f).Meets post W₂ faults extra fun m => (d m).settle f' := by
  cases r with
  | done b w =>
    obtain ⟨b', w', hd, hb, hw⟩ := h
    exact ⟨b', f' w', hd.mono fun m h => by simp only [h, Result.settle], hb, hf w w' hw⟩
  | fault c w =>
    obtain ⟨hfaults, w', hd, hw⟩ := h
    exact ⟨hfaults, f' w', hd.mono fun m h => by simp only [h, Result.settle], hf w w' hw⟩
  | outOfFuel => exact fun hextra => (h hextra).mono fun m h => by simp only [h, Result.settle]

theorem mono {post' : β → β' → Prop} (h : r.Meets post W faults extra d)
    (hpost : ∀ b b', post b b' → post' b b') (hW : ∀ w w', W w w' → W₂ w w') :
    r.Meets post' W₂ faults extra d := by
  cases r with
  | done b w =>
    obtain ⟨b', w', hd, hb, hw⟩ := h
    exact ⟨b', w', hd, hpost b b' hb, hW w w' hw⟩
  | fault f w =>
    obtain ⟨hfaults, w', hd, hw⟩ := h
    exact ⟨hfaults, w', hd, hW w w' hw⟩
  | outOfFuel => exact h

/-- With the same fuel both end, or none does. -/
theorem cases {r' : Result ω' β'} (h : r.Meets post W faults (pure 0) fun _ => r') :
    (∃ b w b' w', r = .done b w ∧ r' = .done b' w' ∧ post b b' ∧ W w w') ∨
      (faults ∧ ∃ f w w', r = .fault f w ∧ r' = .fault f w' ∧ W w w') ∨
        r = .outOfFuel ∧ r' = .outOfFuel := by
  cases r with
  | done b w =>
    obtain ⟨b', w', hd, hb, hw⟩ := h
    exact .inl ⟨b, w, b', w', rfl, Filter.eventually_pure.mp hd, hb, hw⟩
  | fault f w =>
    obtain ⟨hfaults, w', hd, hw⟩ := h
    exact .inr (.inl ⟨hfaults, f, w, w', rfl, Filter.eventually_pure.mp hd, hw⟩)
  | outOfFuel =>
    have hd := h (Filter.eventually_pure.mpr rfl)
    exact .inr (.inr ⟨rfl, Filter.eventually_pure.mp hd⟩)

/-- What is made of a value on the left only. -/
theorem mapLeft {post₂ : γ → β' → Prop} {f : β → γ} (h : r.Meets post W faults extra d)
    (hf : ∀ b b', post b b' → post₂ (f b) b') :
    (r.next fun b w => .done (f b) w).Meets post₂ W faults extra d := by
  cases r with
  | done b w =>
    obtain ⟨b', w', hd, hb, hw⟩ := h
    exact ⟨b', w', hd, hf b b' hb, hw⟩
  | fault c w => exact h
  | outOfFuel => exact h

/-- What is made of a value on the right only. -/
theorem mapRight {post₂ : β → γ' → Prop} {f : β' → γ'} (h : r.Meets post W faults extra d)
    (hf : ∀ b b', post b b' → post₂ b (f b')) :
    r.Meets post₂ W faults extra fun m => (d m).next fun b w => .done (f b) w := by
  cases r with
  | done b w =>
    obtain ⟨b', w', hd, hb, hw⟩ := h
    exact ⟨f b', w', hd.mono fun m h => by simp only [h, Result.next_done], hf b b' hb, hw⟩
  | fault c w =>
    obtain ⟨hfaults, w', hd, hw⟩ := h
    exact ⟨hfaults, w', hd.mono fun m h => by simp only [h, Result.next_fault], hw⟩
  | outOfFuel => exact fun hextra => (h hextra).mono fun m h => by simp only [h, Result.next_outOfFuel]

/-- One unit of fuel does not count among all large amounts. -/
theorem succ_iff : (r.Meets post W faults Filter.atTop fun m => d (m + 1)) ↔
    r.Meets post W faults Filter.atTop d := by
  have hsucc (P : ℕ → Prop) :
      (∀ᶠ m in Filter.atTop, P (m + 1)) ↔ ∀ᶠ m in Filter.atTop, P m := by
    rw [← Filter.eventually_map (P := P) (m := (· + 1)), Filter.map_add_atTop_eq_nat]
  have hd (x : Result ω' β') := hsucc fun m => d m = x
  cases r <;> simp only [Meets, hd]

end Result.Meets

namespace Coupling

/-- Where there is no cause to part only what happens together counts. -/
theorem follows_iff_meets {ω ω' α : Type} {C : Coupling ω ω'} [IsEmpty C.Cause]
    (hexact : C.exact ↔ ∀ᶠ m in C.extra, m = 0) {p : Parser ω Value α}
    {q : ℕ → Parser ω' Value α} :
    C.Follows p q ↔ ∀ base s s' t t' w w', C.state s s' → C.stream t t' → C.ahead base t' →
      C.world w w' → (p s t w).Meets
        (fun reply reply' => C.Replies reply reply' ∧ C.ahead base reply'.stream) C.world C.faults
        C.extra fun m => q m s' t' w' := by
  constructor
  · intro h base s s' t t' w w' hs ht ha hw
    have hr := (h base s s' t t').agrees ⟨hs, ht⟩ ha w w' hw
    cases hp : p s t w with
    | done b w₁ =>
      rw [hp] at hr
      obtain ⟨b', w₁', hd, hreply, hfit, hw₁⟩ | ⟨e, _⟩ := hr
      · exact ⟨b', w₁', hd, ⟨hreply, hfit⟩, hw₁⟩
      · exact isEmptyElim e
    | fault f w₁ =>
      rw [hp] at hr
      obtain ⟨f', w₁', hf, hd, hw₁, hfaults⟩ | ⟨e, _⟩ := hr
      · cases hf
        exact ⟨hfaults, w₁', hd, hw₁⟩
      · exact isEmptyElim e
    | outOfFuel => rw [hp] at hr; exact fun hextra => hr (hexact.mpr hextra)
  · intro h base s s' t t'
    refine ⟨fun ⟨hs, ht⟩ ha w w' hw => ?_, fun e => isEmptyElim e, fun _ e => isEmptyElim e⟩
    have hr := h base s s' t t' w w' hs ht ha hw
    cases hp : p s t w with
    | done b w₁ =>
      rw [hp] at hr
      obtain ⟨b', w₁', hd, ⟨hreply, hfit⟩, hw₁⟩ := hr
      exact .inl ⟨b', w₁', hd, hreply, hfit, hw₁⟩
    | fault f w₁ =>
      rw [hp] at hr
      obtain ⟨hfaults, w₁', hd, hw₁⟩ := hr
      exact .inl ⟨f, w₁', rfl, hd, hw₁, hfaults⟩
    | outOfFuel => rw [hp] at hr; exact fun hextra => hr (hexact.mp hextra)

variable {ω ω' α : Type} {stream : Stream → Stream → Prop}
variable {messages : List String → List String → Prop} {W : ω → ω' → Prop}
variable {ahead : Stream → Stream → Prop} {faults : Prop} {extra : Filter ℕ}

/-- Machines that have no cause to part run out of fuel together if neither has more of it. -/
theorem never_part (extra : Filter ℕ) (h : ∀ᶠ m in extra, m = 0) :
    IsEmpty Empty ∧ ∀ᶠ m in extra, m = 0 := ⟨inferInstance, h⟩

/-- Machines that stay together, whose streams and messages correspond. -/
def abreast (stream : Stream → Stream → Prop) (messages : List String → List String → Prop)
    (W : ω → ω' → Prop) (ahead : Stream → Stream → Prop) (faults : Prop) (extra : Filter ℕ) :
    Coupling ω ω' where
  state := Eq
  stream
  messages
  world := W
  ahead
  extra
  exact := ∀ᶠ m in extra, m = 0
  Cause := Empty
  left e := e.elim
  right e := e.elim
  answers := False
  faults
  together := never_part extra

instance : IsEmpty (abreast stream messages W ahead faults extra).Cause :=
  inferInstanceAs (IsEmpty Empty)

/-- Replies of machines abreast, of which the right one began at `base`. -/
def Abreast (stream : Stream → Stream → Prop) (messages : List String → List String → Prop)
    (ahead : Stream → Stream → Prop) (base : Stream) (reply reply' : Reply Value α) : Prop :=
  reply.state = reply'.state ∧ stream reply.stream reply'.stream ∧ ahead base reply'.stream ∧
    match reply.outcome, reply'.outcome with
    | .ok v, .ok v' => v = v'
    | .error l, .error l' => messages l l'
    | _, _ => False

theorem abreast_equal : (abreast (· = ·) (· = ·) W ahead faults extra).Equal := ⟨.rfl, .rfl, .rfl⟩

theorem Abreast.eq {base : Stream} {reply reply' : Reply Value α}
    (h : Abreast (· = ·) (· = ·) ahead base reply reply') : reply = reply' := by
  obtain ⟨s, t, o⟩ := reply
  obtain ⟨s', t', o'⟩ := reply'
  obtain ⟨rfl : s = s', rfl : t = t', -, ho⟩ := h
  cases o <;> cases o'
  case ok.ok v v' => exact congrArg (fun v => Reply.mk s t (.ok v)) ho
  case error.error l l' => exact congrArg (fun l => Reply.mk s t (.error l)) ho
  all_goals exact ho.elim

/-- Of machines abreast only what happens together counts. -/
theorem follows_abreast {p : Parser ω Value α} {q : ℕ → Parser ω' Value α} :
    (abreast stream messages W ahead faults extra).Follows p q ↔
      ∀ base s t t' w w', stream t t' → ahead base t' → W w w' →
        (p s t w).Meets (Abreast stream messages ahead base) W faults extra
          fun m => q m s t' w' := by
  rw [follows_iff_meets .rfl]
  constructor
  · intro h base s t t' w w' ht ha hw
    exact (h base s s t t' w w' rfl ht ha hw).mono
      (fun _ _ ⟨⟨hs, ht, ho⟩, hfit⟩ => ⟨hs, ht, hfit, ho⟩) fun _ _ => id
  · rintro h base s _ t t' w w' rfl ht ha hw
    exact (h base s t t' w w' ht ha hw).mono
      (fun _ _ ⟨hs, ht, hfit, ho⟩ => ⟨⟨hs, ht, ho⟩, hfit⟩) fun _ _ => id

section
variable {p : Parser ω Value α} {q : ℕ → Parser ω' Value α} {f : List String → List String}

/-- Messages that are changed on the left only. -/
theorem mapMessages_left (h : (abreast stream messages W ahead faults extra).Follows p q)
    (hf : ∀ l l', messages l l' → messages (f l) l') :
    (abreast stream messages W ahead faults extra).Follows (Parser.mapMessages f p) q := by
  rw [follows_abreast] at h ⊢
  intro base s t t' w w' ht ha hw
  refine (h base s t t' w w' ht ha hw).mapLeft fun reply reply' hr => ?_
  obtain ⟨s₁, u, o⟩ := reply
  obtain ⟨s₁', u', o'⟩ := reply'
  obtain ⟨hs, hu, hfit, ho⟩ := hr
  cases o <;> cases o'
  case error.error l l' => exact ⟨hs, hu, hfit, hf l l' ho⟩
  all_goals exact ⟨hs, hu, hfit, ho⟩

/-- Messages that are changed on the right only. -/
theorem mapMessages_right (h : (abreast stream messages W ahead faults extra).Follows p q)
    (hf : ∀ l l', messages l l' → messages l (f l')) :
    (abreast stream messages W ahead faults extra).Follows p
      fun m => Parser.mapMessages f (q m) := by
  rw [follows_abreast] at h ⊢
  intro base s t t' w w' ht ha hw
  refine (h base s t t' w w' ht ha hw).mapRight fun reply reply' hr => ?_
  obtain ⟨s₁, u, o⟩ := reply
  obtain ⟨s₁', u', o'⟩ := reply'
  obtain ⟨hs, hu, hfit, ho⟩ := hr
  cases o <;> cases o'
  case error.error l l' => exact ⟨hs, hu, hfit, hf l l' ho⟩
  all_goals exact ⟨hs, hu, hfit, ho⟩

/-- One more unit of fuel does not count among all large amounts. -/
theorem follows_succ_iff :
    ((abreast stream messages W ahead faults Filter.atTop).Follows p fun m => q (m + 1)) ↔
      (abreast stream messages W ahead faults Filter.atTop).Follows p q := by
  simp only [follows_abreast]
  constructor
  · exact fun h base s t t' w w' ht ha hw =>
      Result.Meets.succ_iff.mp (h base s t t' w w' ht ha hw)
  · exact fun h base s t t' w w' ht ha hw =>
      Result.Meets.succ_iff (d := fun m => q m s t' w').mpr (h base s t t' w w' ht ha hw)

end

end Coupling

end Descent
