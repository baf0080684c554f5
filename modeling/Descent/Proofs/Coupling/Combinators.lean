import Mathlib.Data.List.Forall2
import Descent.Proofs.Coupling
import Descent.Proofs.Reading

/-! What follows what, combinator by combinator.

`Coupling.Lawful` is what the relations of a coupling owe to the parsers that read,
move and report. Under it every combinator takes parsers that follow each other to
parsers that follow each other. The loops ask for more: after parting the right
machine is alone with its loop, and that it gets out of it is a hypothesis, of the
coupling for the loops that check that they move (`Lawful.many`), and of the loop for
the others. -/
namespace Descent
open Descent.Parser

namespace Coupling
variable {ω ω' : Type} {C : Coupling ω ω'} {α β γ : Type}

variable (C) in
/-- A parser that the right machine may be left with. -/
def Alone (q : ℕ → Parser ω' Value α) : Prop :=
  ∀ base s t, C.ahead base t → ∀ e w, C.right e w →
    C.Strays (fun reply => C.ahead base reply.stream) (fun m => q m s t w) e

variable (C) in
/-- What the relations of a coupling owe. -/
structure Lawful : Prop where
  state_refl : ∀ s, C.state s s
  state_map : ∀ (f : Value → Value) {s s'}, C.state s s' → C.state (f s) (f s')
  messages_refl : ∀ l, C.messages l l
  messages_append : ∀ {l l' m m'}, C.messages l l' → C.messages m m' →
    C.messages (l ++ m) (l' ++ m')
  messages_map : ∀ (f : List String → List String) {l l'}, C.messages l l' → C.messages (f l) (f l')
  rest : ∀ {t t'}, C.stream t t' → t.rest = t'.rest
  past : ∀ {t t' taken rest}, C.stream t t' → t.rest = taken ++ rest →
    C.stream (t.past taken rest) (t'.past taken rest)
  ahead_past : ∀ {base t taken rest}, C.ahead base t → t.rest = taken ++ rest →
    C.ahead base (t.past taken rest)
  same : ∀ {t t' u u'}, C.stream t t' → C.stream u u' → (t == u) = (t' == u')
  between : ∀ {t t' u u'}, C.stream t t' → C.stream u u' → t.consumedUntil u = t'.consumedUntil u'
  many : ∀ {α : Type} {q : ℕ → Parser ω' Value α}, C.Alone q →
    ∀ found, C.Alone fun m => manyFrom (q m) found m

/-! ### Replies -/

section
variable {pre fits : Prop} {base : Stream} {s s' : Value} {t t' : Stream}

theorem Replying.accept_eq {v v' : α} (hv : pre → v = v') (h : pre → C.state s s' ∧ C.stream t t')
    (ha : fits → C.ahead base t') :
    C.Replying pre fits base (accept s t v) fun _ => Parser.accept s' t' v' :=
  .done (fun p _ => ⟨(h p).1, (h p).2, hv p⟩) ha

theorem Replying.accept {v : α} (h : pre → C.state s s' ∧ C.stream t t')
    (ha : fits → C.ahead base t') :
    C.Replying pre fits base (accept s t v) fun _ => Parser.accept s' t' v :=
  .accept_eq (fun _ => rfl) h ha

theorem Replying.reject {l l' : List String}
    (h : pre → C.messages l l' ∧ C.state s s' ∧ C.stream t t') (ha : fits → C.ahead base t') :
    C.Replying pre fits base (reject s t l : ω → Result ω (Reply Value α))
      fun _ => Parser.reject s' t' l' :=
  .done (fun p _ => ⟨(h p).2.1, (h p).2.2, (h p).1⟩) ha

/-- Going on after a success; a failure passes. -/
theorem Replying.andThen {c : ω → Result ω (Reply Value α)} {d : ℕ → ω' → Result ω' (Reply Value α)}
    {k : α → Value → Stream → ω → Result ω (Reply Value β)}
    {k' : ℕ → α → Value → Stream → ω' → Result ω' (Reply Value β)}
    (h : C.Replying pre fits base c d)
    (hk : ∀ v s s' t t', C.Replying (pre ∧ C.state s s' ∧ C.stream t t') (fits ∧ C.ahead base t')
      base (k v s t) fun m => k' m v s' t') :
    C.Replying pre fits base (fun w => Parser.andThen (c w) k)
      fun m w => Parser.andThen (d m w) (k' m) :=
  h.next hk fun _ _ _ _ _ _ => .reject (·.2) (·.2)

/-- Going on after a failure; a success passes. -/
theorem Replying.orElse {c : ω → Result ω (Reply Value α)} {d : ℕ → ω' → Result ω' (Reply Value α)}
    {k : List String → ω → Result ω (Reply Value α)}
    {k' : ℕ → List String → ω' → Result ω' (Reply Value α)}
    (h : C.Replying pre fits base c d)
    (hk : ∀ l l', C.Replying (pre ∧ C.messages l l') fits base (k l) fun m => k' m l') :
    C.Replying pre fits base (fun w => Parser.orElse (c w) k)
      fun m w => Parser.orElse (d m w) (k' m) :=
  h.next (fun _ _ _ _ _ => .accept (·.2) (·.2))
    fun l l' _ _ _ _ => (hk l l').of (fun p => ⟨p.1, p.2.1⟩) (·.1)

end

/-! ### Values, failures and the text -/

namespace Follows
variable {p : Parser ω Value α} {q : ℕ → Parser ω' Value α}
variable {p₂ : Parser ω Value β} {q₂ : ℕ → Parser ω' Value β}

/-- Applied after something else, with what came of it. -/
theorem apply (h : C.Follows p q) {pre fits : Prop} {base : Stream} {s s' : Value} {t t' : Stream}
    (hpre : pre → C.state s s' ∧ C.stream t t') (hfits : fits → C.ahead base t') :
    C.Replying pre fits base (p s t) fun m => q m s' t' :=
  (h base s s' t t').of hpre hfits

/-- Only what the right machine does with the fuel that it has counts. -/
theorem congr {q' : ℕ → Parser ω' Value α} (h : C.Follows p q) (hq : ∀ᶠ m in C.extra, q' m = q m) :
    C.Follows p q' := fun base s s' t t' =>
  { agrees := fun hpre hfits w w' hw => ((h base s s' t t').agrees hpre hfits w w' hw).congr
      (hq.mono fun m hm => by rw [hm])
    left := (h base s s' t t').left
    right := fun hfits e w he => ((h base s s' t t').right hfits e w he).congr
      (hq.mono fun m hm => by rw [hm]) }

theorem alone (h : C.Follows p q) : C.Alone q := fun base s t => (h base s s t t).right

theorem succeed (v : α) : C.Follows (succeed v) fun _ => Parser.succeed v :=
  fun _ _ _ _ _ => .accept id id

theorem fail (hC : C.Lawful) (message : String) :
    C.Follows (fail message : Parser ω Value α) fun _ => Parser.fail message :=
  fun _ _ _ _ _ => .reject (fun p => ⟨hC.messages_refl _, p⟩) id

theorem map (h : C.Follows p q) (f : α → β) : C.Follows (map f p) fun m => Parser.map f (q m) :=
  fun base s s' t t' => (h base s s' t t').next (fun _ _ _ _ _ => .accept (·.2) (·.2))
    fun _ _ _ _ _ _ => .reject (·.2) (·.2)

theorem mapMessages (hC : C.Lawful) (h : C.Follows p q) (f : List String → List String) :
    C.Follows (mapMessages f p) fun m => Parser.mapMessages f (q m) :=
  fun base s s' t t' => (h base s s' t t').next (fun _ _ _ _ _ => .accept (·.2) (·.2))
    fun _ _ _ _ _ _ => .reject (fun p => ⟨hC.messages_map f p.2.1, p.2.2⟩) (·.2)

theorem bind {f : α → Parser ω Value β} {g : ℕ → α → Parser ω' Value β} (h : C.Follows p q)
    (hf : ∀ v, C.Follows (f v) fun m => g m v) :
    C.Follows (bind p f) fun m => Parser.bind (q m) (g m) :=
  fun base s s' t t' => (h base s s' t t').andThen fun v _ _ _ _ => (hf v).apply (·.2) (·.2)

/-- Nothing to follow. -/
theorem starved (hexact : C.exact → ∀ᶠ m in C.extra, q m = fun _ _ _ => .outOfFuel)
    (halone : C.Alone q) : C.Follows (fun _ _ _ => .outOfFuel) q := fun base s s' t t' =>
  { agrees := fun _ _ _ w' _ h => (hexact h).mono fun m h => by simp only [h]
    left := fun _ _ _ => trivial
    right := halone base s' t' }

/-! ### The text -/

/-- Reading the same, since the same remains. -/
theorem reading (hC : C.Lawful) {f : Reader α} (hf : f.Splits) :
    C.Follows (reading f) fun _ => Parser.reading f := by
  intro base s s' t t'
  refine Tracks.cases t.rest t'.rest (fun p => hC.rest p.2)
    (c := fun y w => replied s t (f y) w) (d := fun y _ w => replied s' t' (f y) w) fun y => ?_
  cases hy : f y with
  | error l => exact Replying.reject (fun p => ⟨hC.messages_refl l, p.1⟩) (·.1)
  | ok found =>
    obtain ⟨taken, rest, v⟩ := found
    have hrest := hf hy
    exact Replying.accept (fun p => ⟨p.1.1, hC.past p.1.2 (p.2.trans hrest)⟩)
      fun f => hC.ahead_past f.1 (f.2.trans hrest)

theorem literal (hC : C.Lawful) (text : Text) :
    C.Follows (literal text) fun _ => Parser.literal text := by
  simp only [literal_eq]
  exact reading hC (literalReader_splits text)

theorem takeWhile (hC : C.Lawful) (keep : Char → Bool) :
    C.Follows (takeWhile keep) fun _ => Parser.takeWhile keep := by
  simp only [takeWhile_eq]
  exact reading hC (takeWhileReader_splits keep)

theorem anyChar (hC : C.Lawful) : C.Follows anyChar fun _ => Parser.anyChar := by
  simp only [anyChar_eq]
  exact reading hC anyCharReader_splits

theorem endOfInput (hC : C.Lawful) : C.Follows endOfInput fun _ => Parser.endOfInput := by
  simp only [endOfInput_eq]
  exact reading hC endOfInputReader_splits

theorem pattern (hC : C.Lawful) (pat : Regex.Pattern) :
    C.Follows (pattern pat) fun _ => Parser.pattern pat := by
  simp only [pattern_eq]
  exact reading hC (patternReader_splits pat)

theorem take (hC : C.Lawful) (n : ℕ) : C.Follows (take n) fun _ => Parser.take n := by
  simp only [take_eq]
  exact reading hC (takeReader_splits n)

/-- A fault names the offset, so it has to be the same. -/
theorem advance (hC : C.Lawful) (n : ℕ) (hfaults : C.faults)
    (hoffset : ∀ t t', C.stream t t' → t.offset = t'.offset) :
    C.Follows (advance n) fun _ => Parser.advance n := by
  intro base s s' t t'
  simp only [advance_eq]
  refine Tracks.cases t.rest t'.rest (fun p => hC.rest p.2)
    (c := fun y w => moved n s t (Text.dropBytes? n y) w)
    (d := fun y _ w => moved n s' t' (Text.dropBytes? n y) w) fun y => ?_
  cases hy : Text.dropBytes? n y with
  | none => exact Tracks.fault hfaults fun p => by rw [hoffset t t' p.1.2]
  | some rest =>
    obtain ⟨taken, htaken, rfl⟩ := Text.eq_append_of_dropBytes? hy
    exact Replying.accept (fun p => ⟨p.1.1, hC.past p.1.2 (p.2.trans htaken)⟩)
      fun f => hC.ahead_past f.1 (f.2.trans htaken)

theorem position (hlocation : ∀ t t', C.stream t t' → t.location = t'.location) :
    C.Follows position fun _ => Parser.position :=
  fun _ _ _ _ _ => .accept_eq (fun p => hlocation _ _ (And.right p)) id id

theorem rewind (hstart : ∀ t t', C.stream t t' →
      C.stream (Stream.start t.source) (Stream.start t'.source))
    (hahead : ∀ base t, C.ahead base t → C.ahead base (Stream.start t.source)) :
    C.Follows rewind fun _ => Parser.rewind :=
  fun _ _ _ _ _ => .accept (And.imp_right (hstart _ _)) (hahead _ _)

theorem lookAhead (h : C.Follows p q) :
    C.Follows (lookAhead p) fun m => Parser.lookAhead (q m) :=
  fun base s s' t t' => (h base s s' t t').andThen fun _ _ _ _ _ =>
    .accept (fun p => ⟨p.2.1, p.1.2⟩) (·.1)

theorem notFollowedBy (hC : C.Lawful) (h : C.Follows p q) :
    C.Follows (notFollowedBy p) fun m => Parser.notFollowedBy (q m) := by
  intro base s s' t t'
  refine (h base s s' t t').next (fun v _ _ u u' => .reject (fun p => ?_) (·.1))
    fun _ _ _ _ _ _ => .accept (·.1) (·.1)
  rw [hC.between p.1.2 p.2.2]
  exact ⟨hC.messages_refl _, p.1⟩

theorem recognize (hC : C.Lawful) (h : C.Follows p q) :
    C.Follows (recognize p) fun m => Parser.recognize (q m) :=
  fun base s s' t t' => (h base s s' t t').andThen fun _ _ _ _ _ =>
    .accept_eq (fun p => hC.between p.1.2 p.2.2) (·.2) (·.2)

/-! ### One after another -/

theorem then_ (h : C.Follows p q) (h₂ : C.Follows p₂ q₂) :
    C.Follows (then_ p p₂) fun m => Parser.then_ (q m) (q₂ m) :=
  fun base s s' t t' => (h base s s' t t').andThen fun _ _ _ _ _ => h₂.apply (·.2) (·.2)

theorem pair (h : C.Follows p q) (h₂ : C.Follows p₂ q₂) :
    C.Follows (pair p p₂) fun m => Parser.pair (q m) (q₂ m) :=
  fun base s s' t t' => (h base s s' t t').andThen fun v _ _ _ _ =>
    (h₂.map fun v₂ => (v, v₂)).apply (·.2) (·.2)

theorem skipRight (h : C.Follows p q) (h₂ : C.Follows p₂ q₂) :
    C.Follows (skipRight p p₂) fun m => Parser.skipRight (q m) (q₂ m) :=
  (h.pair h₂).map Prod.fst

theorem ap {f : Parser ω Value (α → β)} {g : ℕ → Parser ω' Value (α → β)} (hf : C.Follows f g)
    (h : C.Follows p q) : C.Follows (ap f p) fun m => Parser.ap (g m) (q m) :=
  (hf.pair h).map fun fa => fa.1 fa.2

theorem between {o : Parser ω Value γ} {o' : ℕ → Parser ω' Value γ} (ho : C.Follows o o')
    (h₂ : C.Follows p₂ q₂) (h : C.Follows p q) :
    C.Follows (between o p₂ p) fun m => Parser.between (o' m) (q₂ m) (q m) :=
  (ho.then_ h).skipRight h₂

theorem sequenceFrom {ps : List (Parser ω Value α)} {qs : List (ℕ → Parser ω' Value α)}
    (h : List.Forall₂ C.Follows ps qs) (found : List α) :
    C.Follows (sequenceFrom found ps) fun m => Parser.sequenceFrom found (qs.map (· m)) := by
  induction h generalizing found with
  | nil => exact succeed found.reverse
  | cons h _ ih =>
    exact fun base s s' t t' => (h base s s' t t').andThen fun v _ _ _ _ =>
      (ih (v :: found)).apply (·.2) (·.2)

theorem sequence {ps : List (Parser ω Value α)} {qs : List (ℕ → Parser ω' Value α)}
    (h : List.Forall₂ C.Follows ps qs) :
    C.Follows (sequence ps) fun m => Parser.sequence (qs.map (· m)) := sequenceFrom h []

theorem countFrom (h : C.Follows p q) (found : List α) (n : ℕ) :
    C.Follows (countFrom p found n) fun m => Parser.countFrom (q m) found n := by
  induction n generalizing found with
  | zero => exact succeed found.reverse
  | succ n ih =>
    exact fun base s s' t t' => (h base s s' t t').andThen fun v _ _ _ _ =>
      (ih (v :: found)).apply (·.2) (·.2)

theorem count (h : C.Follows p q) (n : ℕ) : C.Follows (count n p) fun m => Parser.count n (q m) :=
  h.countFrom [] n

/-! ### One or another -/

theorem or (hC : C.Lawful) {p₂ : Parser ω Value α} {q₂ : ℕ → Parser ω' Value α}
    (h : C.Follows p q) (h₂ : C.Follows p₂ q₂) :
    C.Follows (or p p₂) fun m => Parser.or (q m) (q₂ m) :=
  fun base s s' t t' => (h base s s' t t').orElse fun _ _ =>
    (h₂.apply (fun p => p.1) id).orElse fun _ _ =>
      .reject (fun p => ⟨hC.messages_append p.1.2 p.2, p.1.1⟩) id

theorem choiceFrom (hC : C.Lawful) {ps : List (Parser ω Value α)} {qs : List (ℕ → Parser ω' Value α)}
    (h : List.Forall₂ C.Follows ps qs) {pre fits : Prop} {base : Stream} {s s' : Value}
    {t t' : Stream} {l l' : List String}
    (hpre : pre → C.messages l l' ∧ C.state s s' ∧ C.stream t t') (hfits : fits → C.ahead base t') :
    C.Replying pre fits base (choiceFrom l ps s t)
      fun m => Parser.choiceFrom l' (qs.map (· m)) s' t' := by
  induction h generalizing pre fits l l' with
  | nil => exact .reject hpre hfits
  | cons h _ ih =>
    exact (h.apply (fun p => (hpre p).2) hfits).orElse fun _ _ =>
      ih (fun p => ⟨hC.messages_append (hpre p.1).1 p.2, (hpre p.1).2⟩) hfits

theorem choice (hC : C.Lawful) {ps : List (Parser ω Value α)} {qs : List (ℕ → Parser ω' Value α)}
    (h : List.Forall₂ C.Follows ps qs) :
    C.Follows (choice ps) fun m => Parser.choice (qs.map (· m)) :=
  fun _ _ _ _ _ => choiceFrom hC h (fun p => ⟨hC.messages_refl [], p⟩) id

theorem optional (hC : C.Lawful) (h : C.Follows p q) (default : α) :
    C.Follows (optional default p) fun m => Parser.optional default (q m) :=
  h.or hC (succeed default)

theorem maybe (h : C.Follows p q) : C.Follows (maybe p) fun m => Parser.maybe (q m) :=
  fun base s s' t t' => (h base s s' t t').next (fun _ _ _ _ _ => .accept (·.2) (·.2))
    fun _ _ _ _ _ _ => .accept (·.1) (·.1)

theorem label (hC : C.Lawful) (h : C.Follows p q) (name : String) :
    C.Follows (label name p) fun m => Parser.label name (q m) := h.mapMessages hC _

/-! ### Again and again -/

theorem manyFrom (hC : C.Lawful) (h : C.Follows p q) (found : List α) (n : ℕ) :
    C.Follows (manyFrom p found n) fun m => Parser.manyFrom (q m) found (n + m) := by
  induction n generalizing found with
  | zero =>
    simp only [Nat.zero_add]
    refine starved (fun hexact => ?_) (hC.many h.alone found)
    exact (C.together hexact).2.mono fun m hm => by rw [hm]; rfl
  | succ n ih =>
    simp only [Nat.add_right_comm n 1]
    intro base s s' t t'
    refine (h base s s' t t').next (fun v s₁ s₁' u u' => ?_) fun _ _ _ _ _ _ => .accept (·.1) (·.1)
    exact Tracks.ite (fun p => by rw [hC.same p.2.2 p.1.2]) (Replying.accept (·.2) (·.2))
      ((ih (v :: found)).apply (·.2) (·.2))

theorem many (hC : C.Lawful) (h : C.Follows p q) (n : ℕ) :
    C.Follows (many n p) fun m => Parser.many (n + m) (q m) := h.manyFrom hC [] n

theorem many1 (hC : C.Lawful) (h : C.Follows p q) (n : ℕ) :
    C.Follows (many1 n p) fun m => Parser.many1 (n + m) (q m) :=
  fun base s s' t t' => (h base s s' t t').andThen fun first _ _ _ _ =>
    (h.manyFrom hC [first] n).apply (·.2) (·.2)

theorem manyTillFrom {ending : Parser ω Value β} {ending' : ℕ → Parser ω' Value β}
    (h : C.Follows p q) (he : C.Follows ending ending')
    (halone : ∀ found, C.Alone fun m => Parser.manyTillFrom (q m) (ending' m) found m)
    (found : List α) (n : ℕ) :
    C.Follows (manyTillFrom p ending found n)
      fun m => Parser.manyTillFrom (q m) (ending' m) found (n + m) := by
  induction n generalizing found with
  | zero =>
    simp only [Nat.zero_add]
    refine starved (fun hexact => ?_) (halone found)
    exact (C.together hexact).2.mono fun m hm => by rw [hm]; rfl
  | succ n ih =>
    simp only [Nat.add_right_comm n 1]
    intro base s s' t t'
    refine (he base s s' t t').next (fun _ _ _ _ _ => .accept (·.2) (·.2)) fun _ _ _ _ _ _ => ?_
    exact (h.apply (·.1) (·.1)).andThen fun v _ _ _ _ => (ih (v :: found)).apply (·.2) (·.2)

theorem manyTill {ending : Parser ω Value β} {ending' : ℕ → Parser ω' Value β}
    (h : C.Follows p q) (he : C.Follows ending ending')
    (halone : ∀ found, C.Alone fun m => Parser.manyTillFrom (q m) (ending' m) found m) (n : ℕ) :
    C.Follows (manyTill n p ending) fun m => Parser.manyTill (n + m) (q m) (ending' m) :=
  h.manyTillFrom he halone [] n

theorem orEmpty {p : Parser ω Value (List α)} {q : ℕ → Parser ω' Value (List α)}
    (h : C.Follows p q) : C.Follows (orEmpty p) fun m => Parser.orEmpty (q m) :=
  fun base s s' t t' => (h base s s' t t').orElse fun _ _ => .accept (·.1) id

theorem sepBy1 (hC : C.Lawful) (h₂ : C.Follows p₂ q₂) (h : C.Follows p q) (n : ℕ) :
    C.Follows (sepBy1 n p₂ p) fun m => Parser.sepBy1 (n + m) (q₂ m) (q m) :=
  fun base s s' t t' => (h base s s' t t').andThen fun first _ _ _ _ =>
    ((h₂.then_ h).manyFrom hC [first] n).apply (·.2) (·.2)

theorem sepBy (hC : C.Lawful) (h₂ : C.Follows p₂ q₂) (h : C.Follows p q) (n : ℕ) :
    C.Follows (sepBy n p₂ p) fun m => Parser.sepBy (n + m) (q₂ m) (q m) :=
  (h₂.sepBy1 hC h n).orEmpty

theorem sepEndBy1 (hC : C.Lawful) (h₂ : C.Follows p₂ q₂) (h : C.Follows p q) (n : ℕ) :
    C.Follows (sepEndBy1 n p₂ p) fun m => Parser.sepEndBy1 (n + m) (q₂ m) (q m) :=
  (h₂.sepBy1 hC h n).skipRight h₂.maybe

theorem sepEndBy (hC : C.Lawful) (h₂ : C.Follows p₂ q₂) (h : C.Follows p q) (n : ℕ) :
    C.Follows (sepEndBy n p₂ p) fun m => Parser.sepEndBy (n + m) (q₂ m) (q m) :=
  (h₂.sepEndBy1 hC h n).orEmpty

theorem skip (h : C.Follows p q) : C.Follows (skip p) fun m => Parser.skip (q m) :=
  h.map fun _ => ()

theorem skipMany (hC : C.Lawful) (h : C.Follows p q) (n : ℕ) :
    C.Follows (skipMany n p) fun m => Parser.skipMany (n + m) (q m) := (h.many hC n).skip

theorem skipMany1 (hC : C.Lawful) (h : C.Follows p q) (n : ℕ) :
    C.Follows (skipMany1 n p) fun m => Parser.skipMany1 (n + m) (q m) := (h.many1 hC n).skip

/-! ### Chains -/

section
variable {o : Parser ω Value (α → α → α)} {o' : ℕ → Parser ω' Value (α → α → α)}

theorem link {pre fits : Prop} {base : Stream} {s s' : Value} {t t' : Stream}
    {more : (α → α → α) → α → Value → Stream → ω → Result ω (Reply Value α)}
    {more' : ℕ → (α → α → α) → α → Value → Stream → ω' → Result ω' (Reply Value α)}
    {ends : ω → Result ω (Reply Value α)} {ends' : ω' → Result ω' (Reply Value α)}
    (ho : C.Follows o o') (h : C.Follows p q)
    (hmore : ∀ f b, C.Follows (more f b) fun m => more' m f b)
    (hends : C.Replying pre fits base ends fun _ => ends')
    (hpre : pre → C.state s s' ∧ C.stream t t') (hfits : fits → C.ahead base t') :
    C.Replying pre fits base (fun w => link o p s t w more ends)
      fun m w => Parser.link (o' m) (q m) s' t' w (more' m) ends' :=
  (ho.apply hpre hfits).next
    (fun f _ _ _ _ => (h.apply (·.2) (·.2)).next (fun b _ _ _ _ => (hmore f b).apply (·.2) (·.2))
      fun _ _ _ _ _ _ => hends.of (·.1.1) (·.1.1))
    fun _ _ _ _ _ _ => hends.of (·.1) (·.1)

theorem chainLeftFrom (ho : C.Follows o o') (h : C.Follows p q)
    (halone : ∀ acc, C.Alone fun m => Parser.chainLeftFrom (o' m) (q m) acc m) (acc : α) (n : ℕ) :
    C.Follows (chainLeftFrom o p acc n)
      fun m => Parser.chainLeftFrom (o' m) (q m) acc (n + m) := by
  induction n generalizing acc with
  | zero =>
    simp only [Nat.zero_add]
    refine starved (fun hexact => ?_) (halone acc)
    exact (C.together hexact).2.mono fun m hm => by rw [hm]; rfl
  | succ n ih =>
    simp only [Nat.add_right_comm n 1]
    exact fun _ _ _ _ _ => link ho h (fun f b => ih (f acc b)) (.accept id id) id id

theorem chainLeft (ho : C.Follows o o') (h : C.Follows p q)
    (halone : ∀ acc, C.Alone fun m => Parser.chainLeftFrom (o' m) (q m) acc m) (n : ℕ) :
    C.Follows (chainLeft n o p) fun m => Parser.chainLeft (n + m) (o' m) (q m) :=
  fun base s s' t t' => (h base s s' t t').andThen fun first _ _ _ _ =>
    (chainLeftFrom ho h halone first n).apply (·.2) (·.2)

theorem chainRightFrom (ho : C.Follows o o') (h : C.Follows p q)
    (halone : ∀ pending last, C.Alone fun m => Parser.chainRightFrom (o' m) (q m) pending last m)
    (pending : List (α × (α → α → α))) (last : α) (n : ℕ) :
    C.Follows (chainRightFrom o p pending last n)
      fun m => Parser.chainRightFrom (o' m) (q m) pending last (n + m) := by
  induction n generalizing pending last with
  | zero =>
    simp only [Nat.zero_add]
    refine starved (fun hexact => ?_) (halone pending last)
    exact (C.together hexact).2.mono fun m hm => by rw [hm]; rfl
  | succ n ih =>
    simp only [Nat.add_right_comm n 1]
    exact fun _ _ _ _ _ => link ho h (fun f b => ih ((last, f) :: pending) b) (.accept id id) id id

theorem chainRight (ho : C.Follows o o') (h : C.Follows p q)
    (halone : ∀ pending last, C.Alone fun m => Parser.chainRightFrom (o' m) (q m) pending last m)
    (n : ℕ) : C.Follows (chainRight n o p) fun m => Parser.chainRight (n + m) (o' m) (q m) :=
  fun base s s' t t' => (h base s s' t t').andThen fun first _ _ _ _ =>
    (chainRightFrom ho h halone [] first n).apply (·.2) (·.2)

end

/-! ### The caller's state -/

theorem getState (hstate : ∀ s s', C.state s s' → s = s') :
    C.Follows getState fun _ => Parser.getState :=
  fun _ _ _ _ _ => .accept_eq (fun p => hstate _ _ (And.left p)) id id

theorem replaceState {state state' : Value} (h : C.state state state') :
    C.Follows (replaceState state) fun _ => Parser.replaceState state' :=
  fun _ _ _ _ _ => .accept (fun p => ⟨h, And.right p⟩) id

theorem transformState {f f' : Value → Value} (h : ∀ s s', C.state s s' → C.state (f s) (f' s')) :
    C.Follows (transformState f) fun _ => Parser.transformState f' :=
  fun _ _ _ _ _ => .accept (And.imp_left (h _ _)) id

theorem readState {f : Value → Parser ω Value α} {g : ℕ → Value → Parser ω' Value α}
    (hstate : ∀ s s', C.state s s' → s = s') (h : ∀ s, C.Follows (f s) fun m => g m s) :
    C.Follows (readState f) fun m => Parser.readState (g m) :=
  fun _ s s' _ _ => Tracks.cases s s' (fun p => hstate s s' p.1)
    fun y => (h y).apply (·.1) (·.1)

end Follows

end Coupling

end Descent
