import Mathlib.Data.List.TakeWhile
import Descent.Proofs.Ledger
import Descent.Proofs.Location
import Descent.Proofs.Occurrence
import Descent.Proofs.Sequence

/-! The longest beginning whose characters are all kept.

It ends before the first character that is not kept, or at the end of the text, and it is
found in three ways (`takeWhile_munches`): character by character; by the offset of that first
character, where a move or a cut could fail and does not (`cutWhile`); and as what any parser of
one such character passes over in repetition, whatever it finds and whatever it does to the
world (`OneOf`). -/
namespace Descent

namespace Text

/-- Characters with the offsets at which they begin, the first of them at `start`. -/
def places (start : Nat) : Text → List (Nat × Char)
  | [] => []
  | c :: rest => (start, c) :: places (start + c.utf8Size) rest

/-- The offset of the first character that is not kept, or the size if there is none. -/
def firstNot (text : Text) (keep : Char → Bool) : Nat :=
  ((places 0 text).find? fun place => !keep place.2).elim text.byteSize Prod.fst

theorem find?_places (keep : Char → Bool) (start : Nat) (text : Text) :
    ((places start text).find? fun place => !keep place.2).elim (start + text.byteSize) Prod.fst =
      start + byteSize (text.takeWhile keep) := by
  induction text generalizing start with
  | nil => rfl
  | cons c rest ih =>
    rw [places, List.find?_cons, List.takeWhile_cons]
    cases hc : keep c with
    | false => rfl
    | true =>
      rw [if_pos rfl, byteSize_cons, byteSize_cons, ← Nat.add_assoc, ← Nat.add_assoc, ← ih]
      rfl

theorem firstNot_eq (keep : Char → Bool) (text : Text) :
    firstNot text keep = byteSize (text.takeWhile keep) := by
  have hfirst := find?_places keep 0 text
  rwa [Nat.zero_add, Nat.zero_add] at hfirst

/-- After the characters that are kept there is none, or one that is not. -/
theorem head?_dropWhile {keep : Char → Bool} {text : Text} :
    ∀ c ∈ (text.dropWhile keep).head?, keep c = false := by
  intro c hc
  have hstops := text.head?_dropWhile_not keep
  rwa [hc] at hstops

end Text

namespace Parser
variable {ω σ α : Type}

/-- The longest beginning by its offset: the stream is moved to the first character that is not
kept, and the text up to there is cut out. -/
def cutWhile (keep : Char → Bool) : Parser ω σ Text := fun s t w =>
  let size := t.rest.firstNot keep
  match t.advance size, t.rest.slice? 0 size with
  | .ok u, some v => accept s u v w
  | _, _ => .fault ⟨t.offset, size⟩ w

/-- A parser of one character that is kept, applied in worlds of a kind: it passes over the
character, or fails if there is none, and leaves a world of the kind. It does not change the
state, unless it fails. -/
structure OneOf (I : ω → Prop) (keep : Char → Bool) (p : Parser ω σ α) : Prop where
  finds : ∀ {t : Stream} {c : Char} {rest : Text}, t.Valid → t.rest = c :: rest → keep c = true →
    ∀ (s : σ) {w : ω}, I w → ∃ v w', I w' ∧ p s t w = accept s (t.past [c] rest) v w'
  fails : ∀ {t : Stream}, t.Valid → (∀ c ∈ t.rest.head?, keep c = false) →
    ∀ (s : σ) {w : ω}, I w → ∃ s' t' messages w', I w' ∧ p s t w = reject s' t' messages w'

/-- The next character, if it is kept. -/
def anyCharOf (keep : Char → Bool) : Parser ω σ Char :=
  bind anyChar fun c => if keep c then succeed c else fail "unexpected character"

/-- No move and no cut fails. -/
theorem cutWhile_eq (keep : Char → Bool) :
    (cutWhile keep : Parser ω σ Text) = takeWhile keep := by
  funext s t w
  have hsplit : t.rest = t.rest.takeWhile keep ++ t.rest.dropWhile keep :=
    List.takeWhile_append_dropWhile.symm
  have hmoved := Stream.advance?_byteSize hsplit
  have hcut := Text.slice?_append [] (t.rest.takeWhile keep) (t.rest.dropWhile keep)
  rw [List.nil_append, List.nil_append, ← hsplit, Text.byteSize_nil] at hcut
  simp only [cutWhile, Text.firstNot_eq, Stream.advance, hmoved, hcut]
  rfl

namespace OneOf
variable {I : ω → Prop} {keep : Char → Bool} {p : Parser ω σ α} {t : Stream} {chars rest : Text}
variable {w : ω}

/-- Characters that are kept are rounds of a repetition. -/
theorem rounds (h : OneOf I keep p) (s : σ) (ht : t.Valid) (hrest : t.rest = chars ++ rest)
    (hkeep : ∀ c ∈ chars, keep c = true) (hw : I w) :
    ∃ vs w', vs.length = chars.length ∧ I w' ∧
      Rounds p ⟨s, t, w⟩ vs ⟨s, t.past chars rest, w'⟩ := by
  induction chars generalizing t w with
  | nil =>
    have hhere : t.past [] rest = t := Stream.past_nil hrest
    rw [hhere]
    exact ⟨[], w, rfl, hw, .nil _⟩
  | cons c chars ih =>
    obtain ⟨hc, hkeep⟩ := List.forall_mem_cons.1 hkeep
    obtain ⟨v, w₁, hw₁, hfirst⟩ := h.finds ht hrest hc s hw
    let b : Point ω σ := ⟨s, t.past [c] (chars ++ rest), w₁⟩
    obtain ⟨vs, w', hlength, hw', hmore⟩ :=
      ih (t := b.stream) (Stream.past_valid ht hrest) rfl hkeep hw₁
    rw [Stream.past_past] at hmore
    exact ⟨v :: vs, w', congrArg Nat.succ hlength, hw',
      .cons (b := b) hfirst (past_moves (List.cons_ne_nil _ _) t _) hmore⟩

/-- In repetition it passes over all the characters that are kept. -/
theorem recognize_many (h : OneOf I keep p) (s : σ) (ht : t.Valid) (hrest : t.rest = chars ++ rest)
    (hkeep : ∀ c ∈ chars, keep c = true) (hend : ∀ c ∈ rest.head?, keep c = false)
    (hw : I w) {n : Nat} (hn : chars.length < n) :
    ∃ w', I w' ∧ recognize (many n p) s t w = accept s (t.past chars rest) chars w' := by
  obtain ⟨vs, w₁, hlength, hw₁, hrounds⟩ := h.rounds s ht hrest hkeep hw
  obtain ⟨s', t', messages, w', hw', hlast⟩ := h.fails (Stream.past_valid ht hrest) hend s hw₁
  have hmany := manyFrom_of_rounds hrounds (.undone hlast) [] (hlength ▸ hn)
  exact ⟨w', hw', recognize_of_accept hrest hmany⟩

theorem anyCharOf (I : ω → Prop) (keep : Char → Bool) :
    OneOf I keep (anyCharOf keep : Parser ω σ Char) where
  finds {t c rest} _ hrest hc s w hw := by
    have hchar : Point.apply ⟨s, t, w⟩ anyChar = Point.found ⟨s, t.past [c] rest, w⟩ c :=
      anyChar_found hrest s w
    refine ⟨c, w, hw, (bind_of_found hchar).trans ?_⟩
    rw [hc]
    rfl
  fails {t} _ hend s w hw := by
    cases hrest : t.rest with
    | nil =>
      have hnone : Point.apply ⟨s, t, w⟩ anyChar = reject s t ["unexpected end of input"] w :=
        anyChar_missing hrest s w
      exact ⟨s, t, _, w, hw, bind_of_reject hnone⟩
    | cons c rest =>
      have hchar : Point.apply ⟨s, t, w⟩ anyChar = Point.found ⟨s, t.past [c] rest, w⟩ c :=
        anyChar_found hrest s w
      refine ⟨s, t.past [c] rest, ["unexpected character"], w, hw, (bind_of_found hchar).trans ?_⟩
      rw [hend c (by rw [hrest]; rfl)]
      rfl

/-- A deferred parser of one character is one too, under an account that admits it. -/
theorem deferred {η : Type} {p : Parser (World η) σ α} {l : Ledger} (htripped : l.tripped = none)
    (hunder : l.enter.overLimit = false)
    (h : OneOf (fun w : World η => w.ledger = l.enter) keep p) :
    OneOf (fun w : World η => w.ledger = l) keep (Parser.deferred p) where
  finds {t c rest} ht hrest hc s w hw := by
    subst hw
    obtain ⟨v, w', hw', hfirst⟩ := h.finds ht hrest hc s (w := w.mapLedger Ledger.enter) rfl
    refine ⟨v, w'.mapLedger Ledger.leave, congrArg Ledger.leave hw', ?_⟩
    rw [deferred_under p s t htripped hunder, hfirst]
    rfl
  fails {t} ht hend s w hw := by
    subst hw
    obtain ⟨s', t', messages, w', hw', hlast⟩ :=
      h.fails ht hend s (w := w.mapLedger Ledger.enter) rfl
    refine ⟨s', t', messages, w'.mapLedger Ledger.leave, congrArg Ledger.leave hw', ?_⟩
    rw [deferred_under p s t htripped hunder, hlast]
    rfl

end OneOf

/-- **As much as is kept, and no more.** The parser finds a beginning of what remains, moves
over it and leaves state and world alone. All its characters are kept, and it ends where there
is none or one that is not. That is also where the first character that is not kept begins: the
offset of that one leads there, and cuts out the same text. And it is what a parser of one such
character passes over in repetition, in whatever worlds this is such a parser. -/
theorem takeWhile_munches (keep : Char → Bool) (s : σ) {t : Stream} (ht : t.Valid) (w : ω) :
    ∃ v rest, takeWhile keep s t w = accept s (t.past v rest) v w ∧ (t.past v rest).Valid ∧
      t.rest = v ++ rest ∧ (∀ c ∈ v, keep c = true) ∧ (∀ c ∈ rest.head?, keep c = false) ∧
      cutWhile keep s t w = accept s (t.past v rest) v w ∧
      ∀ {α : Type} {I : ω → Prop} {p : Parser ω σ α}, OneOf I keep p → I w →
        ∀ n, v.length < n →
          ∃ w', I w' ∧ recognize (many n p) s t w = accept s (t.past v rest) v w' := by
  have hsplit : t.rest = t.rest.takeWhile keep ++ t.rest.dropWhile keep :=
    List.takeWhile_append_dropWhile.symm
  have hkeep : ∀ c ∈ t.rest.takeWhile keep, keep c = true := fun c => List.mem_takeWhile_imp
  refine ⟨_, _, rfl, Stream.past_valid ht hsplit, hsplit, hkeep, Text.head?_dropWhile, ?_,
    fun h hw n hn => h.recognize_many s ht hsplit hkeep Text.head?_dropWhile hw hn⟩
  rw [cutWhile_eq]
  rfl

/-- A deferred parser of a character outside ASCII, in the middle of a text. -/
theorem greek_munched :
    let t : Stream := ⟨⟨"xαβ1".toList, 0⟩, 1, "αβ1".toList⟩
    let u : Stream := ⟨⟨"xαβ1".toList, 0⟩, 5, ['1']⟩
    let keep (c : Char) : Bool := 128 ≤ c.toNat
    let p : Parser (World Unit) Unit Char := deferred (anyCharOf keep)
    let w : World Unit := ⟨{}, ()⟩
    t.Valid ∧ OneOf (fun w : World Unit => w.ledger = {}) keep p ∧
      takeWhile keep () t w = accept () u ['α', 'β'] w ∧
      ∃ w' : World Unit, w'.ledger = {} ∧
        recognize (many 3 p) () t w = accept () u ['α', 'β'] w' := by
  intro t u keep p w
  have hvalid : t.Valid := ⟨['x'], rfl, rfl⟩
  have hone : OneOf (fun w : World Unit => w.ledger = {}) keep p :=
    .deferred rfl rfl (.anyCharOf _ keep)
  obtain ⟨v, rest, hfound, -, -, -, -, -, hmany⟩ := takeWhile_munches keep () hvalid w
  have htaken : takeWhile keep () t w = accept () u ['α', 'β'] w := rfl
  obtain ⟨hplace, rfl⟩ := Point.found_inj (a := ⟨(), u, w⟩) (b := ⟨(), t.past v rest, w⟩)
    (htaken.symm.trans hfound)
  have hu : t.past ['α', 'β'] rest = u := (congrArg Point.stream hplace).symm
  rw [hu] at hmany
  exact ⟨hvalid, hone, htaken, hmany hone rfl 3 (by decide)⟩

end Parser

end Descent
