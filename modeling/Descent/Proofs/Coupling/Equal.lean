import Descent.Proofs.Coupling.Layer

/-! Couplings under which replies are equal.

The couplings of this library relate worlds in their own ways and everything else by
equality. Then a reply corresponds to itself alone, nodes that look at states and
streams see the same, and most of what a coupling owes is no debt. Where there is no
cause to part, nothing is owed after parting. -/
namespace Descent
open Descent.Grammar

namespace Coupling
variable {ω ω' α : Type}

/-- States, streams and messages correspond when they are equal. -/
structure Equal (C : Coupling ω ω') : Prop where
  state : ∀ {s s'}, C.state s s' ↔ s = s'
  stream : ∀ {t t'}, C.stream t t' ↔ t = t'
  messages : ∀ {l l'}, C.messages l l' ↔ l = l'

namespace Equal
variable {C : Coupling ω ω'}

theorem lawful (h : C.Equal)
    (hahead : ∀ {base t taken rest}, C.ahead base t → t.rest = taken ++ rest →
      C.ahead base (t.past taken rest))
    (hmany : ∀ {α : Type} {q : ℕ → Parser ω' Value α}, C.Alone q →
      ∀ found, C.Alone fun m => Parser.manyFrom (q m) found m) : C.Lawful where
  state_refl _ := h.state.mpr rfl
  state_map f _ _ hs := h.state.mpr (congrArg f (h.state.mp hs))
  messages_refl _ := h.messages.mpr rfl
  messages_append hl hm := by
    rw [h.messages] at *
    rw [hl, hm]
  messages_map f _ _ hl := h.messages.mpr (congrArg f (h.messages.mp hl))
  rest ht := congrArg Stream.rest (h.stream.mp ht)
  past ht _ := by
    rw [h.stream] at *
    rw [ht]
  ahead_past := hahead
  same ht hu := by rw [h.stream.mp ht, h.stream.mp hu]
  between ht hu := by rw [h.stream.mp ht, h.stream.mp hu]
  many := hmany

theorem admits (h : C.Equal) {g : Grammar} (hadvance : ∀ n, g = .advance n → C.faults)
    (hrewind : g = .rewind → ∀ base t, C.ahead base t → C.ahead base (.start t.source)) :
    C.Admits g := by
  cases g <;> simp only [Admits, h.state, h.stream, imp_self, implies_true]
  case rewind => exact ⟨fun _ _ ht => ht ▸ rfl, hrewind rfl⟩
  case position => exact fun _ _ ht => ht ▸ rfl
  case advance n => exact ⟨hadvance n rfl, fun _ _ ht => ht ▸ rfl⟩

theorem replies (h : C.Equal) {r r' : Reply Value α} : C.Replies r r' ↔ r = r' := by
  obtain ⟨s, t, o⟩ := r
  obtain ⟨s', t', o'⟩ := r'
  cases o <;> cases o' <;> simp [Replies, h.state, h.stream, h.messages]

end Equal

/-! ### Machines that stay together -/

section
variable {C : Coupling ω ω'} [IsEmpty C.Cause]

theorem alone_of_isEmpty (q : ℕ → Parser ω' Value α) : C.Alone q :=
  fun _ _ _ _ e => isEmptyElim e

theorem escapes_of_isEmpty (parts : ℕ → Parts ω') (g : Grammar) : C.Escapes parts g := by
  cases g <;> simp [Escapes, alone_of_isEmpty]

end

end Coupling

end Descent
