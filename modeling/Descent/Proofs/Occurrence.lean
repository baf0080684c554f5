import Mathlib.Data.List.Basic
import Mathlib.Order.WellFounded
import Descent.Parser.Primitive
import Descent.Parser.Repetition

/-! The first occurrence of a literal.

Characters until a literal are a search for it: each of them is read where the literal does
not begin. So what matters is that a run of characters `Avoids` the literal, whatever comes
after it: such characters are read one by one, and after them either the literal stands or
the text is at its end. The characters before the leftmost occurrence are such a run, and a
text without an occurrence is one as a whole, which gives `manyTill_anyChar_literal`: what is
found and where the stream stands then. -/
namespace Descent

namespace Text
variable {part chars rest : Text} {c : Char}

theorem after?_eq_none_iff {text : Text} : after? part text = none ↔ ¬part <+: text := by
  refine ⟨?_, fun h => Option.eq_none_iff_forall_ne_some.2 fun rest hrest => ?_⟩
  · rintro hnone ⟨rest, rfl⟩
    rw [after?_append] at hnone
    cases hnone
  · exact h ⟨rest, (eq_append_of_after? hrest).symm⟩

theorem dropInfix?_eq_some_iff {text before after : Text} :
    text.dropInfix? part = some (before, after) ↔ text = before ++ part ++ after ∧
      ∀ b a, text = b ++ part ++ a → before.length ≤ b.length := by
  rw [List.dropInfix?_eq_some_iff]
  simp only [beq_iff_eq, exists_eq_right]
  refine and_congr_right' ⟨fun h b a hsplit => h b part a hsplit rfl, ?_⟩
  rintro h b _ a hsplit rfl
  exact h b a hsplit

/-- What occurs somewhere has a leftmost occurrence. -/
theorem dropInfix?_eq_none_iff {text : Text} :
    text.dropInfix? part = none ↔ ¬part <:+: text := by
  refine ⟨fun hnone hoccurs => ?_, fun hnot => ?_⟩
  · obtain ⟨b, a, hsplit⟩ := hoccurs
    obtain ⟨⟨before, after⟩, hfirst, hleast⟩ :=
      (measure fun cut : Text × Text => cut.1.length).wf.has_min
        {cut | text = cut.1 ++ part ++ cut.2} ⟨(b, a), hsplit.symm⟩
    have hsome := dropInfix?_eq_some_iff.2
      ⟨hfirst, fun b a hsplit => Nat.le_of_not_lt (hleast (b, a) hsplit)⟩
    rw [hnone] at hsome
    cases hsome
  · refine Option.eq_none_iff_forall_ne_some.2 fun ⟨before, after⟩ hsome => hnot ?_
    exact ⟨before, after, (dropInfix?_eq_some_iff.1 hsome).1.symm⟩

/-- No occurrence of the part begins among these characters, when `rest` comes after them. -/
def Avoids (part : Text) : (chars rest : Text) → Prop
  | [], _ => True
  | c :: chars, rest => ¬part <+: c :: (chars ++ rest) ∧ Avoids part chars rest

/-- The characters before the leftmost occurrence. -/
theorem avoids_of_leftmost {before after : Text}
    (h : ∀ b a, before ++ part ++ after = b ++ part ++ a → before.length ≤ b.length) :
    Avoids part before (part ++ after) := by
  induction before with
  | nil => trivial
  | cons c before ih =>
    refine ⟨?_, ih fun b a hsplit => ?_⟩
    · rintro ⟨a, hfront⟩
      have hle := h [] a (by rw [List.nil_append, hfront, List.append_assoc, List.cons_append])
      exact absurd hle (Nat.not_succ_le_zero _)
    · have hle := h (c :: b) a (by simp only [List.cons_append, hsplit])
      exact Nat.le_of_succ_le_succ hle

/-- All characters, where there is no occurrence. -/
theorem avoids_of_not_infix (h : ¬part <:+: chars) : Avoids part chars [] := by
  induction chars with
  | nil => trivial
  | cons c chars ih =>
    refine ⟨fun hfront => h ?_, ih fun hbehind => h (List.infix_cons hbehind)⟩
    rw [List.append_nil] at hfront
    exact hfront.isInfix

end Text

namespace Stream

/-- A valid stream that has moved over all that remained is at the end of its source. -/
theorem past_rest_offset {t : Stream} (h : t.Valid) :
    (t.past t.rest []).offset = t.source.text.byteSize := by
  obtain ⟨before, htext, hoffset⟩ := h
  rw [past, htext, Text.byteSize_append, hoffset]

end Stream

namespace Parser
variable {ω σ : Type} {part chars rest : Text} {t : Stream}

theorem literal_found (h : t.rest = part ++ rest) (s : σ) (w : ω) :
    literal part s t w = accept s (t.past part rest) part w := by
  rw [literal, h, Text.after?_append]
  rfl

theorem literal_missing (h : ¬part <+: t.rest) (s : σ) (w : ω) :
    literal part s t w = reject s t [s!"expected \"{String.ofList part}\""] w := by
  rw [literal, Text.after?_eq_none_iff.2 h]

theorem anyChar_found {c : Char} (h : t.rest = c :: rest) (s : σ) (w : ω) :
    anyChar s t w = accept s (t.past [c] rest) c w := by
  simp only [anyChar, h, Stream.past, Text.byteSize_cons, Text.byteSize_nil, Nat.add_zero]

theorem anyChar_missing (h : t.rest = []) (s : σ) (w : ω) :
    anyChar s t w = reject s t ["unexpected end of input"] w := by
  simp only [anyChar, h]

section
variable (s : σ) (w : ω) (found : Text) (rounds : Nat)

/-- Characters that avoid the literal are found, each in a round. -/
theorem manyTillFrom_avoids (hrest : t.rest = chars ++ rest) (h : Text.Avoids part chars rest) :
    manyTillFrom anyChar (literal part) found (chars.length + rounds) s t w =
      manyTillFrom anyChar (literal part) (chars.reverse ++ found) rounds s
        (t.past chars rest) w := by
  induction chars generalizing t found with
  | nil =>
    have hhere : t.past [] rest = t := Stream.past_nil hrest
    rw [List.length_nil, Nat.zero_add, List.reverse_nil, List.nil_append, hhere]
  | cons c chars ih =>
    obtain ⟨hnot, hmore⟩ := h
    have hmissing := literal_missing (t := t) (by rwa [hrest]) s w
    have hchar : anyChar s t w = accept s (t.past [c] (chars ++ rest)) c w :=
      anyChar_found hrest s w
    simp only [accept, reject] at hmissing hchar
    have hround : manyTillFrom anyChar (literal part) found (chars.length + rounds + 1) s t w =
        manyTillFrom anyChar (literal part) (c :: found) (chars.length + rounds) s
          (t.past [c] (chars ++ rest)) w := by
      simp only [manyTillFrom, hmissing, Result.next_done, andThen, hchar]
    rw [List.length_cons, Nat.add_right_comm, hround, ih (c :: found) rfl hmore, Stream.past_past,
      List.reverse_cons, List.append_assoc, List.singleton_append, List.singleton_append]

/-- The literal ends the characters. -/
theorem manyTillFrom_found (hrest : t.rest = part ++ rest) :
    manyTillFrom anyChar (literal part) found (rounds + 1) s t w =
      accept s (t.past part rest) found.reverse w := by
  have hfound := literal_found hrest s w
  simp only [accept] at hfound
  rw [manyTillFrom, hfound, Result.next_done]

/-- At the end of the text there is neither a literal nor a character. -/
theorem manyTillFrom_missing (hrest : t.rest = []) (hpart : part ≠ []) :
    manyTillFrom anyChar (literal part) found (rounds + 1) s t w =
      reject s t ["unexpected end of input"] w := by
  have hnot : ¬part <+: t.rest := by rwa [hrest, List.prefix_nil]
  have hmissing := literal_missing hnot s w
  have hchar := anyChar_missing hrest s w
  simp only [reject] at hmissing hchar
  rw [manyTillFrom, hmissing, Result.next_done, andThen, hchar, Result.next_done]

end

/-- **Characters until a literal.** With rounds for all that remains the parser replies, and
leaves state and world alone. If the literal occurs in what remains, it finds the characters
before the leftmost occurrence and stands after the literal. If it does not occur, the end of
the text was met: that is the failure, and it is placed there. -/
theorem manyTill_anyChar_literal (part : Text) (s : σ) {t : Stream} (ht : t.Valid) (w : ω)
    {rounds : Nat} (hrounds : t.rest.length < rounds) :
    (part <:+: t.rest → ∃ before after, t.rest = before ++ part ++ after ∧
      (∀ b a, t.rest = b ++ part ++ a → before.length ≤ b.length) ∧
      manyTill rounds anyChar (literal part) s t w =
        accept s (t.past (before ++ part) after) before w) ∧
    (¬part <:+: t.rest → ∃ u : Stream, u.source = t.source ∧ u.rest = [] ∧
      u.offset = t.source.text.byteSize ∧
      manyTill rounds anyChar (literal part) s t w =
        reject s u ["unexpected end of input"] w) := by
  refine ⟨fun hoccurs => ?_, fun hnot => ?_⟩
  · obtain ⟨⟨before, after⟩, hfirst⟩ := Option.ne_none_iff_exists'.1
      (mt Text.dropInfix?_eq_none_iff.1 (not_not.2 hoccurs))
    obtain ⟨hrest, hleast⟩ := Text.dropInfix?_eq_some_iff.1 hfirst
    refine ⟨before, after, hrest, hleast, ?_⟩
    have havoids := Text.avoids_of_leftmost (hrest ▸ hleast)
    rw [List.append_assoc] at hrest
    have hlength : before.length < rounds := by
      rw [hrest, List.length_append] at hrounds
      exact Nat.lt_of_le_of_lt (Nat.le_add_right _ _) hrounds
    obtain ⟨rounds, rfl⟩ := Nat.exists_eq_add_of_lt hlength
    rw [manyTill, Nat.add_assoc, manyTillFrom_avoids s w [] _ hrest havoids,
      manyTillFrom_found s w _ _ rfl, Stream.past_past, List.append_nil, List.reverse_reverse]
  · have havoids := Text.avoids_of_not_infix hnot
    have hpart : part ≠ [] := by
      rintro rfl
      exact hnot List.nil_infix
    obtain ⟨rounds, rfl⟩ := Nat.exists_eq_add_of_lt hrounds
    refine ⟨t.past t.rest [], rfl, rfl, Stream.past_rest_offset ht, ?_⟩
    rw [manyTill, Nat.add_assoc, manyTillFrom_avoids s w [] _ (List.append_nil _).symm havoids,
      manyTillFrom_missing s w _ _ rfl hpart]

/-- A literal after a beginning of itself, and one of which only a beginning is there. -/
theorem overlapping_literal :
    let t : Stream := ⟨⟨"xéaaab".toList, 0⟩, 1, "éaaab".toList⟩
    t.Valid ∧ t.rest.length < 6 ∧ "aab".toList <:+: t.rest ∧ ¬"aabb".toList <:+: t.rest ∧
      manyTill 6 anyChar (literal "aab".toList) () t () =
        accept () ⟨t.source, 7, []⟩ ['é', 'a'] () ∧
      manyTill 6 anyChar (literal "aabb".toList) () t () =
        reject () ⟨t.source, 7, []⟩ ["unexpected end of input"] () := by
  intro t
  have hvalid : t.Valid := ⟨['x'], rfl, rfl⟩
  have hoccurs : "aab".toList <:+: t.rest := ⟨['é', 'a'], [], rfl⟩
  have hnot : ¬"aabb".toList <:+: t.rest := by decide
  have hrounds : t.rest.length < 6 := by decide
  refine ⟨hvalid, hrounds, hoccurs, hnot, ?_, ?_⟩
  · obtain ⟨before, after, hrest, hleast, hfound⟩ :=
      (manyTill_anyChar_literal "aab".toList () hvalid () hrounds).1 hoccurs
    have hle : before.length ≤ 2 := hleast ['é', 'a'] [] rfl
    obtain _ | ⟨c, _ | ⟨d, _ | ⟨e, before⟩⟩⟩ := before
    · cases hrest
    · cases hrest
    · cases hrest
      exact hfound
    · simp only [List.length_cons] at hle
      omega
  · obtain ⟨⟨_, _, _⟩, rfl, rfl, rfl, hfailed⟩ :=
      (manyTill_anyChar_literal "aabb".toList () hvalid () hrounds).2 hnot
    exact hfailed

end Parser

end Descent
