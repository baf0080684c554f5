import Descent.Proofs.Location
import Descent.Proofs.Streams

/-! Moves of streams whose offsets are machine words.

A machine keeps a stream as its source and a word. It moves by a sum of words, which may be
none, and then by one look at a byte of the source, which tells whether a character begins
there. A text shorter than there are words leaves no difference: the bytes at which it can be
cut are those that pass the test (`Text.isBoundary_eq`), a sum that is no word leads out of the
text (`Cursor.sum?_bind`), so the cursor does what the stream does (`Stream.tracked`).
Whatever moves lead to from the beginning of a source then obeys the laws of `moves_compose`:
two moves are one by the sum, and what is consumed adds up. -/
namespace Descent

namespace Text

/-! ### Boundaries -/

/-- A text can be cut at its end, and where the first byte of a character is. -/
def isBoundary (text : Text) (n : ℕ) : Bool :=
  n == text.byteSize || text.bytes[n]?.any (decide ·.IsUTF8FirstByte)

theorem isBoundary_append (head rest : Text) (n : ℕ) :
    (head ++ rest).isBoundary (head.byteSize + n) = rest.isBoundary n := by
  rw [isBoundary, isBoundary, bytes_append, ← length_bytes head, List.getElem?_append_right
    (Nat.le_add_right _ _), Nat.add_sub_cancel_left, length_bytes, byteSize_append]
  congr 1
  exact Bool.eq_iff_iff.2 (by simp)

/-- Within a character only its first byte is one. -/
theorem isBoundary_of_lt {c : Char} {n : ℕ} (hn : n < c.utf8Size) (rest : Text) :
    isBoundary (c :: rest) n = (n == 0) := by
  have hlength : n < (String.utf8EncodeChar c).length := by rwa [String.length_utf8EncodeChar]
  have hend : n ≠ byteSize (c :: rest) := by
    rw [byteSize_cons]
    omega
  rw [isBoundary, beq_false_of_ne hend, Bool.false_or, bytes_cons,
    List.getElem?_append_left hlength, List.getElem?_eq_getElem hlength, Option.any_some]
  exact Bool.eq_iff_iff.2 (by simp [UInt8.isUTF8FirstByte_getElem_utf8EncodeChar])

theorem isBoundary_of_byteSize_lt {text : Text} {n : ℕ} (hn : text.byteSize < n) :
    text.isBoundary n = false := by
  rw [isBoundary, beq_false_of_ne hn.ne', List.getElem?_eq_none (by rw [length_bytes]; exact hn.le)]
  rfl

/-- The test finds where a text can be cut. -/
theorem isBoundary_eq (text : Text) (n : ℕ) :
    text.isBoundary n = (dropBytes? n text).isSome := by
  induction text generalizing n with
  | nil =>
    cases n with
    | zero => rfl
    | succ n => rfl
  | cons c rest ih =>
    obtain hlt | hle := Nat.lt_or_ge n c.utf8Size
    · rw [isBoundary_of_lt hlt]
      cases n with
      | zero => rfl
      | succ n => rw [dropBytes?, if_neg (Nat.not_le.2 hlt)]; rfl
    · -- past the character it is the rest that is cut
      obtain ⟨m, rfl⟩ := Nat.exists_eq_add_of_le hle
      have hcut := (isBoundary_append [c] rest m).trans (ih m)
      rwa [← dropBytes?_add [c] rest m, byteSize_cons, byteSize_nil, Nat.add_zero] at hcut

end Text

/-- A stream as a machine keeps it. -/
structure Cursor where
  source : Source
  offset : UInt64

namespace Cursor

/-- The sum of two words; `none` if it is not a word, as a sum that wraps is less than its
parts. -/
def sum? (a b : UInt64) : Option UInt64 := if a ≤ a + b then some (a + b) else none

/-- Moves by `n` bytes, to a boundary of the source. -/
def advance? (c : Cursor) (n : UInt64) : Option Cursor :=
  (sum? c.offset n).bind fun offset =>
    if c.source.text.isBoundary offset.toNat then some { c with offset } else none

/-- What remains, cut out of the source. -/
def remaining? (c : Cursor) : Option Text :=
  c.source.text.slice? c.offset.toNat c.source.text.byteSize

/-- The text between a cursor and a later one, cut out of the source. -/
def consumedUntil? (c later : Cursor) : Option Text :=
  if later.offset ≤ c.offset then some []
  else c.source.text.slice? c.offset.toNat later.offset.toNat

/-- What refuses a number that is not a word may be asked with the sum of the numbers. -/
theorem sum?_bind {β : Type} {f : ℕ → Option β} (hf : ∀ n, 2 ^ 64 ≤ n → f n = none)
    (a b : UInt64) : ((sum? a b).bind fun n => f n.toNat) = f (a.toNat + b.toNat) := by
  have ha := a.toNat_lt
  have hb := b.toNat_lt
  obtain hword | hover := Nat.lt_or_ge (a.toNat + b.toNat) (2 ^ 64)
  · have hsum : (a + b).toNat = a.toNat + b.toNat := by
      rw [UInt64.toNat_add, Nat.mod_eq_of_lt hword]
    rw [sum?, if_pos (by rw [UInt64.le_iff_toNat_le, hsum]; exact Nat.le_add_right _ _),
      Option.bind_some, hsum]
  · have hwraps : ¬a ≤ a + b := by
      rw [UInt64.le_iff_toNat_le, UInt64.toNat_add]
      omega
    rw [sum?, if_neg hwraps, Option.bind_none, hf _ hover]

end Cursor

namespace Stream
variable {source : Source} {t u v : Stream}

/-- The stream as a machine keeps it. -/
def cursor (t : Stream) : Cursor := ⟨t.source, .ofNat t.offset⟩

/-- Where moves lead from the beginning of a source. -/
inductive Reached (source : Source) : Stream → Prop
  | start : Reached source (.start source)
  | advance? {t u : Stream} {n : ℕ} : Reached source t → t.advance? n = some u → Reached source u
  | advance {t u : Stream} {n : ℕ} : Reached source t → t.advance n = .ok u → Reached source u

/-- A stream stands between two parts of its source, and the second remains. -/
structure Stands (source : Source) (t : Stream) : Prop where
  source_eq : t.source = source
  boundary : source.text.isBoundary t.offset = true
  text_eq : source.text = source.text.takeBytes t.offset ++ t.rest
  size_eq : (source.text.takeBytes t.offset).byteSize = t.offset
  bytes_eq : source.text.bytes = source.text.bytes.take t.offset ++ t.rest.bytes

/-- No stream can stand there: it is no word, outside of the source or within a character. -/
def Barred (source : Source) (n : ℕ) : Prop :=
  2 ^ 64 ≤ n ∨ source.text.byteSize < n ∨ source.text.isBoundary n = false

/-- The cursor of a stream does what the stream does. -/
structure Tracked (source : Source) (t : Stream) : Prop where
  offset_eq : t.cursor.offset.toNat = t.offset
  remaining?_eq : t.cursor.remaining? = some t.rest
  advance?_eq : ∀ n, t.cursor.advance? n = (t.advance? n.toNat).map cursor
  consumedUntil?_eq : ∀ u, Reached source u →
    t.cursor.consumedUntil? u.cursor = some (t.consumedUntil u)

/-! ### Moves -/

/-- Moves lead to the valid streams of the source. -/
theorem reached_iff : Reached source t ↔ t.source = source ∧ t.Valid := by
  constructor
  · intro h
    induction h with
    | start => exact ⟨rfl, start_valid source⟩
    | advance? _ hu ih => exact (advance?_valid ih.2 hu).imp_left (·.trans ih.1)
    | advance _ hu ih =>
      exact (advance?_valid ih.2 (advance_eq_ok_iff.1 hu)).imp_left (·.trans ih.1)
  · rintro ⟨rfl, hvalid⟩
    exact Reached.start.advance? (start_advance? hvalid)

/-- Two moves are one, by the sum. -/
theorem advance?_advance? {a : ℕ} (hu : t.advance? a = some u) (b : ℕ) :
    u.advance? b = t.advance? (a + b) := by
  obtain ⟨taken, rest, hrest, rfl, rfl⟩ := past_of_advance? hu
  simp only [advance?, past, hrest, Text.dropBytes?_add, Nat.add_assoc]

/-- A move that is possible ends at a boundary. -/
theorem advance?_isSome (h : t.Valid) (n : ℕ) :
    (t.advance? n).isSome = t.source.text.isBoundary (t.offset + n) := by
  rw [← moved?_eq h, moved?, advance?, Option.isSome_map, Text.isBoundary_eq]
  rfl

theorem advance?_eq_none_iff (hsize : t.source.text.byteSize < 2 ^ 64) (h : t.Valid) {n : ℕ} :
    t.advance? n = none ↔ Barred t.source (t.offset + n) := by
  rw [← Option.not_isSome_iff_eq_none, advance?_isSome h, Bool.not_eq_true, Barred]
  constructor
  · exact fun hn => .inr (.inr hn)
  · rintro (hn | hn | hn)
    · exact Text.isBoundary_of_byteSize_lt (hsize.trans_le hn)
    · exact Text.isBoundary_of_byteSize_lt hn
    · exact hn

/-- No move by a number that is not a word stays within the source. -/
theorem advance?_of_le (hsize : t.source.text.byteSize < 2 ^ 64) (h : t.Valid) {n : ℕ}
    (hn : 2 ^ 64 ≤ n) : t.advance? n = none :=
  (advance?_eq_none_iff hsize h).2 (.inl (Nat.le_add_left_of_le hn))

theorem stands (h : t.Valid) : Stands t.source t := by
  obtain ⟨before, htext, hoffset⟩ := id h
  have hbefore : t.source.text.takeBytes t.offset = before := by
    rw [htext, hoffset, Text.takeBytes_byteSize]
  refine ⟨rfl, ?_, by rw [hbefore, htext], by rw [hbefore, hoffset], ?_⟩
  · rw [Text.isBoundary_eq, htext, hoffset, Text.dropBytes?_byteSize]
    rfl
  · rw [htext, hoffset, Text.bytes_append, ← Text.length_bytes, List.take_left]

/-- What is consumed adds up. -/
theorem consumedUntil_append (ht : t.Valid) (hu : u.Valid) (hv : v.Valid)
    (hsource : u.source = t.source) (hsource' : v.source = u.source) (hle : t.offset ≤ u.offset)
    (hle' : u.offset ≤ v.offset) :
    t.consumedUntil u ++ u.consumedUntil v = t.consumedUntil v ∧
      t.consumedUntil u ++ u.rest = t.rest := by
  obtain ⟨x, hx, hpast⟩ := exists_past ht hu hsource hle
  obtain ⟨y, hy, hpast'⟩ := exists_past hu hv hsource' hle'
  have hxu : t.consumedUntil u = x := by rw [hpast, consumedUntil_past hx]
  have hyv : u.consumedUntil v = y := by rw [hpast', consumedUntil_past hy]
  have hxyv : t.consumedUntil v = x ++ y := by
    rw [hpast', hpast, past_past, consumedUntil_past]
    rw [hx, hy, List.append_assoc]
  exact ⟨by rw [hxu, hyv, hxyv], by rw [hxu, hx]⟩

/-! ### The cursor -/

theorem cursor_offset (hsize : t.source.text.byteSize < 2 ^ 64) (h : t.Valid) :
    t.cursor.offset.toNat = t.offset :=
  UInt64.toNat_ofNat_of_lt ((offset_le h).trans_lt hsize)

theorem cursor_advance? (hsize : t.source.text.byteSize < 2 ^ 64) (h : t.Valid) (n : UInt64) :
    t.cursor.advance? n = (t.advance? n.toNat).map cursor := by
  have hbarred : ∀ m, 2 ^ 64 ≤ m →
      (if t.source.text.isBoundary m then some (Cursor.mk t.source (.ofNat m)) else none) = none :=
    fun m hm => by rw [Text.isBoundary_of_byteSize_lt (hsize.trans_le hm)]; rfl
  have hsum := Cursor.sum?_bind hbarred t.cursor.offset n
  simp only [UInt64.ofNat_toNat] at hsum
  rw [Cursor.advance?]
  refine hsum.trans ?_
  rw [cursor_offset hsize h, ← advance?_isSome h]
  cases hu : t.advance? n.toNat with
  | none => rfl
  | some u =>
    obtain ⟨taken, rest, -, hn, rfl⟩ := past_of_advance? hu
    rw [← hn]
    rfl

theorem cursor_remaining? (hsize : t.source.text.byteSize < 2 ^ 64) (h : t.Valid) :
    t.cursor.remaining? = some t.rest := by
  have hcursor := cursor_offset hsize h
  obtain ⟨before, htext, hoffset⟩ := h
  have hcut := Text.slice?_append before t.rest []
  rw [List.append_nil] at hcut
  show Text.slice? t.source.text _ t.source.text.byteSize = _
  rw [hcursor, hoffset, htext, hcut]

theorem cursor_consumedUntil? (hsize : t.source.text.byteSize < 2 ^ 64) (ht : t.Valid)
    (hu : u.Valid) (hsource : u.source = t.source) :
    t.cursor.consumedUntil? u.cursor = some (t.consumedUntil u) := by
  have hcursor := cursor_offset hsize ht
  have hcursor' := cursor_offset (hsource ▸ hsize) hu
  unfold Cursor.consumedUntil?
  split
  · next hle =>
    rw [UInt64.le_iff_toNat_le, hcursor, hcursor'] at hle
    rw [consumedUntil_of_le hle]
  · next hlt =>
    rw [UInt64.le_iff_toNat_le, hcursor, hcursor'] at hlt
    obtain ⟨between, hrest, hpast⟩ := exists_past ht hu hsource (by omega)
    obtain ⟨before, htext, hoffset⟩ := ht
    have hconsumed : t.consumedUntil u = between := by rw [hpast, consumedUntil_past hrest]
    have hend : u.offset = (before ++ between).byteSize := by
      rw [hpast, past, Text.byteSize_append, hoffset]
    show Text.slice? t.source.text _ _ = _
    rw [hcursor, hcursor', htext, hrest, hoffset, hend, Text.slice?_append, hconsumed]

theorem tracked (hsize : source.text.byteSize < 2 ^ 64) (ht : Reached source t) :
    Tracked source t := by
  obtain ⟨rfl, hvalid⟩ := reached_iff.1 ht
  refine ⟨cursor_offset hsize hvalid, cursor_remaining? hsize hvalid,
    cursor_advance? hsize hvalid, fun u hu => ?_⟩
  obtain ⟨hsource, hvalid'⟩ := reached_iff.1 hu
  exact cursor_consumedUntil? hsize hvalid hvalid' hsource

/-- **Moves compose.** Wherever they lead in a source whose size is a word, the stream is between
two parts of the source, and two moves are one by the sum. A move is refused for the reasons
there are, and then a fault says so. What is consumed adds up. All of it can be done with words. -/
theorem moves_compose (hsize : source.text.byteSize < 2 ^ 64) (ht : Reached source t) :
    Stands source t ∧
      (∀ (a b : UInt64) (u : Stream), t.advance? a.toNat = some u →
        u.advance? b.toNat = ((Cursor.sum? a b).bind fun n => t.advance? n.toNat) ∧
        (u.advance? b.toNat = none ↔ Barred source (t.offset + (a.toNat + b.toNat)))) ∧
      (∀ n, t.advance? n = none ↔ Barred source (t.offset + n)) ∧
      (∀ n u, t.advance n = .ok u ↔ t.advance? n = some u) ∧
      (∀ n cause, t.advance n = .error cause ↔ t.advance? n = none ∧ cause = ⟨t.offset, n⟩) ∧
      (∀ u v, Reached source u → Reached source v → t.offset ≤ u.offset → u.offset ≤ v.offset →
        t.consumedUntil u ++ u.consumedUntil v = t.consumedUntil v ∧
        t.consumedUntil u ++ u.rest = t.rest) ∧
      (∀ u, Reached source u → u.offset ≤ t.offset → t.consumedUntil u = []) ∧
      Tracked source t := by
  have htracked := tracked hsize ht
  obtain ⟨rfl, hvalid⟩ := reached_iff.1 ht
  refine ⟨stands hvalid, fun a b u hu => ?_, fun n => advance?_eq_none_iff hsize hvalid,
    fun n u => advance_eq_ok_iff, fun n cause => advance_eq_error_iff, fun u v hu hv hle hle' => ?_,
    fun u _ => consumedUntil_of_le, htracked⟩
  · have hsum := Cursor.sum?_bind (fun n => advance?_of_le hsize hvalid) a b
    rw [advance?_advance? hu, hsum]
    exact ⟨rfl, advance?_eq_none_iff hsize hvalid⟩
  · obtain ⟨hsource, hvalid'⟩ := reached_iff.1 hu
    obtain ⟨hsource', hvalid''⟩ := reached_iff.1 hv
    exact consumedUntil_append hvalid hvalid' hvalid'' hsource (hsource'.trans hsource.symm) hle
      hle'

/-- Through characters of one, two and three bytes: a move to the end, one into a character, and
one by so much that the sum is no word. -/
theorem moves_through_accented :
    let source : Source := ⟨"xé☃".toList, 0⟩
    let t : Stream := ⟨source, 1, "é☃".toList⟩
    let u : Stream := ⟨source, 3, "☃".toList⟩
    let v : Stream := ⟨source, 6, []⟩
    (source.text.byteSize < 2 ^ 64 ∧ Reached source t ∧ Reached source u ∧ Reached source v ∧
        t.advance? 2 = some u) ∧
      u.advance? 3 = some v ∧ u.advance? 2 = none ∧
      u.advance? (0xfffffffffffffffe : UInt64).toNat = none ∧
      t.consumedUntil u ++ u.consumedUntil v = "é☃".toList ∧ v.consumedUntil u = [] := by
  intro source t u v
  have hsize : source.text.byteSize < 2 ^ 64 := by decide
  have hu : t.advance? (2 : UInt64).toNat = some u := rfl
  have ht : Reached source t :=
    Reached.start.advance? (show (start source).advance? 1 = some t from rfl)
  have hreached : Reached source u := ht.advance? hu
  have hv : Reached source v := hreached.advance (show u.advance 3 = .ok v from rfl)
  obtain ⟨-, hcompose, -, -, -, happend, -⟩ := moves_compose hsize ht
  obtain ⟨-, -, -, -, -, -, hempty, -⟩ := moves_compose hsize hv
  refine ⟨⟨hsize, ht, hreached, hv, hu⟩, (hcompose 2 3 u hu).1, (hcompose 2 2 u hu).2.2 ?_,
    (hcompose 2 0xfffffffffffffffe u hu).1, ?_, hempty u hreached (by decide)⟩
  · exact .inr (.inr (by decide))
  · exact (happend u v hreached hv (by decide) (by decide)).1

end Stream

end Descent
