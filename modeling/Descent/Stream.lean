import Descent.Location

/-! Streams: a source text and how far it has been read.

A stream is a plain value, so keeping one is all it takes to come back to it.
`advance?` moves it by a number of bytes and refuses to leave the source or to
stop inside a character; `advance` is the same for callers that hold the amount
to be right, and a wrong amount is a `Fault`. Two streams are equal when they
stand at the same offset of the same source, and two sources with equal text are
still two sources. -/
namespace Descent

/-- A text to be read. The tag tells apart sources of equal text. -/
structure Source where
  text : Text
  tag : Nat := 0

/-- A reading position: `rest` is the text from `offset` on. -/
structure Stream where
  source : Source
  offset : Nat
  rest : Text

/-- A stream was moved to a place where it cannot stand. -/
structure Fault where
  offset : Nat
  amount : Nat
deriving BEq, Repr

namespace Fault

def message (f : Fault) : String :=
  s!"stream advanced by {f.amount} bytes from offset {f.offset} past a char boundary or the end"

end Fault

namespace Stream

/-- The beginning of a source. -/
def start (source : Source) : Stream := ⟨source, 0, source.text⟩

/-- The offset and what remains belong together. -/
def Valid (t : Stream) : Prop :=
  ∃ before : Text, t.source.text = before ++ t.rest ∧ t.offset = before.byteSize

instance : BEq Stream where
  beq t u := t.source.tag == u.source.tag && t.offset == u.offset

/-- Nothing remains. -/
def atEnd (t : Stream) : Bool := t.rest.isEmpty

/-- Moves by `n` bytes; `none` if that leaves the source or splits a character. -/
def advance? (t : Stream) (n : Nat) : Option Stream :=
  (t.rest.dropBytes? n).map fun rest => { t with offset := t.offset + n, rest }

/-- Moves by `n` bytes, which have to be there. -/
def advance (t : Stream) (n : Nat) : Except Fault Stream :=
  match t.advance? n with
  | some u => .ok u
  | none => .error ⟨t.offset, n⟩

/-- Moves over the first `n` characters, or to the end if there are fewer. -/
def skip (t : Stream) (n : Nat) : Stream :=
  { t with offset := t.offset + Text.byteSize (t.rest.take n), rest := t.rest.drop n }

/-- After `taken`, when `rest` remains. -/
def past (t : Stream) (taken rest : Text) : Stream :=
  { t with offset := t.offset + taken.byteSize, rest }

/-- The text between a stream and a later one; empty if it is not later. -/
def consumedUntil (t later : Stream) : Text := t.rest.takeBytes (later.offset - t.offset)

def location (t : Stream) : Location := Location.ofOffset t.source.text t.offset

theorem start_valid (source : Source) : (start source).Valid := ⟨[], rfl, rfl⟩

/-- What was moved over is what lies between. -/
theorem consumedUntil_past {t : Stream} {taken rest : Text} (hrest : t.rest = taken ++ rest) :
    t.consumedUntil (t.past taken rest) = taken := by
  simp only [consumedUntil, past, Nat.add_sub_cancel_left, hrest, Text.takeBytes_byteSize]

/-- Towards a stream that is not later there is nothing: no character fits into no bytes. -/
theorem consumedUntil_of_le {t u : Stream} (h : u.offset ≤ t.offset) : t.consumedUntil u = [] := by
  rw [consumedUntil, Nat.sub_eq_zero_of_le h]
  exact Text.takeBytes_byteSize [] t.rest

/-- Moving over nothing. -/
theorem past_nil {t : Stream} {rest : Text} (h : t.rest = rest) : t.past [] rest = t := by
  subst h
  rfl

/-- Moving over one text and then over another. -/
theorem past_past (t : Stream) (x y rest rest' : Text) :
    (t.past x rest).past y rest' = t.past (x ++ y) rest' := by
  simp only [past, Text.byteSize_append, Nat.add_assoc]

/-- Moving over what comes next keeps a stream valid. -/
theorem past_valid {t : Stream} {taken rest : Text} (h : t.Valid) (hrest : t.rest = taken ++ rest) :
    (t.past taken rest).Valid := by
  obtain ⟨before, htext, hoffset⟩ := h
  refine ⟨before ++ taken, ?_, ?_⟩
  · simp [past, htext, hrest]
  · simp [past, hoffset]

/-- A move by bytes passes over whole characters. -/
theorem past_of_advance? {t u : Stream} {n : Nat} (h : t.advance? n = some u) :
    ∃ taken rest, t.rest = taken ++ rest ∧ taken.byteSize = n ∧ u = t.past taken rest := by
  obtain ⟨rest, hrest, rfl⟩ := Option.map_eq_some_iff.mp h
  obtain ⟨taken, htaken, rfl⟩ := Text.eq_append_of_dropBytes? hrest
  exact ⟨taken, rest, htaken, rfl, rfl⟩

/-- A move by bytes leads to a valid stream of the source. -/
theorem advance?_valid {t u : Stream} {n : Nat} (h : t.Valid) (hu : t.advance? n = some u) :
    u.source = t.source ∧ u.Valid := by
  obtain ⟨taken, rest, hrest, -, rfl⟩ := past_of_advance? hu
  exact ⟨rfl, past_valid h hrest⟩

theorem advance_eq_ok_iff {t u : Stream} {n : Nat} :
    t.advance n = .ok u ↔ t.advance? n = some u := by
  unfold advance
  cases t.advance? n <;> simp

theorem advance_eq_error_iff {t : Stream} {n : Nat} {cause : Fault} :
    t.advance n = .error cause ↔ t.advance? n = none ∧ cause = ⟨t.offset, n⟩ := by
  unfold advance
  cases t.advance? n <;> simp [eq_comm]

/-- What comes next can be moved over. -/
theorem advance?_byteSize {t : Stream} {taken rest : Text} (hrest : t.rest = taken ++ rest) :
    t.advance? taken.byteSize = some (t.past taken rest) := by
  rw [advance?, hrest, Text.dropBytes?_byteSize, Option.map_some, past]

/-- A valid stream is where its offset leads from the beginning. -/
theorem start_advance? {t : Stream} (h : t.Valid) :
    (start t.source).advance? t.offset = some t := by
  obtain ⟨before, htext, hoffset⟩ := h
  simp only [advance?, start, htext, hoffset, Text.dropBytes?_byteSize, Option.map_some, Nat.zero_add]
  rw [← hoffset]

/-- A valid stream stands within its source. -/
theorem offset_le {t : Stream} (h : t.Valid) : t.offset ≤ t.source.text.byteSize := by
  obtain ⟨before, htext, hoffset⟩ := h
  rw [htext, Text.byteSize_append, hoffset]
  exact Nat.le_add_right _ _

/-- A valid stream is where its offset says. -/
theorem eq_of_offset {t u : Stream} (ht : t.Valid) (hu : u.Valid) (hsource : t.source = u.source)
    (hoffset : t.offset = u.offset) : t = u := by
  have h := start_advance? ht
  rw [hsource, hoffset, start_advance? hu] at h
  exact (Option.some.inj h).symm

/-- Of two valid streams of one source the one further on is past what lies between. -/
theorem exists_past {t u : Stream} (ht : t.Valid) (hu : u.Valid) (hsource : u.source = t.source)
    (hle : t.offset ≤ u.offset) :
    ∃ between, t.rest = between ++ u.rest ∧ u = t.past between u.rest := by
  obtain ⟨before, htext, hoffset⟩ := id ht
  obtain ⟨before', htext', hoffset'⟩ := id hu
  -- both have passed a part of the same text
  rw [hsource, htext] at htext'
  obtain ⟨between, rfl, hrest⟩ := Text.exists_between htext' (by omega)
  refine ⟨between, hrest, eq_of_offset hu (past_valid ht hrest) hsource ?_⟩
  rw [hoffset', Text.byteSize_append, ← hoffset, past]

end Stream

end Descent
