import Descent.Proofs.Coupling.Lockstep

/-! Moves and slices that are checked.

The parsers that read move by sizes that they know to be there and take texts that they
know to be whole, so nothing is checked. Here everything is: a stream is its source and
its offset, what remains is cut out of the source, a move ends where a stream can stand,
and the text between two streams has both ends at characters. What is out of range is a
fault. On valid streams the checks find nothing (`checkedReading_eq`,
`checkedRecognize_eq`, `checkedNotFollowedBy_eq`). -/
namespace Descent

namespace Stream

/-- What remains, cut out of the source. -/
def remaining? (t : Stream) : Option Text := Text.dropBytes? t.offset t.source.text

/-- Moved by `n` bytes, seen from the beginning of the source. -/
def moved? (t : Stream) (n : ℕ) : Option Stream := (start t.source).advance? (t.offset + n)

/-- The text between a stream and a later one, cut out of the source at both ends. -/
def between? (t later : Stream) : Option Text :=
  if later.offset ≤ t.offset then some []
  else t.remaining?.bind fun tail =>
    (Text.dropBytes? (later.offset - t.offset) tail).map fun _ =>
      Text.takeBytes (later.offset - t.offset) tail

/-- Where a parser that began at a stream may leave it: at a place of the same source,
and not before the stream, if it has to go forward. -/
structure Leads (forward : Prop) (t u : Stream) : Prop where
  valid : u.Valid
  source_eq : u.source = t.source
  offset_le : forward → t.offset ≤ u.offset

variable {forward : Prop} {t u v : Stream}

theorem Leads.refl (h : t.Valid) : Leads forward t t := ⟨h, rfl, fun _ => le_rfl⟩

theorem Leads.trans (h : Leads forward t u) (h' : Leads forward u v) : Leads forward t v :=
  ⟨h'.valid, h'.source_eq.trans h.source_eq, fun hf => (h.offset_le hf).trans (h'.offset_le hf)⟩

theorem Leads.past (h : Leads forward t u) {taken rest : Text} (hrest : u.rest = taken ++ rest) :
    Leads forward t (u.past taken rest) :=
  h.trans ⟨past_valid h.valid hrest, rfl, fun _ => Nat.le_add_right _ _⟩

theorem Leads.start (h : Leads forward t u) (hback : ¬forward) :
    Leads forward t (.start u.source) :=
  ⟨start_valid _, h.source_eq, fun hf => (hback hf).elim⟩

theorem remaining?_eq (h : t.Valid) : t.remaining? = some t.rest := by
  obtain ⟨before, htext, hoffset⟩ := h
  rw [remaining?, htext, hoffset, Text.dropBytes?_byteSize]

/-- A stream that was moved by bytes is valid. -/
theorem advance_valid (h : t.Valid) {n : ℕ} (hu : t.advance n = .ok u) : u.Valid :=
  (advance?_valid h (advance_eq_ok_iff.1 hu)).2

/-- Where a parser can stand in what remains, there is a place in the source. -/
theorem advance_of_leads (h : Leads forward (start ⟨t.rest, t.source.tag⟩) u) :
    ∃ taken rest, t.rest = taken ++ rest ∧ t.advance u.offset = .ok (t.past taken rest) := by
  obtain ⟨taken, htext, hoffset⟩ := h.valid
  have hrest : t.rest = taken ++ u.rest := by
    rw [h.source_eq] at htext
    exact htext
  exact ⟨taken, u.rest, hrest, by rw [advance, hoffset, advance?_byteSize hrest]⟩

/-- A move is one from the beginning of the source. -/
theorem moved?_eq (h : t.Valid) (n : ℕ) : t.moved? n = t.advance? n := by
  obtain ⟨before, htext, hoffset⟩ := h
  simp only [moved?, advance?, start, htext, hoffset, Text.dropBytes?_add, Nat.zero_add]

/-- Moving over what comes next stays in range. -/
theorem moved?_past (h : t.Valid) {taken rest : Text} (hrest : t.rest = taken ++ rest) :
    t.moved? taken.byteSize = some (t.past taken rest) := by
  rw [moved?_eq h, advance?_byteSize hrest]

/-- Between two valid streams is a text, and it is what one passes over. -/
theorem between?_eq (ht : t.Valid) (hu : u.Valid) (hsource : u.source = t.source) :
    t.between? u = some (t.consumedUntil u) := by
  unfold between?
  split
  · next hle => rw [consumedUntil_of_le hle]
  · next hlt =>
    obtain ⟨between, hrest, heq⟩ := exists_past ht hu hsource (by omega)
    have hsize : u.offset - t.offset = between.byteSize := by
      rw [heq, past, Nat.add_sub_cancel_left]
    simp only [remaining?_eq ht, Option.bind_some, hrest, hsize, Text.dropBytes?_byteSize,
      Option.map_some, consumedUntil]

end Stream

namespace Parser
variable {ω σ α β γ : Type}

/-- Goes on with what is in range. -/
@[inline] def inRange (found : Option β) (cause : Fault) (k : β → ω → Result ω γ) (w : ω) :
    Result ω γ :=
  match found with
  | some b => k b w
  | none => .fault cause w

@[simp] theorem inRange_some (b : β) (cause : Fault) (k : β → ω → Result ω γ) (w : ω) :
    inRange (some b) cause k w = k b w := rfl

/-- Reads what is cut out of the source, moves through the source, and takes the text
that was passed. -/
def checkedReading (f : Reader α) : Parser ω σ α := fun s t =>
  inRange t.remaining? ⟨t.offset, 0⟩ fun text =>
    match f text with
    | .ok (taken, _, v) =>
      inRange (t.moved? taken.byteSize) ⟨t.offset, taken.byteSize⟩ fun u =>
        inRange (t.between? u) ⟨t.offset, taken.byteSize⟩ fun _ => accept s u v
    | .error messages => reject s t messages

/-- The text which `p` passes over, taken after a failure too. -/
def checkedRecognize (p : Parser ω σ α) : Parser ω σ Text := fun s t w =>
  (p s t w).next fun reply =>
    inRange (t.between? reply.stream) ⟨t.offset, reply.stream.offset - t.offset⟩ fun passed =>
      match reply.outcome with
      | .ok _ => accept reply.state reply.stream passed
      | .error messages => reject reply.state reply.stream messages

/-- Names the text which `p` passes over. -/
def checkedNotFollowedBy (p : Parser ω σ α) : Parser ω σ Unit := fun s t w =>
  (p s t w).next fun reply =>
    match reply.outcome with
    | .ok _ =>
      inRange (t.between? reply.stream) ⟨t.offset, reply.stream.offset - t.offset⟩ fun passed =>
        reject s t [s!"unexpected \"{String.ofList passed}\""]
    | .error _ => accept s t ()

variable {s : σ} {t : Stream} {w : ω}

theorem checkedReading_eq {f : Reader α} (hf : f.Splits) (ht : t.Valid) :
    checkedReading f s t w = reading f s t w := by
  simp only [checkedReading, reading, Stream.remaining?_eq ht, inRange_some]
  cases hread : f t.rest with
  | error messages => rfl
  | ok found =>
    obtain ⟨taken, rest, v⟩ := found
    have hrest := hf hread
    simp only [Stream.moved?_past ht hrest, inRange_some,
      Stream.between?_eq ht (Stream.past_valid ht hrest) rfl, replied]

variable {p : Parser ω σ α}

theorem checkedRecognize_eq (ht : t.Valid)
    (hp : (p s t w).Ends (fun reply _ => t.Leads False reply.stream) (fun _ => True) True) :
    checkedRecognize p s t w = recognize p s t w := by
  simp only [checkedRecognize, recognize, andThen]
  cases hr : p s t w with
  | done reply w' =>
    rw [hr] at hp
    simp only [Result.next_done, Stream.between?_eq ht hp.valid hp.source_eq, inRange_some]
    cases reply.outcome <;> rfl
  | fault f w' => rfl
  | outOfFuel => rfl

theorem checkedNotFollowedBy_eq (ht : t.Valid)
    (hp : (p s t w).Ends (fun reply _ => t.Leads False reply.stream) (fun _ => True) True) :
    checkedNotFollowedBy p s t w = notFollowedBy p s t w := by
  simp only [checkedNotFollowedBy, notFollowedBy]
  cases hr : p s t w with
  | done reply w' =>
    rw [hr] at hp
    simp only [Result.next_done]
    cases reply.outcome with
    | ok v => simp only [Stream.between?_eq ht hp.valid hp.source_eq, inRange_some]
    | error messages => rfl
  | fault f w' => rfl
  | outOfFuel => rfl

end Parser

namespace Grammar
open Descent.Parser

/-- A layer whose own moves and slices are checked. -/
def checkedLayer {ω : Type} (parts : Parts ω) : Grammar → Parser ω Value Value
  | .literal text => Parser.map ofText (checkedReading (literalReader text))
  | .pattern p => Parser.map ofText (checkedReading (patternReader p))
  | .takeWhile keep => Parser.map ofText (checkedReading (takeWhileReader keep))
  | .anyChar => Parser.map (fun c => ofText [c]) (checkedReading anyCharReader)
  | .take k => Parser.map ofText (checkedReading (takeReader k))
  | .recognize p => Parser.map ofText (checkedRecognize (parts.apply p))
  | .notFollowedBy p => Parser.map (fun _ => .null) (checkedNotFollowedBy (parts.apply p))
  | g => layer parts g

end Grammar

namespace Coupling
open Descent.Parser Descent.Grammar
variable {ω ω' α : Type} {W : ω → ω' → Prop} {forward faults : Prop}

/-- Machines in lockstep on valid streams. -/
abbrev onValid (W : ω → ω' → Prop) (forward faults : Prop) : Coupling ω ω' :=
  guarded W (Stream.Leads forward) faults (pure 0)

theorem onValid_lawful : (onValid W forward faults).Lawful :=
  guarded_lawful fun ha hrest => ha.past hrest

/-- Where it makes no difference, the right machine may check. -/
theorem Follows.checked {p : Parser ω Value α} {q r : ℕ → Parser ω' Value α}
    (h : (onValid W forward faults).Follows p q)
    (heq : ∀ s t w w', t.Valid → W w w' → r 0 s t w' = q 0 s t w') :
    (onValid W forward faults).Follows p r := by
  rw [follows_guarded] at h ⊢
  exact fun base s t w w' ha hw => (h base s t w w' ha hw).imp_left fun hmatches =>
    hmatches.congr (Filter.eventually_pure.mpr (heq s t w w' ha.valid hw))

theorem Follows.checkedReading {f : Reader α} (hf : f.Splits) :
    (onValid W forward faults).Follows (Parser.reading f) fun _ => Parser.checkedReading f :=
  (Follows.reading onValid_lawful hf).checked fun _ _ _ _ ht _ => checkedReading_eq hf ht

/-- What the right machine comes to on a valid stream. -/
theorem Follows.right_leads {p : Parser ω Value α} {q : ℕ → Parser ω' Value α}
    (h : (onValid W forward faults).Follows p q) (s : Value) {t : Stream} {w : ω} {w' : ω'}
    (ht : t.Valid) (hw : W w w') :
    (q 0 s t w').Ends (fun reply _ => t.Leads False reply.stream) (fun _ => True) True := by
  obtain ⟨hmatches, hends⟩ := follows_guarded.mp h t s t w w' (.refl ht) hw
  cases hp : p s t w with
  | done reply w₁ =>
    rw [hp] at hmatches hends
    obtain ⟨w₁', hd, _⟩ := hmatches
    have hd : q 0 s t w' = .done reply w₁' := Filter.eventually_pure.mp hd
    rw [hd]
    exact ⟨hends.valid, hends.source_eq, False.elim⟩
  | fault f w₁ =>
    rw [hp] at hmatches
    obtain ⟨w₁', hd, _⟩ := hmatches
    have hd : q 0 s t w' = .fault f w₁' := Filter.eventually_pure.mp hd
    rw [hd]
    trivial
  | outOfFuel =>
    rw [hp] at hmatches
    have hd : q 0 s t w' = .outOfFuel :=
      Filter.eventually_pure.mp (hmatches (Filter.eventually_pure.mpr rfl))
    rw [hd]
    trivial

theorem Follows.checkedRecognize {p : Parser ω Value α} {q : ℕ → Parser ω' Value α}
    (h : (onValid W forward faults).Follows p q) :
    (onValid W forward faults).Follows (Parser.recognize p)
      fun m => Parser.checkedRecognize (q m) :=
  (h.recognize onValid_lawful).checked (r := fun m => Parser.checkedRecognize (q m))
    fun s _ _ _ ht hw => checkedRecognize_eq ht (h.right_leads s ht hw)

theorem Follows.checkedNotFollowedBy {p : Parser ω Value α} {q : ℕ → Parser ω' Value α}
    (h : (onValid W forward faults).Follows p q) :
    (onValid W forward faults).Follows (Parser.notFollowedBy p)
      fun m => Parser.checkedNotFollowedBy (q m) :=
  (h.notFollowedBy onValid_lawful).checked (r := fun m => Parser.checkedNotFollowedBy (q m))
    fun s _ _ _ ht hw => checkedNotFollowedBy_eq ht (h.right_leads s ht hw)

/-- **A layer with checks follows the layer without**, on valid streams. -/
theorem checkedLayer_follows {R N : Grammar → Grammar → Prop} {parts : Parts ω}
    {parts' : ℕ → Parts ω'} {g g' : Grammar}
    (hparts : (onValid W forward faults).PartsFollow R N parts parts' g') (hg : Like R N g g')
    (hforward : g' = .rewind → ¬forward) (hfaults : ∀ n, g' = .advance n → faults) :
    (onValid W forward faults).Follows (layer parts g) fun m => checkedLayer (parts' m) g' := by
  have hlayer := layer_follows onValid_lawful hparts hg
    (guarded_equal.admits hfaults fun hrewind base t ha => ha.start (hforward hrewind))
    (escapes_of_isEmpty _ g')
  cases hg with
  | literal text =>
    simp only [layer, checkedLayer, literal_eq]
    exact (Follows.checkedReading (literalReader_splits text)).map ofText
  | pattern p =>
    simp only [layer, checkedLayer, pattern_eq]
    exact (Follows.checkedReading (patternReader_splits p)).map ofText
  | takeWhile keep =>
    simp only [layer, checkedLayer, takeWhile_eq]
    exact (Follows.checkedReading (takeWhileReader_splits keep)).map ofText
  | anyChar =>
    simp only [layer, checkedLayer, anyChar_eq]
    exact (Follows.checkedReading anyCharReader_splits).map _
  | take k =>
    simp only [layer, checkedLayer, take_eq]
    exact (Follows.checkedReading (takeReader_splits k)).map ofText
  | recognize h => exact (hparts.apply h).checkedRecognize.map ofText
  | notFollowedBy h => exact (hparts.apply h).checkedNotFollowedBy.map _
  | _ => exact hlayer

/-- The failure of a run is placed in its source. -/
theorem verdict_leads {source : Source} {reply : Reply Value α} {tripped : Option Excess}
    (h : (Stream.start source).Leads forward reply.stream) :
    (Stream.start source).Leads forward (verdict source reply tripped).stream := by
  cases tripped with
  | none => exact h
  | some e =>
    simp only [verdict]
    cases hmoved : (Stream.start source).advance? e.offset with
    | none => exact h
    | some u =>
      obtain ⟨taken, rest, hrest, _, rfl⟩ := Stream.past_of_advance? hmoved
      exact Stream.Leads.past (.refl (Stream.start_valid source)) hrest

section
variable {η η' : Type} {H : η → η' → Prop}
variable {p : Parser (World η) Value α} {q : ℕ → Parser (World η') Value α}

/-- A run begins at a valid stream, so its parser is at home. -/
theorem run_onValid (h : (onValid (World.Beside H) forward faults).Follows p q) (config : Config)
    (s : Value) (source : Source) {w : World η} {w' : World η'} (hw : w.Beside H w') :
    (run config p s source w).Matches (World.Beside H) (pure 0)
        (fun m => run config (q m) s source w') ∧
      (run config p s source w).Ends
        (fun reply _ => (Stream.start source).Leads forward reply.stream) (fun _ => faults)
        True := by
  have hstart : (Stream.start source).Leads forward (Stream.start source) :=
    .refl (Stream.start_valid source)
  simp only [run, ← hw.1]
  split
  · exact ⟨.done hw, hstart⟩
  · obtain ⟨hmatches, hends⟩ := follows_guarded.mp h _ s _ _ _ hstart
      (hw.mapLedger (Ledger.beginRun · config.maxRecursionDepth))
    constructor
    · refine .settle (hmatches.next (fun reply w₁ w₁' hw₁ => ?_) fun _ _ => id)
        fun w₁ w₁' hw₁ => hw₁.mapLedger _
      rw [hw₁.1]
      exact .done hw₁
    · refine .settle (hends.next fun reply w₁ hleads => ?_) (fun _ _ => id) fun _ => id
      exact verdict_leads hleads

/-- Where a run over what remains came to, the stream can move to. -/
theorem nestedRun_onValid (h : (onValid (World.Beside H) forward faults).Follows p q)
    (config : Config) :
    (onValid (World.Beside H) forward faults).Follows (nestedRun config p)
      fun m => nestedRun config (q m) := by
  rw [follows_guarded]
  intro base s t w w' ha hw
  obtain ⟨hmatches, hends⟩ := run_onValid h config s ⟨t.rest, t.source.tag⟩ hw
  constructor
  · refine hmatches.next (fun reply w₁ w₁' hw₁ => ?_) fun _ _ => id
    split
    · exact .done hw₁
    · split
      · exact .done hw₁
      · exact .fault hw₁
  · refine hends.next fun reply w₁ hleads => ?_
    split
    · exact ha
    · obtain ⟨taken, rest, hrest, hadvance⟩ := Stream.advance_of_leads hleads
      rw [hadvance]
      exact ha.past hrest

end

end Coupling

end Descent
