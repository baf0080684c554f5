import Descent.Parser.Pattern
import Descent.Parser.Primitive

/-! Parsers that read.

A reading parser looks at what remains and at nothing else: it takes a beginning of
it, or it fails where it stands. Literals, patterns, runs of characters, single
characters, numbers of bytes and the end of the text are all of this kind, and what
holds of `reading` holds of each of them. -/
namespace Descent.Parser
variable {ω σ α : Type}

/-- What a reading parser makes of the remaining text: what it takes, what it leaves
and its value, or the messages of its failure. -/
abbrev Reader (α : Type) := Text → Except (List String) (Text × Text × α)

/-- What is taken and what is left make up the text. -/
def Reader.Splits (f : Reader α) : Prop :=
  ∀ {text taken rest v}, f text = .ok (taken, rest, v) → text = taken ++ rest

/-- The reply to what a reading parser made of the text. -/
def replied (s : σ) (t : Stream) (made : Except (List String) (Text × Text × α)) (w : ω) :
    Result ω (Reply σ α) :=
  match made with
  | .ok (taken, rest, v) => accept s (t.past taken rest) v w
  | .error messages => reject s t messages w

def reading (f : Reader α) : Parser ω σ α := fun s t w => replied s t (f t.rest) w

/-! ### The readers -/

def literalReader (expected : Text) : Reader Text := fun text =>
  match Text.after? expected text with
  | some rest => .ok (expected, rest, expected)
  | none => .error [s!"expected \"{String.ofList expected}\""]

def takeWhileReader (keep : Char → Bool) : Reader Text := fun text =>
  .ok (text.takeWhile keep, text.dropWhile keep, text.takeWhile keep)

def anyCharReader : Reader Char
  | c :: rest => .ok ([c], rest, c)
  | [] => .error ["unexpected end of input"]

def endOfInputReader : Reader Unit
  | [] => .ok ([], [], ())
  | _ :: _ => .error ["expected end of input"]

def takeReader (n : Nat) : Reader Text := fun text =>
  match Text.dropBytes? n text with
  | some rest => .ok (Text.takeBytes n text, rest, Text.takeBytes n text)
  | none => .error [s!"cannot take {n}"]

def patternReader (p : Regex.Pattern) : Reader Text := fun text =>
  match p.program with
  | none => .error [s!"invalid pattern \"{p.source}\""]
  | some program =>
    match program.search text with
    | some found => .ok (text.take found.stop, text.drop found.stop,
        (text.take found.stop).drop found.start)
    | none => .error [s!"expected pattern \"{p.source}\""]

theorem literalReader_splits (expected : Text) : (literalReader expected).Splits := by
  intro text taken rest v h
  unfold literalReader at h
  split at h
  · next htext => cases h; exact Text.eq_append_of_after? htext
  · cases h

theorem takeWhileReader_splits (keep : Char → Bool) : (takeWhileReader keep).Splits := by
  intro text taken rest v h
  cases h
  exact List.takeWhile_append_dropWhile.symm

theorem anyCharReader_splits : anyCharReader.Splits := by
  intro text taken rest v h
  cases text with
  | nil => cases h
  | cons c text => cases h; rfl

theorem endOfInputReader_splits : endOfInputReader.Splits := by
  intro text taken rest v h
  cases text with
  | nil => cases h; rfl
  | cons c text => cases h

theorem takeReader_splits (n : Nat) : (takeReader n).Splits := by
  intro text taken rest v h
  unfold takeReader at h
  split at h
  · next htext =>
    cases h
    obtain ⟨taken, rfl, rfl⟩ := Text.eq_append_of_dropBytes? htext
    rw [Text.takeBytes_byteSize]
  · cases h

theorem patternReader_splits (p : Regex.Pattern) : (patternReader p).Splits := by
  intro text taken rest v h
  unfold patternReader at h
  split at h
  · cases h
  · split at h
    · cases h; exact (List.take_append_drop _ _).symm
    · cases h

/-! ### The parsers -/

theorem literal_eq (expected : Text) :
    (literal expected : Parser ω σ Text) = reading (literalReader expected) := by
  funext s t w
  unfold literal reading literalReader
  cases Text.after? expected t.rest <;> rfl

theorem takeWhile_eq (keep : Char → Bool) :
    (takeWhile keep : Parser ω σ Text) = reading (takeWhileReader keep) := rfl

theorem anyChar_eq : (anyChar : Parser ω σ Char) = reading anyCharReader := by
  funext s t w
  unfold anyChar reading
  cases h : t.rest <;> simp [anyCharReader, replied, Stream.past]

theorem endOfInput_eq : (endOfInput : Parser ω σ Unit) = reading endOfInputReader := by
  funext s t w
  obtain ⟨source, offset, rest⟩ := t
  cases rest <;> rfl

theorem take_eq (n : Nat) : (take n : Parser ω σ Text) = reading (takeReader n) := by
  funext s t w
  unfold take reading takeReader Stream.advance?
  cases h : Text.dropBytes? n t.rest with
  | none => rfl
  | some rest =>
    obtain ⟨taken, htaken, rfl⟩ := Text.eq_append_of_dropBytes? h
    simp [htaken, replied, Text.takeBytes_byteSize, Stream.past, Stream.consumedUntil]

theorem pattern_eq (p : Regex.Pattern) :
    (pattern p : Parser ω σ Text) = reading (patternReader p) := by
  funext s t w
  unfold pattern reading patternReader
  cases p.program with
  | none => rfl
  | some program =>
    dsimp only
    cases program.search t.rest <;> rfl

/-- The result of moving by hand, which has no failure: where it cannot move there is a
fault. -/
def moved (n : Nat) (s : σ) (t : Stream) (left : Option Text) (w : ω) : Result ω (Reply σ Nat) :=
  match left with
  | some rest => accept s { t with offset := t.offset + n, rest } n w
  | none => .fault ⟨t.offset, n⟩ w

theorem advance_eq (n : Nat) : (advance n : Parser ω σ Nat) = fun s t w =>
    moved n s t (Text.dropBytes? n t.rest) w := by
  funext s t w
  unfold advance Stream.advance Stream.advance?
  cases Text.dropBytes? n t.rest <;> rfl

end Descent.Parser
