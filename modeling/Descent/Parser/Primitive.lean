import Descent.Parser.Basic

/-! Parsers that look at the text itself, and those that only look.

The reading ones either find a beginning of the remaining text and stand after
it, or fail where they stood. `lookAhead` and `notFollowedBy` ask another parser
and stay; `recognize` keeps the text that another parser passed over. -/
namespace Descent.Parser
variable {ω σ α β γ : Type}

/-- Finds exactly this text. -/
def literal (expected : Text) : Parser ω σ Text := fun s t w =>
  match Text.after? expected t.rest with
  | some rest => accept s { t with offset := t.offset + expected.byteSize, rest } expected w
  | none => reject s t [s!"expected \"{String.ofList expected}\""] w

/-- Finds the longest beginning whose characters all satisfy the predicate. -/
def takeWhile (keep : Char → Bool) : Parser ω σ Text := fun s t w =>
  let taken := t.rest.takeWhile keep
  accept s { t with offset := t.offset + Text.byteSize taken, rest := t.rest.dropWhile keep } taken w

/-- Finds the next character, whatever it is. -/
def anyChar : Parser ω σ Char := fun s t w =>
  match t.rest with
  | c :: rest => accept s { t with offset := t.offset + c.utf8Size, rest } c w
  | [] => reject s t ["unexpected end of input"] w

/-- Finds the end of the text. -/
def endOfInput : Parser ω σ Unit := fun s t w =>
  if t.atEnd then accept s t () w else reject s t ["expected end of input"] w

/-- Tells where the stream stands. -/
def position : Parser ω σ Location := fun s t w => accept s t t.location w

/-- Finds what `p` finds, and stays before it. A failure keeps its own place. -/
def lookAhead (p : Parser ω σ α) : Parser ω σ α := fun s t w =>
  andThen (p s t w) fun value s' _ w => accept s' t value w

/-- Succeeds where `p` fails, and stays, with the state as it was. -/
def notFollowedBy (p : Parser ω σ α) : Parser ω σ Unit := fun s t w =>
  (p s t w).next fun reply w =>
    match reply.outcome with
    | .ok _ => reject s t [s!"unexpected \"{String.ofList (t.consumedUntil reply.stream)}\""] w
    | .error _ => accept s t () w

/-- Finds the text which `p` passes over. -/
def recognize (p : Parser ω σ α) : Parser ω σ Text := fun s t w =>
  andThen (p s t w) fun _ s' u w => accept s' u (t.consumedUntil u) w

theorem recognize_of_accept {p : Parser ω σ α} {s s' : σ} {t : Stream} {w w' : ω}
    {taken rest : Text} {v : α} (hrest : t.rest = taken ++ rest)
    (h : p s t w = accept s' (t.past taken rest) v w') :
    recognize p s t w = accept s' (t.past taken rest) taken w' := by
  simp only [recognize, h, andThen, accept, Result.next_done, Stream.consumedUntil_past hrest]

theorem recognize_of_reject {p : Parser ω σ α} {s s' : σ} {t u : Stream} {w w' : ω}
    {messages : List String} (h : p s t w = reject s' u messages w') :
    recognize p s t w = reject s' u messages w' := by
  simp only [recognize, h, andThen, reject, Result.next_done]

/-! ### Moving by hand -/

/-- Finds the next `n` bytes as text. -/
def take (n : Nat) : Parser ω σ Text := fun s t w =>
  match t.advance? n with
  | some u => accept s u (t.consumedUntil u) w
  | none => reject s t [s!"cannot take {n}"] w

/-- Moves by `n` bytes, which have to be there. -/
def advance (n : Nat) : Parser ω σ Nat := fun s t w =>
  match t.advance n with
  | .ok u => accept s u n w
  | .error cause => .fault cause w

/-- Goes back to the beginning of the source. -/
def rewind : Parser ω σ Unit := fun s t w => accept s (Stream.start t.source) () w

end Descent.Parser
