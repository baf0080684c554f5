import Descent.Report
import Descent.Text.Decimal

/-! Reports from JSON.

`Report.ofJson?` reads a report from left to right and stops at the first
problem, whose kind is a `ReadError`: the text is no JSON (`malformed`), it ends
too early (`truncated`), or it is JSON of the wrong shape (`mismatched`). A
report is an object with the five fields in any order, where other fields are
passed over and a field is refused the second time its name comes up; or it is
an array of the five values in their order. Numbers are naturals below 2^64,
written in digits alone. -/
namespace Descent

/-- The kind of the first problem of a text that is no report. -/
inductive ReadError where
  /-- Not JSON, or more than one value. -/
  | malformed
  /-- The beginning of JSON. -/
  | truncated
  /-- JSON, but of the wrong shape. -/
  | mismatched
deriving BEq, DecidableEq, Repr

namespace Report

/-- Passes over blanks. -/
def skipBlank (t : Text) : Text :=
  t.dropWhile fun c => c = ' ' || c = '\t' || c = '\n' || c = '\r'

/-! ### Strings -/

/-- The value of four hexadecimal digits. -/
def hex4? (a b c d : Char) : Option Nat :=
  match Text.hexValue? a, Text.hexValue? b, Text.hexValue? c, Text.hexValue? d with
  | some a, some b, some c, some d => some (((a * 16 + b) * 16 + c) * 16 + d)
  | _, _, _, _ => none

/-- What a backslash and one more character stand for. -/
def unescape? (c : Char) : Option Char :=
  if c = '"' then some '"'
  else if c = '\\' then some '\\'
  else if c = '/' then some '/'
  else if c = 'b' then some '\x08'
  else if c = 'f' then some '\x0c'
  else if c = 'n' then some '\n'
  else if c = 'r' then some '\r'
  else if c = 't' then some '\t'
  else none

def isHighSurrogate (n : Nat) : Bool := 0xD800 ≤ n && n ≤ 0xDBFF

def isLowSurrogate (n : Nat) : Bool := 0xDC00 ≤ n && n ≤ 0xDFFF

/-- The character that a pair of surrogates stands for. -/
def joinSurrogates (high low : Nat) : Char :=
  Char.ofNat ((high - 0xD800) * 0x400 + (low - 0xDC00) + 0x10000)

/-- A string from after its opening quote. `high` is a first surrogate that waits for
the second, and `acc` are the characters before in reverse. -/
def stringFrom (high : Option Nat) (acc : Text) : Text → Except ReadError (Text × Text)
  | [] => .error .truncated
  | ['\\'] => .error .truncated
  | '\\' :: 'u' :: a :: b :: c :: d :: rest =>
    match hex4? a b c d, high with
    | none, _ => .error .malformed
    | some n, some h =>
      if isLowSurrogate n then stringFrom none (joinSurrogates h n :: acc) rest
      else .error .malformed
    | some n, none =>
      if isLowSurrogate n then .error .malformed
      else if isHighSurrogate n then stringFrom (some n) acc rest
      else stringFrom none (Char.ofNat n :: acc) rest
  | '\\' :: 'u' :: short =>
    .error (if Text.byteSize short < 4 then .truncated else .malformed)
  | '\\' :: c :: rest =>
    match high, unescape? c with
    | none, some e => stringFrom none (e :: acc) rest
    | _, _ => .error .malformed
  | c :: rest =>
    if high.isSome then .error .malformed
    else if c = '"' then .ok (acc.reverse, rest)
    else if c.toNat < 32 then .error .malformed
    else stringFrom none (c :: acc) rest

/-- Passes over a string from after its opening quote, where surrogates may stand alone. -/
def skipString : Text → Except ReadError Text
  | [] => .error .truncated
  | ['\\'] => .error .truncated
  | '\\' :: 'u' :: a :: b :: c :: d :: rest =>
    if (hex4? a b c d).isSome then skipString rest else .error .malformed
  | '\\' :: 'u' :: short =>
    .error (if Text.byteSize short < 4 then .truncated else .malformed)
  | '\\' :: c :: rest => if (unescape? c).isSome then skipString rest else .error .malformed
  | c :: rest =>
    if c = '"' then .ok rest
    else if c.toNat < 32 then .error .malformed
    else skipString rest

/-! ### Numbers -/

/-- A number that starts here: its value if it is written as a natural, else `none`. -/
def number (t : Text) : Except ReadError (Option Nat × Text) := do
  let negative := t.head? == some '-'
  let t := if negative then t.drop 1 else t
  let whole := t.takeWhile Char.isDigit
  let t := t.dropWhile Char.isDigit
  if whole.isEmpty then .error (if t.isEmpty then .truncated else .malformed)
  if whole.head? == some '0' && 1 < whole.length then .error .malformed
  let (fraction, t) ← match t with
    | '.' :: t =>
      let fraction := t.takeWhile Char.isDigit
      let t := t.dropWhile Char.isDigit
      if fraction.isEmpty then .error (if t.isEmpty then .truncated else .malformed)
      pure (fraction, t)
    | t => pure ([], t)
  let (exponent, t) ← match t with
    | c :: t =>
      if c = 'e' || c = 'E' then
        let (down, t) := match t with
          | '-' :: t => (true, t)
          | '+' :: t => (false, t)
          | t => (false, t)
        let exponent := t.takeWhile Char.isDigit
        let t := t.dropWhile Char.isDigit
        if exponent.isEmpty then .error (if t.isEmpty then .truncated else .malformed)
        let size : Int := Text.decimalValue exponent
        pure (some (if down then -size else size), t)
      else pure (none, c :: t)
    | [] => pure (none, [])
  let decimal := (whole.foldl Text.Decimal.addWhole {}).addFraction fraction
  if (decimal.scale (exponent.getD 0)).exceedsDouble then .error .malformed
  if negative || !fraction.isEmpty || exponent.isSome || decimal.exponent ≠ 0 then pure (none, t)
  else pure (some decimal.significand, t)

/-- Passes over the digits of a number, of which there has to be one. -/
def skipDigits (t : Text) : Except ReadError Text :=
  match t with
  | c :: rest => if c.isDigit then .ok (rest.dropWhile Char.isDigit) else .error .malformed
  | [] => .error .malformed

/-- Passes over a number from after its sign. -/
def skipNumber (t : Text) : Except ReadError Text := do
  let rest ← skipDigits t
  if t.head? == some '0' && (t.drop 1).length ≠ rest.length then .error .malformed
  let rest ← match rest with
    | '.' :: rest => skipDigits rest
    | rest => pure rest
  match rest with
  | c :: rest =>
    if c = 'e' || c = 'E' then
      match rest with
      | '-' :: rest => skipDigits rest
      | '+' :: rest => skipDigits rest
      | rest => skipDigits rest
    else pure (c :: rest)
  | [] => pure []

/-! ### Other values -/

/-- Passes over the rest of a word. -/
def skipWord : (word : Text) → Text → Except ReadError Text
  | [], t => .ok t
  | _ :: _, [] => .error .truncated
  | w :: word, c :: t => if w = c then skipWord word t else .error .malformed

mutual

/-- Passes over a value of any shape. -/
def skipValue : (fuel : Nat) → Text → Except ReadError Text
  | 0, _ => .error .malformed
  | fuel + 1, t =>
    match skipBlank t with
    | [] => .error .truncated
    | c :: rest =>
      match c with
      | 'n' => skipWord ['u', 'l', 'l'] rest
      | 't' => skipWord ['r', 'u', 'e'] rest
      | 'f' => skipWord ['a', 'l', 's', 'e'] rest
      | '-' => skipNumber rest
      | '"' => skipString rest
      | '[' => skipItems fuel true rest
      | '\x7b' => skipMembers fuel true rest
      | _ => if c.isDigit then skipNumber (c :: rest) else .error .malformed

/-- Passes over what is left of an array. -/
def skipItems : (fuel : Nat) → (first : Bool) → Text → Except ReadError Text
  | 0, _, _ => .error .malformed
  | fuel + 1, first, t =>
    match skipBlank t with
    | [] => .error .truncated
    | ']' :: rest => .ok rest
    | c :: rest =>
      if first then do skipItems fuel false (← skipValue fuel (c :: rest))
      else if c = ',' then do skipItems fuel false (← skipValue fuel rest)
      else .error .malformed

/-- Passes over what is left of an object. -/
def skipMembers : (fuel : Nat) → (first : Bool) → Text → Except ReadError Text
  | 0, _, _ => .error .malformed
  | fuel + 1, first, t =>
    match skipBlank t with
    | [] => .error .truncated
    | '\x7d' :: rest => .ok rest
    | c :: rest =>
      if !first && c ≠ ',' then .error .malformed
      else
        match skipBlank (if first then c :: rest else rest) with
        | [] => .error .truncated
        | '"' :: rest => do
          match skipBlank (← skipString rest) with
          | [] => .error .truncated
          | ':' :: rest => skipMembers fuel false (← skipValue fuel rest)
          | _ => .error .malformed
        | _ => .error .malformed

end

/-- The problem with a value that has the wrong shape: the shape, if it is a value at all. -/
def wrongShape (t : Text) : ReadError :=
  let problem : Except ReadError Unit := match t with
    | 'n' :: rest => (skipWord ['u', 'l', 'l'] rest).map fun _ => ()
    | 't' :: rest => (skipWord ['r', 'u', 'e'] rest).map fun _ => ()
    | 'f' :: rest => (skipWord ['a', 'l', 's', 'e'] rest).map fun _ => ()
    | '"' :: rest => (stringFrom none [] rest).map fun _ => ()
    | '[' :: _ => .ok ()
    | '\x7b' :: _ => .ok ()
    | c :: _ =>
      if c = '-' || c.isDigit then (number t).map fun _ => () else .error .malformed
    | [] => .error .truncated
  match problem with
  | .ok () => .mismatched
  | .error e => e

/-! ### The fields -/

def readNatural (t : Text) : Except ReadError (Nat × Text) :=
  match skipBlank t with
  | c :: rest =>
    if c = '-' || c.isDigit then do
      match ← number (c :: rest) with
      | (some n, rest) => pure (n, rest)
      | (none, _) => .error .mismatched
    else .error (wrongShape (c :: rest))
  | [] => .error .truncated

def readString (t : Text) : Except ReadError (String × Text) :=
  match skipBlank t with
  | '"' :: rest => do
    let (text, rest) ← stringFrom none [] rest
    pure (String.ofList text, rest)
  | t => .error (wrongShape t)

/-- What comes next in an array. -/
inductive Element where
  | item (rest : Text)
  | closed (rest : Text)

/-- Looks for the next item of an array. -/
def nextElement (first : Bool) (t : Text) : Except ReadError Element :=
  match skipBlank t with
  | [] => .error .truncated
  | ']' :: rest => .ok (.closed rest)
  | c :: rest =>
    if first then .ok (.item (c :: rest))
    else if c = ',' then
      match skipBlank rest with
      | [] => .error .truncated
      | ']' :: _ => .error .malformed
      | rest => .ok (.item rest)
    else .error .malformed

/-- What is left of an array of strings, after those in `acc` (kept in reverse). -/
def stringsFrom (first : Bool) (acc : List String) : (fuel : Nat) → Text → Except ReadError (List String × Text)
  | 0, _ => .error .malformed
  | fuel + 1, t => do
    match ← nextElement first t with
    | .closed rest => pure (acc.reverse, rest)
    | .item rest => do
      let (s, rest) ← readString rest
      stringsFrom false (s :: acc) fuel rest

def readStrings (t : Text) : Except ReadError (List String × Text) :=
  match skipBlank t with
  | '[' :: rest => stringsFrom true [] (rest.length + 1) rest
  | t => .error (wrongShape t)

/-- The fields of a report. -/
inductive Field where
  | offset | line | column | sourceLine | messages
deriving BEq, DecidableEq, Repr

/-- The field of a name. -/
def Field.ofName? (name : Text) : Option Field :=
  match String.ofList name with
  | "offset" => some .offset
  | "line" => some .line
  | "column" => some .column
  | "source_line" => some .sourceLine
  | "messages" => some .messages
  | _ => none

/-- The fields read so far. -/
structure Fields where
  offset : Option Nat := none
  line : Option Nat := none
  column : Option Nat := none
  sourceLine : Option String := none
  messages : Option (List String) := none

namespace Fields

def has (fields : Fields) : Field → Bool
  | .offset => fields.offset.isSome
  | .line => fields.line.isSome
  | .column => fields.column.isSome
  | .sourceLine => fields.sourceLine.isSome
  | .messages => fields.messages.isSome

/-- Reads the value of a field. -/
def read (fields : Fields) (field : Field) (t : Text) : Except ReadError (Fields × Text) :=
  match field with
  | .offset => do let (n, t) ← readNatural t; pure ({ fields with offset := some n }, t)
  | .line => do let (n, t) ← readNatural t; pure ({ fields with line := some n }, t)
  | .column => do let (n, t) ← readNatural t; pure ({ fields with column := some n }, t)
  | .sourceLine => do let (s, t) ← readString t; pure ({ fields with sourceLine := some s }, t)
  | .messages => do let (l, t) ← readStrings t; pure ({ fields with messages := some l }, t)

/-- The report, when all fields are there. -/
def report? (fields : Fields) : Option Report := do
  pure ⟨← fields.offset, ← fields.line, ← fields.column, ← fields.sourceLine, ← fields.messages⟩

end Fields

/-- Passes over the colon after a name. -/
def skipColon (t : Text) : Except ReadError Text :=
  match skipBlank t with
  | [] => .error .truncated
  | ':' :: rest => .ok rest
  | _ => .error .malformed

/-- A member of an object from after the opening quote of its name. -/
def readMember (fields : Fields) (t : Text) : Except ReadError (Fields × Text) := do
  let (name, t) ← stringFrom none [] t
  match Field.ofName? name with
  | some field =>
    if fields.has field then .error .mismatched
    fields.read field (← skipColon t)
  | none =>
    let t ← skipColon t
    let t ← skipValue (2 * t.length + 4) t
    pure (fields, t)

/-- What is left of an object. -/
def membersFrom (first : Bool) (fields : Fields) : (fuel : Nat) → Text → Except ReadError (Report × Text)
  | 0, _ => .error .malformed
  | fuel + 1, t =>
    match skipBlank t with
    | [] => .error .truncated
    | '\x7d' :: rest =>
      match fields.report? with
      | some r => .ok (r, rest)
      | none => .error .mismatched
    | c :: rest =>
      if first then
        if c = '"' then do
          let (fields, t) ← readMember fields rest
          membersFrom false fields fuel t
        else .error .malformed
      else if c = ',' then
        match skipBlank rest with
        | [] => .error .truncated
        | '"' :: rest => do
          let (fields, t) ← readMember fields rest
          membersFrom false fields fuel t
        | _ => .error .malformed
      else .error .malformed

/-- What is left of an array whose next values are these fields. -/
def valuesFrom (first : Bool) (fields : Fields) : List Field → Text → Except ReadError (Report × Text)
  | [], t =>
    match skipBlank t, fields.report? with
    | [], _ => .error .truncated
    | ']' :: rest, some r => .ok (r, rest)
    | _, _ => .error .malformed
  | field :: more, t => do
    match ← nextElement first t with
    | .closed _ => .error .mismatched
    | .item rest => do
      let (fields, t) ← fields.read field rest
      valuesFrom false fields more t

/-- The report that a JSON text is. -/
def ofJsonText? (t : Text) : Except ReadError Report := do
  let (r, rest) ← match skipBlank t with
    | '\x7b' :: rest => membersFrom true {} (rest.length + 1) rest
    | '[' :: rest => valuesFrom true {} [.offset, .line, .column, .sourceLine, .messages] rest
    | t => .error (wrongShape t)
  if (skipBlank rest).isEmpty then pure r else .error .malformed

/-- The report that a JSON text is. -/
def ofJson? (json : String) : Except ReadError Report := ofJsonText? json.toList

end Report

end Descent
