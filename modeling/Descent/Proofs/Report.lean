import Descent.Report.Reader
import Mathlib.Algebra.Group.Nat.Defs
import Mathlib.Tactic.SplitIfs

/-! Reports survive JSON.

What `Report.toJson` writes is read back by `Report.ofJson?` (`ofJson?_toJson`). The reader
is followed along the text: for everything that is written there is a lemma that says what
the reader makes of it when any text comes after. Strings are read character by character
(`stringFrom_escape`), whatever stands for a character between quotes. Naturals are read
digit by digit into a significand of 64 bits, where none of them is lost. -/
namespace Descent.Report
open Text (Decimal)

/-! ### Strings -/

theorem hexValue?_hexDigit : ∀ n < 16, Text.hexValue? (hexDigit n) = some n := by decide

theorem hexDigit_printable : ∀ n < 16, 32 ≤ (hexDigit n).toNat := by decide

/-- Two zeros and two digits are a value below 256. -/
theorem hex4?_hexDigit {n : Nat} (h : n < 256) :
    hex4? '0' '0' (hexDigit (n / 16)) (hexDigit (n % 16)) = some n := by
  have hzero : Text.hexValue? '0' = some 0 := by decide
  simp only [hex4?, hzero, hexValue?_hexDigit (n / 16) (by omega),
    hexValue?_hexDigit (n % 16) (by omega), Option.some.injEq]
  omega

/-- What can stand for a character between quotes: a backslash and a letter or sign, its
code in four digits, or the character itself. -/
inductive Escaped (c : Char) : Text → Prop
  | short (e : Char) (means : unescape? e = some c) (noCode : e ≠ 'u') (printable : 32 ≤ e.toNat) :
    Escaped c ['\\', e]
  | coded (control : c.toNat < 32) :
    Escaped c ['\\', 'u', '0', '0', hexDigit (c.toNat / 16), hexDigit (c.toNat % 16)]
  | raw (noQuote : c ≠ '"') (noSlash : c ≠ '\\') (printable : 32 ≤ c.toNat) : Escaped c [c]

theorem escaped (c : Char) : Escaped c (escape c) := by
  unfold escape
  split_ifs with hquote hslash hb ht hn hf hr hcontrol
  · exact .short '"' (by rw [hquote]; rfl) (by decide) (by decide)
  · exact .short '\\' (by rw [hslash]; rfl) (by decide) (by decide)
  · exact .short 'b' (hb ▸ rfl) (by decide) (by decide)
  · exact .short 't' (ht ▸ rfl) (by decide) (by decide)
  · exact .short 'n' (hn ▸ rfl) (by decide) (by decide)
  · exact .short 'f' (hf ▸ rfl) (by decide) (by decide)
  · exact .short 'r' (hr ▸ rfl) (by decide) (by decide)
  · exact .coded hcontrol
  · exact .raw hquote hslash (Nat.le_of_not_lt hcontrol)

/-- What stands for a character between quotes is read as that character. -/
theorem stringFrom_escape (c : Char) (acc rest : Text) :
    stringFrom none acc (escape c ++ rest) = stringFrom none (c :: acc) rest := by
  have hescaped := escaped c
  generalize escape c = written at hescaped ⊢
  cases hescaped with
  | short e means noCode => simp [stringFrom, means, noCode]
  | coded control =>
    have hlow : isLowSurrogate c.toNat = false := by simp [isLowSurrogate]; omega
    have hhigh : isHighSurrogate c.toNat = false := by simp [isHighSurrogate]; omega
    simp [stringFrom, hex4?_hexDigit (show c.toNat < 256 by omega), hlow, hhigh]
  | raw noQuote noSlash printable =>
    simp [stringFrom, noQuote, noSlash, Nat.not_lt.2 printable]

/-- No control character stands for a character between quotes. -/
theorem escape_printable {c d : Char} (h : d ∈ escape c) : 32 ≤ d.toNat := by
  have hescaped := escaped c
  generalize escape c = written at h hescaped
  cases hescaped with
  | short e _ _ printable =>
    simp only [List.mem_cons, List.not_mem_nil, or_false] at h
    rcases h with rfl | rfl
    · decide
    · exact printable
  | coded control =>
    simp only [List.mem_cons, List.not_mem_nil, or_false] at h
    rcases h with rfl | rfl | rfl | rfl | rfl | rfl
    · decide
    · decide
    · decide
    · decide
    · exact hexDigit_printable _ (by omega)
    · exact hexDigit_printable _ (by omega)
  | raw _ _ printable =>
    rw [List.mem_singleton.1 h]
    exact printable

/-- A string is read up to the quote after it. -/
theorem stringFrom_quoted (text acc rest : Text) :
    stringFrom none acc (text.flatMap escape ++ '"' :: rest) = .ok (acc.reverse ++ text, rest) := by
  induction text generalizing acc with
  | nil => simp [stringFrom]
  | cons c text ih =>
    rw [List.flatMap_cons, List.append_assoc, stringFrom_escape, ih, List.reverse_cons,
      List.append_assoc, List.singleton_append]

theorem quote_append (text rest : Text) :
    quote text ++ rest = '"' :: (text.flatMap escape ++ '"' :: rest) := by
  simp [quote]

theorem readString_quote (s : String) (rest : Text) :
    readString (quote s.toList ++ rest) = .ok (s, rest) := by
  rw [quote_append]
  show (stringFrom none [] _).bind (fun found => .ok (String.ofList found.1, found.2)) = _
  rw [stringFrom_quoted]
  simp [Except.bind]

/-! ### Naturals -/

theorem naturalText_eq (n : Nat) : naturalText n = Nat.toDigits 10 n := by
  rw [naturalText, Nat.toString_eq_ofList_toDigits, String.toList_ofList]

theorem naturalText_isDigit {n : Nat} {c : Char} (h : c ∈ naturalText n) : c.isDigit = true := by
  rw [naturalText_eq] at h
  exact Nat.isDigit_of_mem_toDigits (by decide) (by decide) h

theorem exists_naturalText_cons (n : Nat) :
    ∃ c more, naturalText n = c :: more ∧ c.isDigit = true := by
  rw [naturalText_eq]
  obtain ⟨c, more, hmore⟩ : ∃ c more, Nat.toDigits 10 n = c :: more :=
    List.exists_cons_of_ne_nil Nat.toDigits_ne_nil
  have hc : c ∈ Nat.toDigits 10 n := by rw [hmore]; exact List.mem_cons_self
  exact ⟨c, more, hmore, Nat.isDigit_of_mem_toDigits (by decide) (by decide) hc⟩

theorem naturalText_eq_if (n : Nat) :
    naturalText n =
      if n < 10 then [n.digitChar] else naturalText (n / 10) ++ [(n % 10).digitChar] := by
  rw [naturalText_eq, naturalText_eq, Nat.toDigits_eq_if (by decide)]

theorem eq_zero_of_head? {n : Nat} (h : (naturalText n).head? = some '0') : n = 0 := by
  induction n using Nat.strongRecOn with
  | ind n ih =>
    rw [naturalText_eq_if] at h
    split at h
    · exact Nat.digitChar_eq_zero.1 (Option.some.inj h)
    · obtain ⟨c, more, hmore, -⟩ := exists_naturalText_cons (n / 10)
      rw [hmore, List.cons_append] at h
      have := ih (n / 10) (by omega) (by rw [hmore]; exact h)
      omega

/-- Zero is one digit, and nothing else begins with one that is zero. -/
theorem naturalText_noLeadingZero (n : Nat) :
    ((naturalText n).head? == some '0' && decide (1 < (naturalText n).length)) = false := by
  rcases Nat.eq_zero_or_pos n with rfl | hn
  · decide
  · have hhead : (naturalText n).head? ≠ some '0' := fun h => Nat.ne_of_gt hn (eq_zero_of_head? h)
    rw [beq_false_of_ne hhead, Bool.false_and]

/-- A digit that fits is kept. -/
theorem addWhole_fits (m : Nat) {n : Nat} (hm : 10 * m + n % 10 = n) (h : n < 2 ^ 64) :
    Decimal.addWhole ⟨m, 0⟩ (n % 10).digitChar = ⟨n, 0⟩ := by
  have hdigit : Text.decimalValue [(n % 10).digitChar] = n % 10 := by
    simp only [Text.decimalValue, List.foldl_cons, List.foldl_nil,
      Nat.toNat_digitChar_of_lt_ten (Nat.mod_lt n (by decide))]
    omega
  have happend : Decimal.append? ⟨m, 0⟩ (n % 10).digitChar = some n := by
    simp only [Decimal.append?, hdigit, hm]
    exact if_pos h
  unfold Decimal.addWhole
  simp only [happend, if_true]

/-- The significand of a natural of 64 bits is read digit by digit. -/
theorem foldl_addWhole {n : Nat} (h : n < 2 ^ 64) :
    (naturalText n).foldl Decimal.addWhole {} = ⟨n, 0⟩ := by
  induction n using Nat.strongRecOn with
  | ind n ih =>
    rw [naturalText_eq_if]
    split
    · next hn =>
      have hdigit := addWhole_fits 0 (by omega) h
      rwa [Nat.mod_eq_of_lt hn] at hdigit
    · next hn =>
      rw [List.foldl_append, ih (n / 10) (by omega) (by omega)]
      exact addWhole_fits (n / 10) (by omega) h

theorem roundToDouble_le (n : Nat) : Decimal.roundToDouble n ≤ 2 * n := by
  rcases Nat.eq_zero_or_pos n with rfl | hn
  · decide
  have hunit : Nat.pow 2 (n.log2 - 52) ≤ n :=
    Nat.le_trans (Nat.pow_le_pow_right (by decide) (Nat.sub_le _ _))
      (Nat.log2_self_le (Nat.ne_of_gt hn))
  have hquotient := Nat.div_mul_le_self n (Nat.pow 2 (n.log2 - 52))
  simp only [Decimal.roundToDouble]
  split
  · rw [Nat.add_mul, Nat.one_mul]; omega
  · omega

/-- A significand alone is a double. -/
theorem exceedsDouble_significand {n : Nat} (h : n < 2 ^ 64) :
    Decimal.exceedsDouble ⟨n, 0⟩ = false := by
  have hone : Decimal.roundToDouble (Nat.pow 10 0) = 1 := by decide
  have hbound : 2 * 2 ^ 64 ≤ Decimal.doubleBound := by decide +kernel
  have hround := roundToDouble_le n
  have hproduct : ¬ Decimal.doubleBound ≤
      Decimal.roundToDouble n * Decimal.roundToDouble (Nat.pow 10 0) := by
    rw [hone]; omega
  have hpower : ¬ ((Decimal.maxPower : Int) < 0) := by decide
  simp only [Decimal.exceedsDouble, hpower, Int.toNat_zero, hproduct, decide_false, Bool.or_false,
    Bool.and_false]

/-- The signs that come after a value in an array or an object. -/
def Ends (c : Char) : Prop := c = ',' ∨ c = ']' ∨ c = '\x7d'

/-- A natural of 64 bits is read up to the end of its digits. -/
theorem number_naturalText {n : Nat} (h : n < 2 ^ 64) {c : Char} (hc : Ends c) (rest : Text) :
    number (naturalText n ++ c :: rest) = .ok (some n, c :: rest) := by
  have hdigit : c.isDigit = false := by rcases hc with rfl | rfl | rfl <;> rfl
  have htake : (naturalText n ++ c :: rest).takeWhile Char.isDigit = naturalText n := by
    rw [List.takeWhile_append_of_pos fun c => naturalText_isDigit]
    simp [hdigit]
  have hdrop : (naturalText n ++ c :: rest).dropWhile Char.isDigit = c :: rest := by
    rw [List.dropWhile_append_of_pos fun c => naturalText_isDigit]
    simp [hdigit]
  have hsign : ((naturalText n ++ c :: rest).head? == some '-') = false := by
    obtain ⟨c, more, hmore, hc⟩ := exists_naturalText_cons n
    rw [hmore]
    refine beq_false_of_ne fun h => ?_
    cases Option.some.inj h
    cases hc
  have hsome : (naturalText n).isEmpty = false := by
    obtain ⟨c, more, hmore, -⟩ := exists_naturalText_cons n
    rw [hmore]
    rfl
  have hdouble : (Decimal.scale ⟨n, 0⟩ 0).exceedsDouble = false := exceedsDouble_significand h
  unfold number
  simp only [hsign, Bool.false_eq_true, if_false, htake, hdrop, hsome,
    naturalText_noLeadingZero, foldl_addWhole h, bind, Except.bind, pure, Except.pure]
  rcases hc with rfl | rfl | rfl <;> exact if_neg (Bool.eq_false_iff.1 hdouble)

theorem readNatural_naturalText {n : Nat} (h : n < 2 ^ 64) {c : Char} (hc : Ends c)
    (rest : Text) : readNatural (naturalText n ++ c :: rest) = .ok (n, c :: rest) := by
  have hnumber := number_naturalText h hc rest
  obtain ⟨d, more, hmore, hd⟩ := exists_naturalText_cons n
  have hblank : skipBlank (d :: (more ++ c :: rest)) = d :: (more ++ c :: rest) := by
    have hnot : ¬ (d = ' ' ∨ d = '\t' ∨ d = '\n' ∨ d = '\r') := by
      rintro (rfl | rfl | rfl | rfl) <;> cases hd
    simp only [not_or] at hnot
    simp [skipBlank, hnot]
  rw [hmore, List.cons_append] at hnumber ⊢
  simp [readNatural, hblank, hd, hnumber, bind, Except.bind, pure, Except.pure]

/-! ### Lists -/

theorem commaSeparated_cons (item : Text) (items : List Text) :
    commaSeparated (item :: items) = item ++ items.flatMap (',' :: ·) := by
  induction items generalizing item with
  | nil => simp [commaSeparated, List.intercalate]
  | cons next items ih =>
    have hmore := ih next
    simp only [commaSeparated, List.intercalate] at hmore ⊢
    simp [hmore]

/-- There are no more items than commas before them. -/
theorem length_le_commas (items : List Text) :
    items.length ≤ (items.flatMap (',' :: ·)).length := by
  induction items with
  | nil => exact Nat.le_refl _
  | cons item items ih =>
    simp only [List.flatMap_cons, List.length_append, List.length_cons]
    omega

theorem nextElement_quote (text rest : Text) :
    nextElement true (quote text ++ rest) = .ok (.item (quote text ++ rest)) := by
  rw [quote_append]
  rfl

theorem nextElement_comma_quote (text rest : Text) :
    nextElement false (',' :: (quote text ++ rest)) = .ok (.item (quote text ++ rest)) := by
  rw [quote_append]
  rfl

/-- A string of an array is read as the next of its items. -/
theorem stringsFrom_item {first : Bool} {t : Text} {m : String} {rest : Text}
    (h : nextElement first t = .ok (.item (quote m.toList ++ rest))) (acc : List String)
    (fuel : Nat) : stringsFrom first acc (fuel + 1) t = stringsFrom false (m :: acc) fuel rest := by
  simp only [stringsFrom, h, readString_quote, bind, Except.bind]

/-- Strings are read up to the bracket after them. -/
theorem stringsFrom_quoted (messages acc : List String) (rest : Text) {fuel : Nat}
    (hfuel : messages.length < fuel) :
    stringsFrom false acc fuel (messages.flatMap (fun m => ',' :: quote m.toList) ++ ']' :: rest) =
      .ok (acc.reverse ++ messages, rest) := by
  induction messages generalizing acc fuel with
  | nil =>
    obtain ⟨fuel, rfl⟩ := Nat.exists_eq_succ_of_ne_zero (Nat.ne_of_gt hfuel)
    rw [List.append_nil]
    rfl
  | cons m messages ih =>
    obtain ⟨fuel, rfl⟩ := Nat.exists_eq_succ_of_ne_zero (Nat.ne_of_gt (Nat.zero_lt_of_lt hfuel))
    rw [List.flatMap_cons, List.append_assoc, List.cons_append,
      stringsFrom_item (nextElement_comma_quote _ _), ih _ (Nat.lt_of_succ_lt_succ hfuel),
      List.reverse_cons, List.append_assoc, List.singleton_append]

theorem readStrings_quoted (messages : List String) (rest : Text) :
    readStrings ('[' :: (commaSeparated (messages.map fun m => quote m.toList) ++ ']' :: rest)) =
      .ok (messages, rest) := by
  show stringsFrom true [] (_ + 1) _ = _
  cases messages with
  | nil => rfl
  | cons m messages =>
    have hlength := length_le_commas (messages.map fun m => quote m.toList)
    rw [List.length_map, List.flatMap_map] at hlength
    rw [List.map_cons, commaSeparated_cons, List.append_assoc,
      stringsFrom_item (nextElement_quote _ _), List.flatMap_map]
    refine stringsFrom_quoted messages [m] rest ?_
    simp only [List.length_append, List.length_cons]
    omega

/-! ### The members of an object -/

/-- The name of a field. -/
def Field.name : Field → String
  | .offset => "offset"
  | .line => "line"
  | .column => "column"
  | .sourceLine => "source_line"
  | .messages => "messages"

/-- The fields in the order in which they are written. -/
def Field.all : List Field := [.offset, .line, .column, .sourceLine, .messages]

/-- What is written for a field. -/
def fieldText (r : Report) : Field → Text
  | .offset => naturalText r.offset
  | .line => naturalText r.line
  | .column => naturalText r.column
  | .sourceLine => quote r.sourceLine.toList
  | .messages => '[' :: commaSeparated (r.messages.map fun m => quote m.toList) ++ [']']

/-- The fields with one more of those of a report. -/
def Fields.put (r : Report) (fields : Fields) : Field → Fields
  | .offset => { fields with offset := some r.offset }
  | .line => { fields with line := some r.line }
  | .column => { fields with column := some r.column }
  | .sourceLine => { fields with sourceLine := some r.sourceLine }
  | .messages => { fields with messages := some r.messages }

/-- The numbers of a report are of 64 bits. -/
structure Sized (r : Report) : Prop where
  offset : r.offset < 2 ^ 64
  line : r.line < 2 ^ 64
  column : r.column < 2 ^ 64

theorem ofName?_name (field : Field) : Field.ofName? field.name.toList = some field := by
  cases field <;> rfl

theorem has_put (r : Report) (fields : Fields) {field other : Field} (h : other ≠ field) :
    (fields.put r field).has other = fields.has other := by
  cases field <;> cases other <;> first | rfl | exact absurd rfl h

theorem toJsonText_eq (r : Report) :
    r.toJsonText =
      '\x7b' :: commaSeparated (Field.all.map fun f => member f.name (r.fieldText f)) ++ ['\x7d'] :=
  rfl

section
variable {r : Report} (hr : r.Sized) {c : Char} (hc : Ends c)
include hr hc

/-- What is written for a field is read as the field. -/
theorem read_fieldText (fields : Fields) (field : Field) (rest : Text) :
    fields.read field (r.fieldText field ++ c :: rest) = .ok (fields.put r field, c :: rest) := by
  cases field with
  | offset => simp [Fields.read, fieldText, readNatural_naturalText hr.offset hc, bind, Except.bind,
      pure, Except.pure, Fields.put]
  | line => simp [Fields.read, fieldText, readNatural_naturalText hr.line hc, bind, Except.bind,
      pure, Except.pure, Fields.put]
  | column => simp [Fields.read, fieldText, readNatural_naturalText hr.column hc, bind, Except.bind,
      pure, Except.pure, Fields.put]
  | sourceLine =>
    simp [Fields.read, fieldText, readString_quote, bind, Except.bind, pure, Except.pure, Fields.put]
  | messages =>
    simp [Fields.read, fieldText, readStrings_quoted, bind, Except.bind, pure, Except.pure, Fields.put]

/-- A member is read, from after the quote before its name, into a field that was not there. -/
theorem readMember_fieldText {fields : Fields} {field : Field} (hnew : fields.has field = false)
    (rest : Text) :
    readMember fields (field.name.toList.flatMap escape ++
        '"' :: ':' :: (r.fieldText field ++ c :: rest)) = .ok (fields.put r field, c :: rest) := by
  have hcolon : skipColon (':' :: (r.fieldText field ++ c :: rest)) =
      .ok (r.fieldText field ++ c :: rest) := rfl
  simp [readMember, stringFrom_quoted, ofName?_name, hnew, hcolon, read_fieldText hr hc, bind,
    Except.bind]

end

theorem member_append (name : String) (value rest : Text) :
    member name value ++ rest =
      '"' :: (name.toList.flatMap escape ++ '"' :: ':' :: (value ++ rest)) := by
  simp [member, quote]

section
variable {r : Report} (hr : r.Sized)
include hr

/-- A member is read, from the comma before it, up to what comes after it. -/
theorem membersFrom_next {c : Char} (hc : Ends c) {fields : Fields} {field : Field}
    (hnew : fields.has field = false) (fuel : Nat) (rest : Text) :
    membersFrom false fields (fuel + 1) (',' :: member field.name (r.fieldText field) ++ c :: rest) =
      membersFrom false (fields.put r field) fuel (c :: rest) := by
  rw [List.cons_append, member_append]
  show (readMember fields _).bind (fun found => membersFrom false found.1 fuel found.2) = _
  rw [readMember_fieldText hr hc hnew]
  rfl

/-- The same without a comma for the first member. -/
theorem membersFrom_first {c : Char} (hc : Ends c) {fields : Fields} {field : Field}
    (hnew : fields.has field = false) (fuel : Nat) (rest : Text) :
    membersFrom true fields (fuel + 1) (member field.name (r.fieldText field) ++ c :: rest) =
      membersFrom false (fields.put r field) fuel (c :: rest) := by
  rw [member_append]
  show (readMember fields _).bind (fun found => membersFrom false found.1 fuel found.2) = _
  rw [readMember_fieldText hr hc hnew]
  rfl

/-- Members of a report are read up to the brace after them. -/
theorem membersFrom_fields {todo : List Field} (hnodup : todo.Nodup) {fields : Fields}
    (hnew : ∀ f ∈ todo, fields.has f = false)
    (hall : (todo.foldl (Fields.put r) fields).report? = some r) {fuel : Nat}
    (hfuel : todo.length < fuel) :
    membersFrom false fields fuel
        (todo.flatMap (fun f => ',' :: member f.name (r.fieldText f)) ++ ['\x7d']) = .ok (r, []) := by
  induction todo generalizing fields fuel with
  | nil =>
    obtain ⟨fuel, rfl⟩ := Nat.exists_eq_succ_of_ne_zero (Nat.ne_of_gt hfuel)
    rw [List.foldl_nil] at hall
    have hclosed : membersFrom false fields (fuel + 1) ['\x7d'] =
        fields.report?.elim (.error .mismatched) fun report => .ok (report, []) := by
      cases hreport : fields.report? <;> simp [membersFrom, skipBlank, hreport]
    rw [hall] at hclosed
    exact hclosed
  | cons f todo ih =>
    obtain ⟨fuel, rfl⟩ := Nat.exists_eq_succ_of_ne_zero (Nat.ne_of_gt (Nat.zero_lt_of_lt hfuel))
    obtain ⟨hmem, hnodup⟩ := List.nodup_cons.1 hnodup
    have hmore : ∀ g ∈ todo, (fields.put r f).has g = false := fun g hg => by
      have hne : g ≠ f := fun h => hmem (h ▸ hg)
      rw [has_put r fields hne]
      exact hnew g (List.mem_cons_of_mem _ hg)
    have hrest := ih hnodup hmore hall (Nat.lt_of_succ_lt_succ hfuel)
    obtain ⟨c, hc, rest, hcons⟩ : ∃ c, Ends c ∧ ∃ rest,
        todo.flatMap (fun f => ',' :: member f.name (r.fieldText f)) ++ ['\x7d'] = c :: rest := by
      cases todo with
      | nil => exact ⟨_, .inr (.inr rfl), _, rfl⟩
      | cons => exact ⟨_, .inl rfl, _, rfl⟩
    rw [List.flatMap_cons, List.append_assoc, hcons,
      membersFrom_next hr hc (hnew f List.mem_cons_self), ← hcons, hrest]

end

/-! ### Reports -/

/-- No text that stands between quotes has a control character. -/
theorem quote_printable {text : Text} {c : Char} (h : c ∈ quote text) : 32 ≤ c.toNat := by
  simp only [quote, List.mem_append, List.mem_cons, List.mem_flatMap, List.not_mem_nil,
    or_false] at h
  rcases h with (rfl | ⟨d, -, h⟩) | rfl
  · decide
  · exact escape_printable h
  · decide

theorem commaSeparated_printable {items : List Text}
    (h : ∀ item ∈ items, ∀ c ∈ item, 32 ≤ c.toNat) : ∀ c ∈ commaSeparated items, 32 ≤ c.toNat := by
  cases items with
  | nil => simp [commaSeparated]
  | cons item items =>
    rw [commaSeparated_cons]
    intro c hc
    simp only [List.mem_append, List.mem_flatMap, List.mem_cons] at hc
    rcases hc with hc | ⟨next, hnext, rfl | hc⟩
    · exact h item List.mem_cons_self c hc
    · decide
    · exact h next (List.mem_cons_of_mem _ hnext) c hc

theorem naturalText_printable {n : Nat} {c : Char} (h : c ∈ naturalText n) : 32 ≤ c.toNat := by
  have hdigit := naturalText_isDigit h
  simp only [Char.isDigit, Bool.and_eq_true, decide_eq_true_eq] at hdigit
  exact Nat.le_trans (by decide) (UInt32.le_iff_toNat_le.1 hdigit.1)

theorem fieldText_printable (r : Report) (field : Field) : ∀ c ∈ r.fieldText field, 32 ≤ c.toNat := by
  intro c hc
  cases field with
  | offset => exact naturalText_printable hc
  | line => exact naturalText_printable hc
  | column => exact naturalText_printable hc
  | sourceLine => exact quote_printable hc
  | messages =>
    simp only [fieldText, List.cons_append, List.mem_cons, List.mem_append, List.not_mem_nil,
      or_false] at hc
    rcases hc with rfl | hc | rfl
    · decide
    · refine commaSeparated_printable (fun item hitem d hd => ?_) c hc
      obtain ⟨m, -, rfl⟩ := List.mem_map.1 hitem
      exact quote_printable hd
    · decide

theorem toJsonText_printable (r : Report) : ∀ c ∈ r.toJsonText, 32 ≤ c.toNat := by
  intro c hc
  simp only [toJsonText_eq, List.cons_append, List.mem_cons, List.mem_append, List.not_mem_nil,
    or_false] at hc
  rcases hc with rfl | hc | rfl
  · decide
  · refine commaSeparated_printable (fun item hitem d hd => ?_) c hc
    obtain ⟨f, -, rfl⟩ := List.mem_map.1 hitem
    simp only [member, List.mem_append, List.mem_cons] at hd
    rcases hd with hd | rfl | hd
    · exact quote_printable hd
    · decide
    · exact fieldText_printable r f d hd
  · decide

/-- All members of a report are read. -/
theorem membersFrom_all {r : Report} (hr : r.Sized) {fuel : Nat} (hfuel : 4 < fuel) :
    membersFrom true {} (fuel + 1)
        (commaSeparated (Field.all.map fun f => member f.name (r.fieldText f)) ++ ['\x7d']) =
      .ok (r, []) := by
  have hnew (f : Field) : ({} : Fields).has f = false := by cases f <;> rfl
  have hmore : ∀ f ∈ Field.all.tail, (({} : Fields).put r .offset).has f = false := fun f hf => by
    have hne : f ≠ .offset := by rintro rfl; simp [Field.all] at hf
    rw [has_put r {} hne, hnew]
  rw [Field.all, List.map_cons, commaSeparated_cons, List.flatMap_map, List.append_assoc]
  exact (membersFrom_first hr (.inl rfl) (hnew _) fuel _).trans
    (membersFrom_fields hr (by decide) hmore rfl hfuel)

theorem ofJsonText?_toJsonText {r : Report} (hr : r.Sized) : ofJsonText? r.toJsonText = .ok r := by
  rw [toJsonText_eq, List.cons_append]
  have hlength : 4 < (commaSeparated (Field.all.map fun f => member f.name (r.fieldText f)) ++
      ['\x7d']).length := by
    have hcommas := length_le_commas (Field.all.tail.map fun f => member f.name (r.fieldText f))
    rw [List.length_map, Field.all, List.tail_cons] at hcommas
    rw [Field.all, List.map_cons, commaSeparated_cons]
    simp only [List.length_append, List.length_cons, List.length_nil] at hcommas ⊢
    omega
  have hread (fuel : Nat) (hfuel : 4 < fuel) := membersFrom_all hr hfuel
  generalize commaSeparated _ ++ ['\x7d'] = members at hread hlength ⊢
  show (membersFrom true {} (members.length + 1) members).bind
    (fun found => if (skipBlank found.2).isEmpty then .ok found.1 else .error .malformed) = _
  rw [hread members.length hlength]
  rfl

/-- What is written for a report is the report, when it is read, and is written without
control characters. -/
theorem ofJson?_toJson {r : Report} (hr : r.Sized) :
    ofJson? r.toJson = .ok r ∧ ∀ c ∈ r.toJson.toList, 32 ≤ c.toNat := by
  rw [ofJson?, toJson, String.toList_ofList]
  exact ⟨ofJsonText?_toJsonText hr, toJsonText_printable r⟩

/-- The greatest numbers, and every kind of character. -/
theorem ofJson?_toJson_hard :
    ofJson? (toJson ⟨2 ^ 64 - 1, 2 ^ 64 - 1, 0, "\"\\\x01\t\x7féß😀",
        ["expected \"\n\"", "", "\x00\x1f/"]⟩) =
      .ok ⟨2 ^ 64 - 1, 2 ^ 64 - 1, 0, "\"\\\x01\t\x7féß😀", ["expected \"\n\"", "", "\x00\x1f/"]⟩ :=
  (ofJson?_toJson ⟨by decide, by decide, by decide⟩).1

end Descent.Report
