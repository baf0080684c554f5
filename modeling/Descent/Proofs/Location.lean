import Mathlib.Algebra.Ring.Nat
import Mathlib.Data.List.Basic
import Mathlib.Data.List.TakeWhile
import Mathlib.Data.Char
import Descent.Location

/-! Lines and columns by their naive definition.

A place of a text is read off in one pass over its characters. It has to agree with what
counting says: the line is the number of breaks among the bytes before the offset, the column
what comes after the last of them, the shown line the one of that number. All of it follows
from the lines around the place (`Location.exists_around`): those before it, its own and what
comes after, which make up the text. A second reading goes by the offsets of the breaks and
cuts the line out by bytes, so that it could fail at every cut; it never does and finds the
same place (`Location.ofOffset_counts_breaks`). -/
namespace Descent

namespace Text

/-! ### Bytes -/

/-- The UTF-8 encoding. -/
def bytes (text : Text) : List UInt8 := text.flatMap String.utf8EncodeChar

theorem bytes_cons (c : Char) (text : Text) :
    bytes (c :: text) = String.utf8EncodeChar c ++ bytes text := List.flatMap_cons

theorem bytes_append (s t : Text) : bytes (s ++ t) = bytes s ++ bytes t := List.flatMap_append

theorem bytes_break (text : Text) : bytes ('\n' :: text) = 10 :: bytes text := rfl

theorem length_bytes (text : Text) : (bytes text).length = byteSize text := by
  induction text with
  | nil => rfl
  | cons c text ih =>
    rw [bytes_cons, List.length_append, String.length_utf8EncodeChar, ih, byteSize_cons]

/-- The bytes of characters from 128 on are all from 128 on. -/
theorem not_mem_encode {c : Char} (hc : c ≠ '\n') : (10 : UInt8) ∉ String.utf8EncodeChar c := by
  have hval : c.val.toNat ≠ 10 := fun h => hc (Char.ext (UInt32.toNat_inj.1 h))
  have hbyte {n : Nat} (h : (10 : UInt8) = UInt8.ofNat n) : n % 256 = 10 :=
    (congrArg UInt8.toNat h).symm
  rw [String.utf8EncodeChar]
  split_ifs <;> simp only [List.mem_cons, List.not_mem_nil, or_false]
  · intro h
    have := hbyte h
    omega
  · rintro (h | h) <;> have := hbyte h <;> omega
  · rintro (h | h | h) <;> have := hbyte h <;> omega
  · rintro (h | h | h | h) <;> have := hbyte h <;> omega

theorem not_mem_bytes {text : Text} (h : '\n' ∉ text) : (10 : UInt8) ∉ bytes text := by
  rw [bytes, List.mem_flatMap]
  rintro ⟨c, hc, hbyte⟩
  exact not_mem_encode (fun hbreak => h (hbreak ▸ hc)) hbyte

/-- The index after the last break among these bytes; zero if there is none. -/
def afterBreak (bytes : List UInt8) : Nat := (bytes.reverse.dropWhile (· ≠ 10)).length

/-! ### Lines -/

/-- Lines, each with its break. -/
def ended (lines : List Text) : Text := lines.flatMap (· ++ ['\n'])

theorem ended_cons (line : Text) (lines : List Text) :
    ended (line :: lines) = line ++ '\n' :: ended lines := by
  rw [ended, List.flatMap_cons, List.append_assoc]
  rfl

/-- What has ended ends with a break. -/
theorem ended_getLast? (lines : List Text) :
    ended lines = [] ∨ ∃ before, ended lines = before ++ ['\n'] := by
  obtain rfl | ⟨lines, line, rfl⟩ := List.eq_nil_or_concat' lines
  · exact .inl rfl
  · refine .inr ⟨ended lines ++ line, ?_⟩
    rw [ended, List.flatMap_append, List.flatMap_singleton, List.append_assoc]
    rfl

theorem byteSize_ended (lines : List Text) :
    (ended lines).byteSize = (lines.map fun line => line.byteSize + 1).sum := by
  induction lines with
  | nil => rfl
  | cons line lines ih =>
    have hbreak : '\n'.utf8Size = 1 := rfl
    rw [ended_cons, byteSize_append, byteSize_cons, ih, List.map_cons, List.sum_cons, hbreak]
    omega

/-- The lines of a text: some that came to their ends, then one of them, and what comes after
that, which begins with the end of it. -/
structure Lines (text : Text) (earlier : List Text) (current later : Text) : Prop where
  text_eq : text = ended earlier ++ (current ++ later)
  earlier : ∀ line ∈ earlier, '\n' ∉ line
  current : '\n' ∉ current
  later : later = [] ∨ ∃ more, later = '\n' :: more

namespace Lines
variable {text current later : Text} {earlier : List Text}

theorem cons {line : Text} (h : Lines text earlier current later) (hline : '\n' ∉ line) :
    Lines (line ++ '\n' :: text) (line :: earlier) current later where
  text_eq := by rw [h.text_eq, ended_cons, List.append_assoc, List.cons_append]
  earlier := List.forall_mem_cons.2 ⟨hline, h.earlier⟩
  current := h.current
  later := h.later

theorem first (text : Text) :
    Lines text [] (text.takeWhile (· ≠ '\n')) (text.dropWhile (· ≠ '\n')) where
  text_eq := List.takeWhile_append_dropWhile.symm
  earlier := List.forall_mem_nil _
  current h := absurd (List.mem_takeWhile_imp h) (by decide)
  later := by
    induction text with
    | nil => exact .inl rfl
    | cons c text ih =>
      obtain rfl | hc := eq_or_ne c '\n'
      · exact .inr ⟨text, rfl⟩
      · rwa [List.dropWhile_cons_of_pos (by simpa using hc)]

/-- The lines are what the text is split into at its breaks. -/
theorem splitOn_eq (h : Lines text earlier current later) :
    ∃ more, text.splitOn '\n' = earlier ++ current :: more := by
  obtain ⟨rfl, hearlier, hcurrent, hlater⟩ := h
  induction earlier with
  | nil =>
    obtain rfl | ⟨more, rfl⟩ := hlater
    · refine ⟨[], ?_⟩
      rw [List.append_nil]
      exact List.splitOn_eq_singleton hcurrent
    · exact ⟨more.splitOn '\n', List.splitOn_append_cons_self_of_not_mem hcurrent more⟩
  | cons line earlier ih =>
    obtain ⟨hline, hearlier⟩ := List.forall_mem_cons.1 hearlier
    obtain ⟨more, hmore⟩ := ih hearlier
    refine ⟨more, ?_⟩
    rw [ended_cons, List.append_assoc, List.cons_append,
      List.splitOn_append_cons_self_of_not_mem hline, hmore, List.cons_append]

theorem take_splitOn (h : Lines text earlier current later) :
    (text.splitOn '\n').take earlier.length = earlier := by
  obtain ⟨more, hsplit⟩ := h.splitOn_eq
  rw [hsplit, List.take_left]

theorem getElem?_splitOn (h : Lines text earlier current later) :
    (text.splitOn '\n')[earlier.length]? = some current := by
  obtain ⟨more, hsplit⟩ := h.splitOn_eq
  rw [hsplit, List.getElem?_append_right (Nat.le_refl _), Nat.sub_self]
  rfl

/-- The bytes up to a column of the line. -/
theorem take_bytes (h : Lines text earlier current later) {column : Nat}
    (hcolumn : column ≤ current.byteSize) :
    text.bytes.take ((ended earlier).byteSize + column) =
      (ended earlier).bytes ++ current.bytes.take column := by
  rw [h.text_eq, bytes_append, bytes_append, ← length_bytes, List.take_length_add_append,
    List.take_append_of_le_length (by rwa [length_bytes])]

theorem count_ended (hearlier : ∀ line ∈ earlier, '\n' ∉ line) :
    (ended earlier).bytes.count 10 = earlier.length := by
  induction earlier with
  | nil => rfl
  | cons line earlier ih =>
    obtain ⟨hline, hearlier⟩ := List.forall_mem_cons.1 hearlier
    rw [ended_cons, bytes_append, bytes_break, List.count_append,
      List.count_eq_zero.2 (not_mem_bytes hline), List.count_cons_self, ih hearlier, Nat.zero_add,
      List.length_cons]

/-- Before a place there is one break for each earlier line. -/
theorem count_before (h : Lines text earlier current later) {column : Nat}
    (hcolumn : column ≤ current.byteSize) :
    (text.bytes.take ((ended earlier).byteSize + column)).count 10 = earlier.length := by
  have hnone : (10 : UInt8) ∉ current.bytes.take column := fun hmem =>
    not_mem_bytes h.current (List.mem_of_mem_take hmem)
  rw [h.take_bytes hcolumn, List.count_append, count_ended h.earlier, List.count_eq_zero.2 hnone,
    Nat.add_zero]

/-- The last of them is where the line begins. -/
theorem afterBreak_before (h : Lines text earlier current later) {column : Nat}
    (hcolumn : column ≤ current.byteSize) :
    afterBreak (text.bytes.take ((ended earlier).byteSize + column)) =
      (ended earlier).byteSize := by
  have hnone : ∀ b ∈ (current.bytes.take column).reverse, decide (b ≠ 10) = true := by
    intro b hb
    rw [List.mem_reverse] at hb
    exact decide_eq_true fun hbreak =>
      not_mem_bytes h.current (hbreak ▸ List.mem_of_mem_take hb)
  rw [h.take_bytes hcolumn, afterBreak, List.reverse_append, List.dropWhile_append_of_pos hnone,
    ← length_bytes]
  obtain hended | ⟨before, hended⟩ := ended_getLast? earlier
  · rw [hended]
    rfl
  · rw [hended, bytes_append, List.reverse_append]
    show (10 :: (bytes before).reverse).length = _
    rw [List.length_append, List.length_cons, List.length_reverse]
    rfl

/-- A place further on is further down, or further right in the same line. -/
theorem lex_of_lt {earlier' : List Text} {current' later' : Text} {column column' : Nat}
    (h : Lines text earlier current later) (h' : Lines text earlier' current' later')
    (hcolumn' : column' ≤ current'.byteSize)
    (hlt : (ended earlier).byteSize + column < (ended earlier').byteSize + column') :
    Prod.Lex (· < ·) (· < ·) (1 + earlier.length, column) (1 + earlier'.length, column') := by
  obtain hless | hequal | hmore := Nat.lt_trichotomy earlier.length earlier'.length
  · exact .left _ _ (Nat.add_lt_add_left hless 1)
  · have hsame : earlier = earlier' := by
      rw [← h.take_splitOn, ← h'.take_splitOn, hequal]
    subst hsame
    exact .right _ (Nat.lt_of_add_lt_add_left hlt)
  · -- all of the later place's line would have ended before the earlier place
    have hprefix : earlier' ++ [current'] <+: earlier := by
      have htake : (text.splitOn '\n').take (earlier'.length + 1) = earlier' ++ [current'] := by
        rw [List.take_add_one, h'.take_splitOn, h'.getElem?_splitOn, Option.toList_some]
      rw [← htake, ← h.take_splitOn]
      exact List.take_prefix_take_left hmore
    obtain ⟨more, rfl⟩ := hprefix
    have hsize : (ended (earlier' ++ [current'] ++ more)).byteSize =
        (ended earlier').byteSize + (current'.byteSize + 1) + (ended more).byteSize := by
      simp only [byteSize_ended, List.map_append, List.sum_append, List.map_cons, List.map_nil,
        List.sum_cons, List.sum_nil, Nat.add_zero]
    omega

end Lines

/-! ### Slices -/

/-- The offsets of the breaks among bytes of which the first has the offset `start`. -/
def breaks (start : Nat) : List UInt8 → List Nat
  | [] => []
  | b :: rest => if b = 10 then start :: breaks (start + 1) rest else breaks (start + 1) rest

theorem breaks_append (start : Nat) (s t : List UInt8) :
    breaks start (s ++ t) = breaks start s ++ breaks (start + s.length) t := by
  induction s generalizing start with
  | nil => rfl
  | cons b s ih =>
    rw [List.cons_append, breaks, breaks, ih, List.length_cons, Nat.add_right_comm, Nat.add_assoc]
    split <;> rfl

theorem breaks_of_not_mem {bytes : List UInt8} (h : 10 ∉ bytes) (start : Nat) :
    breaks start bytes = [] := by
  induction bytes generalizing start with
  | nil => rfl
  | cons b bytes ih =>
    obtain ⟨hb, hbytes⟩ := not_or.1 (mt List.mem_cons.2 h)
    rw [breaks, if_neg (Ne.symm hb), ih hbytes]

/-- The characters between two offsets, which have to be in order, within the text and at
boundaries of characters. -/
def slice? (text : Text) (start stop : Nat) : Option Text :=
  if start ≤ stop then do
    let segment ← dropBytes? start text
    let after ← dropBytes? stop text
    some (segment.take (segment.length - after.length))
  else none

theorem slice?_append (before segment after : Text) :
    slice? (before ++ (segment ++ after)) before.byteSize (before ++ segment).byteSize =
      some segment := by
  have hafter : dropBytes? (before ++ segment).byteSize (before ++ (segment ++ after)) =
      some after := by
    rw [← List.append_assoc]
    exact dropBytes?_byteSize _ _
  rw [slice?, if_pos (by rw [byteSize_append]; exact Nat.le_add_right _ _), dropBytes?_byteSize,
    hafter]
  show some ((segment ++ after).take ((segment ++ after).length - after.length)) = _
  rw [List.length_append, Nat.add_sub_cancel, List.take_left]

end Text

namespace Location
open Text

/-! ### The place of an offset -/

theorem scan_around (line column : Nat) (seen : Text) (left : Nat) (text : Text)
    (hseen : '\n' ∉ seen) (hcolumn : column = byteSize seen.reverse)
    (hleft : left ≤ text.byteSize) :
    ∃ earlier current later column', Lines (seen.reverse ++ text) earlier current later ∧
      column' ≤ current.byteSize ∧ (ended earlier).byteSize + column' = column + left ∧
      scan line column seen left text =
        ⟨String.ofList current, line + earlier.length, column'⟩ := by
  have hbreak : '\n'.utf8Size = 1 := rfl
  fun_induction scan line column seen left text with
  | case1 line column seen left =>
    refine ⟨[], seen.reverse, [], column + left, ⟨rfl, by simp, by simpa, .inl rfl⟩, ?_, ?_, rfl⟩
    · rw [byteSize_nil] at hleft
      omega
    · exact Nat.zero_add _
  | case2 line column seen left rest hfits ih =>
    -- the line has come to its end
    rw [hbreak] at hfits
    rw [byteSize_cons, hbreak] at hleft
    obtain ⟨earlier, current, later, column', hlines, hle, hsize, hscan⟩ :=
      ih (by simp) rfl (by omega)
    have hended : (ended (seen.reverse :: earlier)).byteSize =
        column + 1 + (ended earlier).byteSize := by
      rw [ended_cons, byteSize_append, byteSize_cons, hbreak, hcolumn, Nat.add_assoc]
    refine ⟨seen.reverse :: earlier, current, later, column', hlines.cons (by simpa), hle, ?_, ?_⟩
    · omega
    · rw [hscan, List.length_cons, Nat.add_assoc, Nat.add_comm 1]
  | case3 line column seen left c rest hfits hc ih =>
    rw [byteSize_cons] at hleft
    obtain ⟨earlier, current, later, column', hlines, hle, hsize, hscan⟩ :=
      ih (by simpa using ⟨Ne.symm hc, hseen⟩) (by simp [hcolumn]) (by omega)
    rw [List.reverse_cons, List.append_assoc] at hlines
    exact ⟨earlier, current, later, column', hlines, hle, by omega, hscan⟩
  | case4 line column seen left c rest hfits =>
    have hseen' : ∀ c ∈ seen.reverse, decide (c ≠ '\n') = true := fun c hc =>
      decide_eq_true fun hbreak => hseen (List.mem_reverse.1 (hbreak ▸ hc))
    have hlines := Lines.first (seen.reverse ++ c :: rest)
    rw [List.takeWhile_append_of_pos hseen', List.dropWhile_append_of_pos hseen'] at hlines
    refine ⟨[], _, _, column + left, hlines, ?_, Nat.zero_add _, rfl⟩
    rw [byteSize_append, ← hcolumn]
    obtain rfl | hc := eq_or_ne c '\n'
    · omega
    · rw [List.takeWhile_cons_of_pos (by simpa using hc), byteSize_cons]
      omega

/-- The lines around the place of an offset. -/
theorem exists_around (text : Text) (offset : Nat) :
    ∃ earlier current later column, Lines text earlier current later ∧
      column ≤ current.byteSize ∧
      (ended earlier).byteSize + column = min offset text.byteSize ∧
      ofOffset text offset = ⟨String.ofList current, 1 + earlier.length, column⟩ := by
  obtain ⟨earlier, current, later, column, hlines, hle, hsize, hplace⟩ :=
    scan_around 1 0 [] (min offset text.byteSize) text (List.not_mem_nil) rfl
      (Nat.min_le_right _ _)
  exact ⟨earlier, current, later, column, hlines, hle, by rw [hsize, Nat.zero_add], hplace⟩

/-- The place of an offset in line number `line`, whose bytes are those from `start` up to
`stop`. -/
def inLine? (text : Text) (offset start line stop : Nat) : Option Location := do
  let current ← text.slice? start stop
  if start ≤ offset then some ⟨String.ofList current, line, offset - start⟩ else none

/-- The place of an offset from line number `line` on, which begins at `start`, by the offsets
of the breaks from there on. -/
def fromLine? (text : Text) (offset start line : Nat) : List Nat → Option Location
  | [] => inLine? text offset start line text.byteSize
  | stop :: breaks =>
    if offset ≤ stop then inLine? text offset start line stop
    else fromLine? text offset (stop + 1) (line + 1) breaks

/-- The place of an offset, if all that is cut out of the text on the way can be cut. -/
def ofOffset? (text : Text) (offset : Nat) : Option Location :=
  fromLine? text (min offset text.byteSize) 0 1 (breaks 0 text.bytes)

theorem inLine?_append (before current later : Text) (line : Nat) (column : Nat) :
    inLine? (before ++ (current ++ later)) (before.byteSize + column) before.byteSize line
        (before ++ current).byteSize =
      some ⟨String.ofList current, line, column⟩ := by
  rw [inLine?, slice?_append]
  show (if _ then some _ else none) = _
  rw [if_pos (Nat.le_add_right _ _), Nat.add_sub_cancel_left]

/-- No cut fails from the beginning of a line on. -/
theorem fromLine?_append {rest current later : Text} {earlier : List Text}
    (h : Lines rest earlier current later) {column : Nat} (hcolumn : column ≤ current.byteSize)
    (before : Text) (line : Nat) :
    fromLine? (before ++ rest) (before.byteSize + ((ended earlier).byteSize + column))
        before.byteSize line (breaks before.byteSize rest.bytes) =
      some ⟨String.ofList current, line + earlier.length, column⟩ := by
  obtain ⟨rfl, hearlier, hcurrent, hlater⟩ := h
  induction earlier generalizing before line with
  | nil =>
    show fromLine? (before ++ (current ++ later)) (before.byteSize + (0 + column)) _ _
      (breaks _ (current ++ later).bytes) = _
    rw [Nat.zero_add, bytes_append, breaks_append, breaks_of_not_mem (not_mem_bytes hcurrent),
      List.nil_append, length_bytes, ← byteSize_append]
    obtain rfl | ⟨more, rfl⟩ := hlater
    · have hsize : (before ++ (current ++ [])).byteSize = (before ++ current).byteSize := by
        rw [List.append_nil]
      show inLine? _ _ _ _ _ = _
      rw [hsize]
      exact inLine?_append before current [] line column
    · rw [bytes_break, breaks, if_pos rfl, fromLine?, if_pos]
      · exact inLine?_append before current ('\n' :: more) line column
      · rw [byteSize_append]
        exact Nat.add_le_add_left hcolumn _
  | cons ahead earlier ih =>
    obtain ⟨hahead, hearlier⟩ := List.forall_mem_cons.1 hearlier
    have hbreak : '\n'.utf8Size = 1 := rfl
    have hnext := ih (before ++ (ahead ++ ['\n'])) (line + 1) hearlier
    have hstart : (before ++ (ahead ++ ['\n'])).byteSize = (before ++ ahead).byteSize + 1 := by
      rw [← List.append_assoc, byteSize_append]
      rfl
    have hended : (ended (ahead :: earlier)).byteSize =
        ahead.byteSize + (1 + (ended earlier).byteSize) := by
      rw [ended_cons, byteSize_append, byteSize_cons, hbreak]
    have htext : ended (ahead :: earlier) ++ (current ++ later) =
        ahead ++ '\n' :: (ended earlier ++ (current ++ later)) := by
      rw [ended_cons, List.append_assoc, List.cons_append]
    have hbefore : before ++ (ahead ++ '\n' :: (ended earlier ++ (current ++ later))) =
        before ++ (ahead ++ ['\n']) ++ (ended earlier ++ (current ++ later)) := by
      rw [List.append_assoc, List.append_assoc]
      rfl
    have hoffset : before.byteSize + ((ended (ahead :: earlier)).byteSize + column) =
        (before ++ (ahead ++ ['\n'])).byteSize + ((ended earlier).byteSize + column) := by
      rw [hended, hstart, byteSize_append]
      omega
    have hpast : ¬before.byteSize + ((ended (ahead :: earlier)).byteSize + column) ≤
        (before ++ ahead).byteSize := by
      rw [hoffset, hstart]
      omega
    rw [htext, bytes_append, bytes_break, breaks_append,
      breaks_of_not_mem (not_mem_bytes hahead), List.nil_append, length_bytes, ← byteSize_append,
      breaks, if_pos rfl, fromLine?, if_neg hpast, hbefore, ← hstart, hoffset, hnext,
      List.length_cons, Nat.add_assoc, Nat.add_comm 1]

/-- Every cut is in order, within the text and at boundaries of characters. -/
theorem ofOffset?_eq (text : Text) (offset : Nat) :
    ofOffset? text offset = some (ofOffset text offset) := by
  obtain ⟨earlier, current, later, column, hlines, hle, hsize, hplace⟩ := exists_around text offset
  have hfrom := fromLine?_append hlines hle [] 1
  rw [List.nil_append, byteSize_nil, Nat.zero_add, hsize] at hfrom
  rw [ofOffset?, hfrom, hplace]

/-- A place by the naive definition: the line is counted by the breaks before it, the column is
what comes after the last of them, and the shown line is the segment between two breaks, or
ends of the text, in which it is. -/
structure IsPlace (text : Text) (offset : Nat) (place : Location) : Prop where
  line_eq : place.line = 1 + (text.bytes.take offset).count 10
  column_eq : place.column = offset - afterBreak (text.bytes.take offset)
  /-- What is shown has no break in it, and is as long as it can be. -/
  around : ∃ before after, text = before ++ (place.sourceLine.toList ++ after) ∧
    '\n' ∉ place.sourceLine.toList ∧
    (before = [] ∨ before.getLast? = some '\n') ∧ (after = [] ∨ after.head? = some '\n') ∧
    before.byteSize + place.column = offset
  sourceLine_eq : (text.splitOn '\n')[place.line - 1]? = some place.sourceLine.toList
  column_le : place.column ≤ byteSize place.sourceLine.toList
  /-- Every earlier line has its bytes and its break before the place. -/
  offset_eq : (((text.splitOn '\n').take (place.line - 1)).map fun l => byteSize l + 1).sum +
    place.column = offset

theorem IsPlace.of_lines {text current later : Text} {earlier : List Text} {column : Nat}
    (h : Lines text earlier current later) (hcolumn : column ≤ current.byteSize) :
    IsPlace text ((ended earlier).byteSize + column)
      ⟨String.ofList current, 1 + earlier.length, column⟩ where
  line_eq := by rw [h.count_before hcolumn]
  column_eq := by rw [h.afterBreak_before hcolumn, Nat.add_sub_cancel_left]
  around := by
    refine ⟨ended earlier, later, ?_, ?_, ?_, ?_, rfl⟩
    · rw [String.toList_ofList]
      exact h.text_eq
    · rw [String.toList_ofList]
      exact h.current
    · obtain hnone | ⟨before, hbefore⟩ := ended_getLast? earlier
      · exact .inl hnone
      · exact .inr (by rw [hbefore, List.getLast?_concat])
    · obtain hnone | ⟨more, hmore⟩ := h.later
      · exact .inl hnone
      · exact .inr (by rw [hmore, List.head?_cons])
  sourceLine_eq := by
    rw [String.toList_ofList, Nat.add_sub_cancel_left]
    exact h.getElem?_splitOn
  column_le := by rwa [String.toList_ofList]
  offset_eq := by
    show (((text.splitOn '\n').take (1 + earlier.length - 1)).map _).sum + column = _
    rw [Nat.add_sub_cancel_left, h.take_splitOn, byteSize_ended]

/-- The place of every offset can be read off without a cut that fails, is the one of the naive
definition, and is before the place of every greater offset of the text. -/
theorem ofOffset_counts_breaks (text : Text) (offset : Nat) :
    ofOffset? text offset = some (ofOffset text offset) ∧
      IsPlace text (min offset text.byteSize) (ofOffset text offset) ∧
      ∀ offset', offset < offset' → offset' ≤ text.byteSize →
        Prod.Lex (· < ·) (· < ·)
          ((ofOffset text offset).line, (ofOffset text offset).column)
          ((ofOffset text offset').line, (ofOffset text offset').column) := by
  obtain ⟨earlier, current, later, column, hlines, hle, hsize, hplace⟩ := exists_around text offset
  refine ⟨ofOffset?_eq text offset, ?_, fun offset' hlt hwithin => ?_⟩
  · rw [hplace, ← hsize]
    exact .of_lines hlines hle
  · obtain ⟨earlier', current', later', column', hlines', hle', hsize', hplace'⟩ :=
      exists_around text offset'
    rw [hplace, hplace']
    have hfurther : (ended earlier).byteSize + column < (ended earlier').byteSize + column' := by
      omega
    exact hlines.lex_of_lt hlines' hle' hfurther

/-- Offsets inside a character, on a break and past the end. -/
theorem ofOffset_accented :
    let text : Text := "é\n\nab".toList
    (1 < 3 ∧ 3 ≤ text.byteSize ∧ Prod.Lex (· < ·) (· < ·) (1, 1) (2, 0)) ∧
      IsPlace text 6 ⟨"ab", 3, 2⟩ := by
  intro text
  obtain ⟨-, -, hlater⟩ := ofOffset_counts_breaks text 1
  obtain ⟨-, hend, -⟩ := ofOffset_counts_breaks text 9
  exact ⟨⟨by decide, by decide, hlater 3 (by decide) (by decide)⟩, hend⟩

end Location

end Descent
