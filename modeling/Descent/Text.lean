/-! Text as its characters, measured in UTF-8 bytes.

Every offset and every size of this library counts bytes of the UTF-8 encoding,
while the rules about text are rules about characters. This file is the bridge:
`byteSize` measures a text, `dropBytes?` cuts it at a byte offset and refuses
the offsets that lie inside a character, `takeBytes` keeps the whole characters
that fit. `byteSize_append` and `dropBytes?_byteSize` are the two facts the
other modules use. -/
namespace Descent

/-- A text is the list of its characters. -/
abbrev Text := List Char

namespace Text

/-- The length of the UTF-8 encoding. -/
def byteSize (text : Text) : Nat :=
  text.foldl (fun size c => size + c.utf8Size) 0

/-- What remains after exactly `n` bytes; `none` past the end or inside a character. -/
def dropBytes? : Nat → Text → Option Text
  | 0, text => some text
  | _ + 1, [] => none
  | n + 1, c :: rest => if c.utf8Size ≤ n + 1 then dropBytes? (n + 1 - c.utf8Size) rest else none

/-- The whole characters within the first `n` bytes, after those already `taken`
(kept in reverse). -/
def takeBytesFrom (taken : Text) : Nat → Text → Text
  | _, [] => taken.reverse
  | n, c :: rest =>
    if c.utf8Size ≤ n then takeBytesFrom (c :: taken) (n - c.utf8Size) rest else taken.reverse

/-- The whole characters within the first `n` bytes. -/
def takeBytes (n : Nat) (text : Text) : Text := takeBytesFrom [] n text

/-- What remains after `head`, if the text starts with it. -/
def after? : (head : Text) → Text → Option Text
  | [], text => some text
  | _ :: _, [] => none
  | h :: head, c :: rest => if h = c then after? head rest else none

/-! ### Sizes -/

theorem foldl_size (text : Text) (n : Nat) :
    text.foldl (fun size c => size + c.utf8Size) n = n + byteSize text := by
  induction text generalizing n with
  | nil => rfl
  | cons c rest ih =>
    rw [byteSize, List.foldl_cons, List.foldl_cons, ih, ih]
    omega

@[simp] theorem byteSize_nil : byteSize [] = 0 := rfl

@[simp] theorem byteSize_cons (c : Char) (rest : Text) :
    byteSize (c :: rest) = c.utf8Size + byteSize rest := by
  rw [byteSize, List.foldl_cons, foldl_size, Nat.zero_add]

theorem byteSize_eq_zero {text : Text} : byteSize text = 0 ↔ text = [] := by
  cases text with
  | nil => simp
  | cons c rest =>
    have := c.utf8Size_pos
    simp only [byteSize_cons, reduceCtorEq, iff_false]
    omega

@[simp] theorem byteSize_append (s t : Text) : byteSize (s ++ t) = byteSize s + byteSize t := by
  induction s with
  | nil => simp
  | cons c s ih => simp [ih, Nat.add_assoc]

/-- Of two cuts of a text the one at the smaller size is in what comes before the other. -/
theorem exists_between {x y u v : Text} (h : x ++ y = u ++ v) (hle : x.byteSize ≤ u.byteSize) :
    ∃ between : Text, u = x ++ between ∧ y = between ++ v := by
  obtain hbetween | ⟨more, rfl, rfl⟩ := List.append_eq_append_iff.mp h
  · exact hbetween
  · rw [byteSize_append] at hle
    obtain rfl := byteSize_eq_zero.mp (show byteSize more = 0 by omega)
    exact ⟨[], by rw [List.append_nil, List.append_nil], rfl⟩

/-- A text starts with itself: cutting it off leaves what follows. -/
theorem after?_append (head rest : Text) : after? head (head ++ rest) = some rest := by
  induction head with
  | nil => rfl
  | cons h head ih => simp [after?, ih]

theorem eq_append_of_after? {head text rest : Text} (h : after? head text = some rest) :
    text = head ++ rest := by
  induction head generalizing text with
  | nil => simpa [after?] using h
  | cons c head ih =>
    cases text with
    | nil => simp [after?] at h
    | cons d text =>
      simp only [after?] at h
      split at h
      · next hcd => simp [hcd, ih h]
      · simp at h

/-- Cutting further than a size that whole characters fill. -/
theorem dropBytes?_add (head rest : Text) (n : Nat) :
    dropBytes? (byteSize head + n) (head ++ rest) = dropBytes? n rest := by
  induction head with
  | nil => rw [byteSize_nil, Nat.zero_add, List.nil_append]
  | cons c head ih =>
    have hc := c.utf8Size_pos
    obtain ⟨m, hm⟩ : ∃ m, c.utf8Size + byteSize head + n = m + 1 :=
      ⟨c.utf8Size + byteSize head + n - 1, by omega⟩
    rw [byteSize_cons, List.cons_append, hm, dropBytes?, if_pos (by omega), ← hm, Nat.add_assoc,
      Nat.add_sub_cancel_left, ih]

/-- Cutting at a size that whole characters fill. -/
theorem dropBytes?_byteSize (head rest : Text) :
    dropBytes? (byteSize head) (head ++ rest) = some rest := by
  rw [← Nat.add_zero (byteSize head), dropBytes?_add, dropBytes?]

theorem takeBytesFrom_byteSize (taken head rest : Text) :
    takeBytesFrom taken (byteSize head) (head ++ rest) = taken.reverse ++ head := by
  induction head generalizing taken with
  | nil =>
    cases rest with
    | nil => simp [takeBytesFrom]
    | cons c rest =>
      have hc := c.utf8Size_pos
      simp [takeBytesFrom, show ¬c.utf8Size ≤ 0 by omega]
  | cons c head ih => simp [takeBytesFrom, ih]

/-- Keeping what fills the size. -/
theorem takeBytes_byteSize (head rest : Text) : takeBytes (byteSize head) (head ++ rest) = head :=
  takeBytesFrom_byteSize [] head rest

/-- What is cut off fills the size at which it was cut. -/
theorem eq_append_of_dropBytes? {n : Nat} {text rest : Text} (h : dropBytes? n text = some rest) :
    ∃ taken : Text, text = taken ++ rest ∧ taken.byteSize = n := by
  induction text generalizing n with
  | nil =>
    cases n with
    | zero => exact ⟨[], by simpa [dropBytes?] using h, rfl⟩
    | succ n => simp [dropBytes?] at h
  | cons c text ih =>
    cases n with
    | zero => exact ⟨[], by simpa [dropBytes?] using h, rfl⟩
    | succ n =>
      simp only [dropBytes?] at h
      split at h
      · next hc =>
        obtain ⟨taken, rfl, hsize⟩ := ih h
        exact ⟨c :: taken, rfl, by rw [byteSize_cons, hsize]; omega⟩
      · cases h

end Text

end Descent
