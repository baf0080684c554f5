import Descent.Unicode.CharSet

/-! Sets of characters as sequences of byte ranges.

In UTF-8 a range of characters is a product of byte ranges if its ends have
encodings of one length, and all bytes after the first in which these differ take
every value. `cut?` says where a range that is no such product has to be cut, and
`sequences` are the products that remain, in ascending order. -/
namespace Descent.Regex
open Unicode

/-- First and last bytes. -/
abbrev ByteRange := Nat × Nat

namespace ByteRange

/-- Cuts a range that goes over several blocks after a part of a first one, or before a part
of the last one. -/
def cutAt? (first last block : Nat) : Option Nat :=
  if first / block < last / block then
    if first % block ≠ 0 then some ((first / block + 1) * block)
    else if last % block ≠ block - 1 then some (last / block * block)
    else none
  else none

theorem cutAt?_bounds {first last block k : Nat} (h : cutAt? first last block = some k) :
    first < k ∧ k ≤ last := by
  unfold cutAt? at h
  split at h
  · next hlt =>
    have hpos : 0 < block := by
      rcases Nat.eq_zero_or_pos block with rfl | hpos
      · simp at hlt
      · exact hpos
    have hfirst : first < (first / block + 1) * block :=
      (Nat.div_lt_iff_lt_mul hpos).1 (Nat.lt_succ_self _)
    have hstep : (first / block + 1) * block ≤ last / block * block :=
      Nat.mul_le_mul_right block hlt
    have hlast : last / block * block ≤ last := Nat.div_mul_le_self last block
    split at h
    · injection h with h
      omega
    · split at h
      · injection h with h
        omega
      · cases h
  · cases h

/-- The first code point of the second part, if a range has to be cut: where encodings become
longer, or at the border of a block of those that share their first bytes. -/
def cut? (first last : Nat) : Option Nat :=
  match [0x80, 0x800, 0x10000].find? fun k => first < k && k ≤ last with
  | some k => some k
  | none => if last < 0x80 then none else [0x40, 0x1000, 0x40000].findSome? (cutAt? first last)

/-- Both parts of a cut range have characters. -/
theorem cut?_bounds {first last k : Nat} (h : cut? first last = some k) :
    first < k ∧ k ≤ last := by
  unfold cut? at h
  split at h
  · next k' hk =>
    injection h with h
    subst h
    simpa using List.find?_some hk
  · split at h
    · cases h
    · obtain ⟨block, -, hblock⟩ := List.exists_of_findSome?_eq_some h
      exact cutAt?_bounds hblock

/-- The bytes of a character. -/
def bytes (c : Char) : List Nat := (String.utf8EncodeChar c).map UInt8.toNat

/-- The sequences of byte ranges whose words are the characters from a first to a last one. -/
def sequences (first last : Nat) : List (List ByteRange) :=
  match h : cut? first last with
  | some k =>
    have := cut?_bounds h
    sequences first (k - 1) ++ sequences k last
  | none => [(bytes (Char.ofNat first)).zip (bytes (Char.ofNat last))]
termination_by last - first
decreasing_by all_goals omega

/-- The sequences of byte ranges whose words are the characters of a set. -/
def ofSet (s : CharSet) : List (List ByteRange) :=
  s.toRanges.flatMap fun (first, last) =>
    if first < 0xD800 && 0xDFFF < last then sequences first 0xD7FF ++ sequences 0xE000 last
    else sequences first last

end ByteRange

end Descent.Regex
