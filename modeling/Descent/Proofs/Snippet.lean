import Descent.Proofs.Location
import Descent.Proofs.Report

/-! What a snippet shows.

A snippet is two lines, a line of the text behind a margin and a caret. The column counts
bytes and the caret stands behind characters, of the margin and of the line, so the two have to
be brought together: what stands before the place in its line fills the column
(`Location.exists_parts`), and its characters are the width (`Location.width_eq`). Then the
caret is under the character at the place (`Location.snippet_points`), in the snippet of a place
and in every report about it. -/
namespace Descent

namespace Location
open Text

/-- Two lines point at the place between two parts of a text. The first is the line of the place
behind a margin. The second is blank up to its last character, a caret, which has this index and
is under the character that comes at the place. -/
structure Pointed (before after : Text) (place : Location) (top bottom : Text) (caret : Nat) :
    Prop where
  top_eq : top = place.gutter.toList ++ place.sourceLine.toList
  bottom_eq : bottom = List.replicate caret ' ' ++ ['^']
  not_mem_top : '\n' ∉ top
  not_mem_bottom : '\n' ∉ bottom
  /-- The caret has to its left as much as the margin and what stands in the line before the
  place. -/
  parts : ∃ earlier left right later, before = earlier ++ left ∧ after = right ++ later ∧
    (earlier = [] ∨ ∃ more, earlier = more ++ ['\n']) ∧
    (later = [] ∨ ∃ more, later = '\n' :: more) ∧
    place.sourceLine.toList = left ++ right ∧ caret = place.gutter.length + left.length
  under : ∀ c ∈ after.head?, c ≠ '\n' → top[caret]? = some c
  /-- Where a line or the text ends, the caret is one further than its last character. -/
  behind : (∀ c ∈ after.head?, c = '\n') → caret = top.length
  /-- In the margin characters are bytes. -/
  margin : byteSize place.gutter.toList = place.gutter.length

/-! ### The parts of the line -/

/-- The line of a place is what of it stands before the place and what comes there. -/
theorem exists_parts (before after : Text) :
    ∃ earlier left right later, Lines (before ++ after) earlier (left ++ right) later ∧
      before = ended earlier ++ left ∧ after = right ++ later ∧
      ofOffset (before ++ after) before.byteSize =
        ⟨String.ofList (left ++ right), 1 + earlier.length, left.byteSize⟩ := by
  obtain ⟨earlier, current, later, column, hlines, hle, hsize, hplace⟩ :=
    exists_around (before ++ after) before.byteSize
  rw [byteSize_append, Nat.min_eq_left (Nat.le_add_right _ _)] at hsize
  -- the line begins within what stands before the place, and ends within what comes after it
  obtain ⟨left, rfl, hrest⟩ := exists_between hlines.text_eq.symm (by omega)
  rw [byteSize_append] at hsize
  obtain rfl : column = left.byteSize := Nat.add_left_cancel hsize
  obtain ⟨right, rfl, rfl⟩ := exists_between hrest.symm hle
  exact ⟨earlier, left, right, later, hlines, rfl, rfl, hplace⟩

/-- Bytes before the column are characters before the caret. -/
theorem width_eq (left right : Text) (line : Nat) :
    (⟨String.ofList (left ++ right), line, left.byteSize⟩ : Location).width = left.length := by
  simp only [width, String.toList_ofList, dropBytes?_byteSize, List.length_append,
    Nat.add_sub_cancel]

/-! ### The lines of the snippet -/

theorem gutter_toList (l : Location) :
    l.gutter.toList = Report.naturalText l.line ++ [' ', '|', ' '] := by
  simp only [gutter, String.toList_append, Report.naturalText]
  rfl

theorem snippet_toList (l : Location) :
    l.snippet.toList = (l.gutter.toList ++ l.sourceLine.toList) ++
      '\n' :: (List.replicate (l.gutter.length + l.width) ' ' ++ ['^']) := by
  simp only [snippet, String.toList_append, String.toList_ofList, List.append_assoc]
  rfl

theorem not_mem_gutter (l : Location) : '\n' ∉ l.gutter.toList := by
  rw [gutter_toList, List.mem_append]
  rintro (hdigit | hbar)
  · exact absurd (Report.naturalText_isDigit hdigit) (by decide)
  · exact absurd hbar (by decide)

theorem byteSize_gutter (l : Location) : byteSize l.gutter.toList = l.gutter.length := by
  have hdigits (text : Text) (h : ∀ c ∈ text, c.isDigit = true) : byteSize text = text.length := by
    induction text with
    | nil => rfl
    | cons c text ih =>
      obtain ⟨hc, htext⟩ := List.forall_mem_cons.1 h
      have hsize : c.utf8Size = 1 := by
        have hrange : c.val ≤ 57 := (Bool.and_eq_true_iff.1 hc).2 |> of_decide_eq_true
        exact Char.utf8Size_eq_one_iff.2 (UInt32.le_trans hrange (by decide))
      rw [byteSize_cons, ih htext, hsize, List.length_cons, Nat.add_comm]
  rw [← String.length_toList, gutter_toList, byteSize_append, List.length_append,
    hdigits _ fun _ => Report.naturalText_isDigit]
  rfl

/-- A report is a headline and the snippet of its place. -/
theorem render_toList {σ : Type} (f : Failure σ) :
    f.report.render.toList = s!"error at {f.location.display}: {f.explanation}".toList ++
      '\n' :: f.location.snippet.toList := by
  have hrender : f.report.render =
      s!"error at {f.location.display}: {f.explanation}" ++ "\n" ++ f.location.snippet := rfl
  rw [hrender, String.toList_append, String.toList_append, List.append_assoc]
  rfl

/-! ### The caret -/

/-- Behind what the line has before the place comes the character at the place. -/
theorem getElem?_caret {margin left right later : Text}
    (hlater : later = [] ∨ ∃ more, later = '\n' :: more) {c : Char}
    (hc : c ∈ (right ++ later).head?) (hbreak : c ≠ '\n') :
    (margin ++ (left ++ right))[margin.length + left.length]? = some c := by
  cases right with
  | nil =>
    obtain rfl | ⟨more, rfl⟩ := hlater
    · cases hc
    · cases hc
      exact absurd rfl hbreak
  | cons d right =>
    cases hc
    rw [← List.append_assoc, ← List.length_append, List.getElem?_append_right (Nat.le_refl _),
      Nat.sub_self]
    rfl

/-- If a break or nothing comes there, it is the end of the line. -/
theorem eq_nil_of_break {right later : Text} (hright : '\n' ∉ right)
    (h : ∀ c ∈ (right ++ later).head?, c = '\n') : right = [] := by
  cases right with
  | nil => rfl
  | cons d right =>
    obtain rfl := h d rfl
    exact absurd List.mem_cons_self hright

/-- **The caret points at the character that comes next.** The snippet of a place of a text, at
any boundary of its characters, is two lines that point there. So are the last two lines of the
report about a failure at that place, whatever it says. -/
theorem snippet_points {σ : Type} (before after : Text) :
    ∃ top bottom caret,
      Pointed before after (ofOffset (before ++ after) before.byteSize) top bottom caret ∧
      (ofOffset (before ++ after) before.byteSize).snippet.toList = top ++ '\n' :: bottom ∧
      ∀ (tag : Nat) (state : σ) (messages : List String),
        let f : Failure σ :=
          ⟨state, ⟨⟨before ++ after, tag⟩, before.byteSize, after⟩, messages⟩
        f.report.render.toList = s!"error at {f.location.display}: {f.explanation}".toList ++
          '\n' :: (top ++ '\n' :: bottom) := by
  obtain ⟨earlier, left, right, later, hlines, hbefore, hafter, hplace⟩ := exists_parts before after
  have hline : (ofOffset (before ++ after) before.byteSize).sourceLine.toList = left ++ right := by
    rw [hplace, String.toList_ofList]
  have hwidth : (ofOffset (before ++ after) before.byteSize).width = left.length :=
    hplace ▸ width_eq left right _
  have hsnippet := (ofOffset (before ++ after) before.byteSize).snippet_toList
  rw [hwidth] at hsnippet
  refine ⟨_, _, _, ⟨rfl, rfl, ?_, ?_, ?_, fun c hc hbreak => ?_, fun hbreak => ?_,
    byteSize_gutter _⟩, hsnippet, fun tag state messages => ?_⟩
  · rw [hline, List.mem_append]
    exact not_or.2 ⟨not_mem_gutter _, hlines.current⟩
  · rw [List.mem_append, List.mem_replicate]
    rintro (⟨-, hblank⟩ | hcaret)
    · exact absurd hblank (by decide)
    · exact absurd hcaret (by decide)
  · exact ⟨ended earlier, left, right, later, hbefore, hafter, ended_getLast? earlier, hlines.later,
      hline, rfl⟩
  · rw [hline, ← String.length_toList]
    exact getElem?_caret hlines.later (hafter ▸ hc) hbreak
  · have hright := eq_nil_of_break (fun h => hlines.current (List.mem_append_right left h))
      (hafter ▸ hbreak)
    rw [hline, hright, List.append_nil, List.length_append, String.length_toList]
  · intro f
    rw [render_toList, ← hsnippet]
    rfl

/-- The column is 5, and the caret stands behind two characters of the line. -/
example : (ofOffset "a\né☃x".toList 7).snippet = "2 | é☃x\n      ^" := by rfl

end Location

end Descent
