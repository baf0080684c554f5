import Descent.Parser.Pattern
import Descent.Parser.Primitive
import Descent.Proofs.Anchor.Enclosed
import Descent.Proofs.Anchor.Search

/-! What a parser of a pattern consumes.

The text of a pattern is put into a group behind an assertion of the beginning. If it is a
pattern by itself, then the group is closed where it should be (`Regex.ofPattern?_wrapped`):
what is found begins at the stream, and it is the value and what was consumed
(`Parser.pattern_consumes_value`). A text that is none can close the group itself and open
another one. It is a pattern in the group then, without the assertion for all of it, and the
parser passes over what it does not find (`Parser.stray_bracket_skips`). -/
namespace Descent

namespace Regex

/-! ### The assertion -/

/-- Behind an assertion of the beginning an expression matches there only. -/
theorem atStart_behind (e : Expr) :
    (Expr.choice [Expr.sequence [.look .textStart, e]]).atStart = true := by
  have hparts : ([.look .textStart, e].flatMap Expr.parts).foldr Expr.consPart [] =
      .look .textStart :: (e.parts ++ []).foldr Expr.consPart [] := rfl
  rw [Expr.sequence, hparts]
  cases (e.parts ++ []).foldr Expr.consPart [] <;> rfl

theorem alternation?_wrapped (n : Nat) (t : Text) :
    alternation? (n + 2) [] [] ⟨{}, [], 0, wrapped t⟩ = (do
      let (part, after) ← alternation? n [] [] ⟨{}, [], 0, t ++ [')']⟩
      match after.rest with
      | ')' :: rest =>
        alternation? n [] [⟨part.expr, part.depth + 1, false⟩, ⟨.look .textStart, 0, false⟩]
          { after with flags := {}, rest }
      | _ => none) := rfl

/-- A pattern in its group is the pattern behind the assertion. -/
theorem ofPattern?_wrapped {t : Text} {e e' : Expr} (h : Expr.ofPattern? t = some e)
    (h' : Expr.ofPattern? (wrapped t) = some e') :
    e' = .choice [.sequence [.look .textStart, e]] := by
  obtain ⟨⟨part, after⟩, hread, hpart⟩ := Option.bind_eq_some_iff.1 h
  obtain ⟨hend, ⟨⟩⟩ := Option.ite_none_right_eq_some.1 hpart
  rw [Bool.and_eq_true, List.isEmpty_iff] at hend
  obtain ⟨⟨part', after'⟩, hread', hpart'⟩ := Option.bind_eq_some_iff.1 h'
  obtain ⟨-, ⟨⟩⟩ := Option.ite_none_right_eq_some.1 hpart'
  have hfuel : 2 * (wrapped t).length + 4 = 2 * t.length + 12 + 2 := by
    simp only [wrapped, List.length_append, List.length_cons, List.length_nil]
    omega
  have hahead : Ahead ⟨{}, [], 0, t⟩ ⟨{}, [], 0, t ++ [')']⟩ := ⟨_, .append t, rfl⟩
  obtain ⟨⟨inner, behind⟩, hinner, ⟨⟩, rest, hrest, hbehind⟩ :=
    alternation?_trailing (m := 2 * t.length + 12) (by omega) hahead _ hread
  rw [hfuel, alternation?_wrapped, hinner] at hread'
  cases hbehind
  dsimp only at hrest
  rw [hend.1] at hrest
  cases hrest with
  | bracket =>
    cases hread'
    rfl
  | swallowed => cases hread'

/-- The program of what is a pattern by itself is anchored. -/
theorem compile?_anchored {t : Text} {program : Program} (h : (Expr.ofPattern? t).isSome)
    (hprogram : compile? t = some program) : program.anchored = true := by
  obtain ⟨e, he⟩ := Option.isSome_iff_exists.1 h
  obtain ⟨e', he', hfits⟩ := Option.bind_eq_some_iff.1 hprogram
  obtain ⟨-, hsome⟩ := Option.ite_none_right_eq_some.1 hfits
  cases hsome
  rw [ofPattern?_wrapped he he']
  exact atStart_behind e

end Regex

namespace Parser
open Regex
variable {ω σ : Type}

variable {p : Regex.Pattern} {t : Stream}

theorem pattern_missing (h : (p.program.bind (·.search t.rest)) = none) (s : σ) (w : ω) :
    ∃ message, pattern p s t w = reject s t [message] w := by
  cases hprogram : p.program with
  | none =>
    simp only [pattern, hprogram]
    exact ⟨_, rfl⟩
  | some program =>
    rw [hprogram, Option.bind_some] at h
    simp only [pattern, hprogram, h]
    exact ⟨_, rfl⟩

/-- A parser of a pattern moves over what it finds, and over what stands before that. -/
theorem pattern_found {program : Program} {found : Span} (hprogram : p.program = some program)
    (hsearch : program.search t.rest = some found) (s : σ) (w : ω) :
    ∃ skipped v rest, t.rest = skipped ++ (v ++ rest) ∧ skipped.length = found.start ∧
      skipped.length + v.length = found.stop ∧
      pattern p s t w = accept s (t.past (skipped ++ v) rest) v w := by
  obtain ⟨⟨hle, -⟩, hstop⟩ := Program.search_spans hsearch
  have htaken : t.rest.take found.stop =
      t.rest.take found.start ++ (t.rest.take found.stop).drop found.start := by
    have hstart : (t.rest.take found.stop).take found.start = t.rest.take found.start := by
      rw [List.take_take, Nat.min_eq_left hle]
    rw [← hstart, List.take_append_drop]
  refine ⟨t.rest.take found.start, (t.rest.take found.stop).drop found.start,
    t.rest.drop found.stop, ?_, ?_, ?_, ?_⟩
  · rw [← List.append_assoc, ← htaken, List.take_append_drop]
  · exact List.length_take_of_le (Nat.le_trans hle hstop)
  · rw [← List.length_append, ← htaken]
    exact List.length_take_of_le hstop
  · rw [← htaken]
    simp only [pattern, hprogram, hsearch]
    rfl

/-- If what is taken for a pattern is one, then a parser of it finds what it moves over: its
replies are those of `recognize`. It finds something exactly if a match was found, and that
begins at the stream. -/
theorem pattern_consumes_value (hp : p.program.isSome → (Expr.ofPattern? p.source.toList).isSome)
    (s : σ) (t : Stream) (w : ω) :
    recognize (pattern p) s t w = pattern p s t w ∧
      match p.program.bind (·.search t.rest) with
      | none => ∃ message, pattern p s t w = reject s t [message] w
      | some found => found.start = 0 ∧ ∃ v rest, t.rest = v ++ rest ∧ v.length = found.stop ∧
          pattern p s t w = accept s (t.past v rest) v w := by
  cases hfound : p.program.bind (·.search t.rest) with
  | none =>
    obtain ⟨message, hreject⟩ := pattern_missing hfound s w
    exact ⟨by rw [recognize_of_reject hreject, hreject], message, hreject⟩
  | some found =>
    obtain ⟨program, hprogram, hsearch⟩ := Option.bind_eq_some_iff.1 hfound
    have hself := hp (by rw [hprogram, Option.isSome_some])
    have hstart : found.start = 0 :=
      (Program.search_spans hsearch).begins.eq_zero
        (compile?_anchored hself (p.program_eq ▸ hprogram))
    obtain ⟨skipped, v, rest, hrest, hskipped, hlength, haccept⟩ :=
      pattern_found hprogram hsearch s w
    rw [hstart, List.length_eq_zero_iff] at hskipped
    subst hskipped
    rw [List.nil_append] at hrest haccept
    rw [List.length_nil, Nat.zero_add] at hlength
    exact ⟨by rw [recognize_of_accept hrest haccept, haccept], hstart, v, rest, hrest, hlength,
      haccept⟩

/-- Alternatives that are a pattern by themselves, in the middle of a text. -/
theorem pairs_consumed :
    let p : Regex.Pattern := .ofString "(?:ab)+|c$"
    let t : Stream := ⟨⟨"xababc".toList, 0⟩, 1, "ababc".toList⟩
    (p.program.isSome → (Expr.ofPattern? p.source.toList).isSome) ∧
      recognize (pattern p) () t () = accept () ⟨t.source, 5, ['c']⟩ "abab".toList () := by
  intro p t
  have hread : (Expr.ofPattern? p.source.toList).isSome := by decide +kernel
  have hsearch : p.program.map (·.search t.rest) = some (some ⟨0, 4⟩) := by decide +kernel
  obtain ⟨program, hprogram, hfound⟩ := Option.map_eq_some_iff.1 hsearch
  refine ⟨fun _ => hread, ?_⟩
  rw [(pattern_consumes_value (fun _ => hread) () t ()).1]
  simp only [pattern, hprogram, hfound]
  rfl

/-- The first closing bracket ends the group around the pattern: the second alternative is found
behind a character that is consumed with it. -/
theorem stray_bracket_skips :
    ¬∀ (p : Regex.Pattern) (s : Unit) (t : Stream) (w : Unit), t.Valid →
      recognize (pattern p) s t w = pattern p s t w := by
  intro h
  let p : Regex.Pattern := .ofString "a)|(?:b"
  have hsearch : p.program.map (·.search ['x', 'b']) = some (some ⟨1, 2⟩) := by decide +kernel
  obtain ⟨program, hprogram, hfound⟩ := Option.map_eq_some_iff.1 hsearch
  have hsame := h p () (.start ⟨['x', 'b'], 0⟩) () (Stream.start_valid _)
  have hvalue : pattern p () (.start ⟨['x', 'b'], 0⟩) () =
      accept () ⟨⟨['x', 'b'], 0⟩, 2, []⟩ ['b'] () := by
    simp only [pattern, hprogram, Stream.start, hfound]
    rfl
  have hrest : (Stream.start ⟨['x', 'b'], 0⟩).rest = ['x', 'b'] ++ [] := rfl
  have hconsumed : recognize (pattern p) () (.start ⟨['x', 'b'], 0⟩) () =
      accept () ⟨⟨['x', 'b'], 0⟩, 2, []⟩ ['x', 'b'] () := recognize_of_accept hrest hvalue
  rw [hconsumed, hvalue] at hsame
  cases hsame

end Parser

end Descent
