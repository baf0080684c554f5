import Descent.Proofs.Coupling.Combinators
import Descent.Proofs.Shape

/-! One layer of a grammar after another.

`layer_follows` is where a coupling meets the syntax: a grammar follows one like it when
the parts do. It is the only proof that goes through all constructors, and everything
that is said of evaluations later is an induction with it as the step. Two kinds of
nodes look at what a coupling may relate loosely (`Admits`), and after parting three
kinds of loops need a reason to end (`Escapes`). -/
namespace Descent
open Descent.Grammar

namespace Coupling
variable {ω ω' : Type} {C : Coupling ω ω'} {R N : Grammar → Grammar → Prop}

variable (C) in
/-- What the node looks at is the same on both sides, and its faults are allowed. -/
def Admits : Grammar → Prop
  | .position => ∀ t t', C.stream t t' → t.location = t'.location
  | .advance _ => C.faults ∧ ∀ t t', C.stream t t' → t.offset = t'.offset
  | .rewind => (∀ t t', C.stream t t' → C.stream (.start t.source) (.start t'.source)) ∧
      ∀ base t, C.ahead base t → C.ahead base (.start t.source)
  | .getState | .readState _ => ∀ s s', C.state s s' → s = s'
  | _ => True

variable (C) in
/-- The right machine gets out of the loop at the node when it is alone with it. -/
def Escapes (parts : ℕ → Parts ω') : Grammar → Prop
  | .manyTill p ending => ∀ found, C.Alone fun m =>
      Parser.manyTillFrom ((parts m).apply p) ((parts m).apply ending) found m
  | .chainLeft operator p combine => ∀ acc, C.Alone fun m =>
      Parser.chainLeftFrom (Parser.map combine ((parts m).apply operator)) ((parts m).apply p) acc m
  | .chainRight operator p combine => ∀ pending last, C.Alone fun m =>
      Parser.chainRightFrom (Parser.map combine ((parts m).apply operator)) ((parts m).apply p)
        pending last m
  | _ => True

variable (C R N) in
/-- The parts of the grammar are followed by what is related to them. -/
structure PartsFollow (parts : Parts ω) (parts' : ℕ → Parts ω') (g' : Grammar) : Prop where
  apply : ∀ {p p'}, R p p' → C.Follows (parts.apply p) fun m => (parts' m).apply p'
  chosen : ∀ {p p'}, N p p' → C.Follows (parts.chosen p) fun m => (parts' m).chosen p'
  nested : ∀ {config p p'}, g' = .nestedRun config p' → R p p' →
    C.Follows (parts.nested config p) fun m => (parts' m).nested config p'
  /-- What becomes of states that correspond corresponds. -/
  written : ∃ written', (∀ m, (parts' m).written = written') ∧
    ∀ s s', C.state s s' → C.state (parts.written s) (written' s')
  rounds : ∀ m, (parts' m).rounds = parts.rounds + m

namespace PartsFollow
variable {parts : Parts ω} {parts' : ℕ → Parts ω'}

theorem applyAll {g' : Grammar} (h : C.PartsFollow R N parts parts' g') {ps ps' : List Grammar}
    (hps : List.Forall₂ R ps ps') :
    List.Forall₂ C.Follows (ps.map parts.apply) (ps'.map fun p m => (parts' m).apply p) := by
  rw [List.forall₂_map_left_iff, List.forall₂_map_right_iff]
  exact hps.imp fun _ _ => h.apply

end PartsFollow

/-- **A grammar follows a grammar like it**, when its parts do. -/
theorem layer_follows (hC : C.Lawful) {parts : Parts ω} {parts' : ℕ → Parts ω'}
    {g g' : Grammar} (hparts : C.PartsFollow R N parts parts' g') (hg : Like R N g g')
    (hadmits : C.Admits g') (hescapes : C.Escapes parts' g') :
    C.Follows (layer parts g) fun m => layer (parts' m) g' := by
  cases hg with
  | succeed v => exact Follows.succeed v
  | fail message => exact Follows.fail hC message
  | map f h => exact (hparts.apply h).map f
  | mapMessages f h => exact (hparts.apply h).mapMessages hC f
  | bind h hnext => exact (hparts.apply h).bind fun v => hparts.chosen (hnext v)
  | literal text => exact (Follows.literal hC text).map ofText
  | pattern pat => exact (Follows.pattern hC pat).map ofText
  | takeWhile keep => exact (Follows.takeWhile hC keep).map ofText
  | anyChar => exact (Follows.anyChar hC).map _
  | endOfInput => exact (Follows.endOfInput hC).map _
  | position => exact (Follows.position hadmits).map ofLocation
  | lookAhead h => exact (hparts.apply h).lookAhead
  | notFollowedBy h => exact ((hparts.apply h).notFollowedBy hC).map _
  | recognize h => exact ((hparts.apply h).recognize hC).map ofText
  | take n => exact (Follows.take hC n).map ofText
  | advance n => exact (Follows.advance hC n hadmits.1 hadmits.2).map _
  | rewind => exact (Follows.rewind hadmits.1 hadmits.2).map _
  | then_ h h₂ => exact (hparts.apply h).then_ (hparts.apply h₂)
  | skipRight h h₂ => exact (hparts.apply h).skipRight (hparts.apply h₂)
  | pair h h₂ => exact ((hparts.apply h).pair (hparts.apply h₂)).map ofPair
  | ap h h₂ => exact Follows.ap ((hparts.apply h).map applied) (hparts.apply h₂)
  | between ho hc h => exact Follows.between (hparts.apply ho) (hparts.apply hc) (hparts.apply h)
  | sequence h =>
    simpa only [layer, List.map_map, Function.comp_def] using
      (Follows.sequence (hparts.applyAll h)).map Value.array
  | count n h => exact ((hparts.apply h).count n).map Value.array
  | or h h₂ => exact (hparts.apply h).or hC (hparts.apply h₂)
  | choice h =>
    simpa only [layer, List.map_map, Function.comp_def] using Follows.choice hC (hparts.applyAll h)
  | optional default h => exact (hparts.apply h).optional hC default
  | maybe h => exact (hparts.apply h).maybe.map ofOption
  | label name h => exact (hparts.apply h).label hC name
  | many h =>
    simp only [layer, hparts.rounds]
    exact ((hparts.apply h).many hC _).map Value.array
  | many1 h =>
    simp only [layer, hparts.rounds]
    exact ((hparts.apply h).many1 hC _).map Value.array
  | manyTill h he =>
    simp only [layer, hparts.rounds]
    exact ((hparts.apply h).manyTill (hparts.apply he) hescapes _).map Value.array
  | sepBy hs h =>
    simp only [layer, hparts.rounds]
    exact ((hparts.apply hs).sepBy hC (hparts.apply h) _).map Value.array
  | sepBy1 hs h =>
    simp only [layer, hparts.rounds]
    exact ((hparts.apply hs).sepBy1 hC (hparts.apply h) _).map Value.array
  | sepEndBy hs h =>
    simp only [layer, hparts.rounds]
    exact ((hparts.apply hs).sepEndBy hC (hparts.apply h) _).map Value.array
  | sepEndBy1 hs h =>
    simp only [layer, hparts.rounds]
    exact ((hparts.apply hs).sepEndBy1 hC (hparts.apply h) _).map Value.array
  | skip h => exact (hparts.apply h).skip.map _
  | skipMany h =>
    simp only [layer, hparts.rounds]
    exact ((hparts.apply h).skipMany hC _).map _
  | skipMany1 h =>
    simp only [layer, hparts.rounds]
    exact ((hparts.apply h).skipMany1 hC _).map _
  | chainLeft combine ho h =>
    simp only [layer, hparts.rounds]
    exact Follows.chainLeft ((hparts.apply ho).map combine) (hparts.apply h) hescapes _
  | chainRight combine ho h =>
    simp only [layer, hparts.rounds]
    exact Follows.chainRight ((hparts.apply ho).map combine) (hparts.apply h) hescapes _
  | getState => exact Follows.getState hadmits
  | replaceState state =>
    obtain ⟨written', hwritten, hstate⟩ := hparts.written
    simp only [layer, hwritten]
    exact (Follows.replaceState (hstate _ _ (hC.state_refl state))).map _
  | transformState f =>
    obtain ⟨written', hwritten, hstate⟩ := hparts.written
    simp only [layer, hwritten]
    exact (Follows.transformState fun s s' hs => hstate _ _ (hC.state_map f hs)).map _
  | readState hnext =>
    simp only [layer]
    exact Follows.readState hadmits fun v => hparts.chosen (hnext v)
  | nestedRun config h => exact hparts.nested rfl h

end Coupling

end Descent
