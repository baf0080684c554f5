import Descent.Proofs.Variant.Evaluation

/-! After an excess nothing more is built.

Once a run has tripped, deferred parsers fail at once, all with the same message. So
whatever is still applied goes on as if each of them were that failure: `cutShort` is the
evaluation in which they are, and it never looks at a cell. It and the evaluation are the
same there (`nothing_more_is_built`), through choices and loops that go on after the
failure, and for what is chosen and built on the way. That makes new cells, which wait for
ever; those that were there stay as they are, and the counts too. -/
namespace Descent
open Descent.Grammar Descent.Coupling

/-- New cells at most, which wait; all others are untouched, and none has begun to be built. -/
structure Heap.OnlyNew (h h' : Heap) : Prop where
  cells : ∃ new : Array Cell, h'.cells = h.cells ++ new ∧ ∀ c ∈ new, c.status = .waiting
  builds : h'.builds = h.builds

theorem Heap.OnlyNew.refl (h : Heap) : h.OnlyNew h := ⟨⟨#[], by simp, by simp⟩, rfl⟩

theorem Heap.OnlyNew.alloc {h h' : Heap} (hh : h.OnlyNew h') {c : Cell}
    (hc : c.status = .waiting) : h.OnlyNew (h'.alloc c) := by
  obtain ⟨⟨new, hnew, hwaiting⟩, hbuilds⟩ := hh
  refine ⟨⟨new.push c, ?_, fun d hd => ?_⟩, hbuilds⟩
  · rw [Heap.alloc, hnew, Array.append_push]
  · obtain hd | rfl := Array.mem_push.mp hd
    · exact hwaiting d hd
    · exact hc

/-- The account is as it was, and only new cells have been made. -/
structure World.Idle (w w' : World Heap) : Prop where
  ledger : w'.ledger = w.ledger
  heap : w.heap.OnlyNew w'.heap

namespace Grammar
variable {setting : Setting} {n : ℕ} {g g' : Grammar} {w₀ : World Heap} {e : Excess}

/-- Deferred parsers cut short: each is the failure with the message. -/
def severed (setting : Setting) (message : String)
    (apply : Grammar → Parser (World Heap) Value Value) : Grammar → Parser (World Heap) Value Value
  | .cell _ => Parser.fail message
  | g => buildThen setting apply g

/-- The parser of a grammar that was built, whose deferred parsers all fail with the message
where they are applied. -/
def cutShort (setting : Setting) (message : String) :
    (fuel : ℕ) → Grammar → Parser (World Heap) Value Value
  | 0, _ => fun _ _ _ => .outOfFuel
  | n + 1, g => layer { parts setting (cutShort setting message n) n with
      recursive := severed setting message (cutShort setting message n) } g

/-- The node begins no run. -/
def Unnested : Grammar → Prop
  | .nestedRun _ _ => False
  | _ => True

theorem unnested_stable : Stable Unnested where
  like h := by cases h <;> exact id
  cell _ := trivial
  fail _ := trivial
  succeed _ := trivial

/-- One world, which has been idle. -/
def Resting (w₀ w w' : World Heap) : Prop := w = w' ∧ w₀.Idle w

/-- Machines that do the same, idly. -/
abbrev resting (w₀ : World Heap) : Coupling (World Heap) (World Heap) :=
  abreast (· = ·) (· = ·) (Resting w₀) (fun _ _ => True) True (pure 0)

theorem resting_accommodates : Accommodates (· = ·) (Resting w₀) where
  size hw := by rw [hw.1]
  alloc owner hw hp := by
    obtain ⟨rfl, hidle⟩ := hw
    obtain rfl := hp
    exact ⟨rfl, hidle.ledger, hidle.heap.alloc rfl⟩

section
variable {apply apply' : Grammar → Parser (World Heap) Value Value}
variable (happly : ∀ {g}, Variant Unnested False g g →
  (resting w₀).Follows (apply g) fun _ => apply' g)
include happly

theorem probe_resting (hg : Variant Unnested False g g) (text : Text) {w : World Heap}
    (hw : w₀.Idle w) :
    (probeWith apply g text w).Meets (· = ·) (Resting w₀) True (pure 0)
      fun _ => probeWith apply' g text w :=
  (follows_abreast.mp (happly hg) (.start ⟨text, 0⟩) .null _ _ w w rfl trivial ⟨rfl, hw⟩).next
    (fun _ _ _ _ hr hw => .done (congrArg (fun reply => ofOutcome reply.outcome) hr.eq) hw)
    fun _ _ => id

/-- What is chosen is built alike and then applied. -/
theorem buildThen_resting (hg : Variant Unnested False g g) :
    (resting w₀).Follows (buildThen setting apply g) fun _ => buildThen setting apply' g := by
  have hsetting : setting.Pairs (· = ·) setting :=
    ⟨List.forall₂_same.mpr fun _ _ => ⟨rfl, rfl⟩, rfl⟩
  rw [follows_abreast]
  rintro base s t t' w w' ht ha hw
  have hbuild : (build setting (probeWith apply) g w).Meets (Variant Unnested False) (Resting w₀)
      True (pure 0) fun _ => build setting (probeWith apply') g w' := by
    refine build_variant unnested_stable hsetting (fun _ _ hp => hp.eq not_false)
      resting_accommodates (fun _ _ q q' w w' hq hw => ?_) hg w w' hw
    obtain rfl := hq.eq not_false
    obtain ⟨rfl, hidle⟩ := hw
    exact probe_resting happly hq _ hidle
  refine hbuild.next (fun p p' w w' hp hw => ?_) fun _ _ => id
  obtain rfl := hp.eq not_false
  exact follows_abreast.mp (happly hp) base s t t' w w' ht ha hw

end

/-- After an excess the evaluation is the one that is cut short, idly. -/
theorem eval_resting (htripped : w₀.ledger.tripped = some e) (n : ℕ) :
    ∀ {g}, Variant Unnested False g g →
      (resting w₀).Follows (eval setting n g) fun _ => cutShort setting e.message n g := by
  induction n with
  | zero => exact fun _ => .starved (fun _ => .of_forall fun _ => rfl) (alone_of_isEmpty _)
  | succ n ih =>
    intro g hg
    have hlawful : (resting w₀).Lawful :=
      abreast_equal.lawful (fun _ _ => trivial) fun _ _ => alone_of_isEmpty _
    cases hg with
    | @akin R _ _ h parts here here' =>
      have hg : Variant Unnested False g g := .akin h parts here here'
      cases h with
      | node h =>
        have hparts : (resting w₀).PartsFollow R R (Grammar.parts setting (eval setting n) n)
            (fun m => { Grammar.parts setting (cutShort setting e.message n) (n + m) with
              recursive := severed setting e.message (cutShort setting e.message n) }) g :=
          { apply := fun {p p'} hp => by
              obtain rfl : p = p' := (parts p p' hp).eq not_false
              exact ih (parts p p hp)
            chosen := fun {p p'} hp => by
              obtain rfl : p = p' := (parts p p' hp).eq not_false
              exact buildThen_resting ih (parts p p hp)
            nested := fun hnested => by
              cases hnested
              exact here.elim
            written := ⟨_, fun _ => rfl, fun _ _ => congrArg _⟩
            rounds := fun _ => rfl }
        exact (layer_follows hlawful hparts h
          (abreast_equal.admits (fun _ _ => trivial) fun _ _ _ _ => trivial)
          (escapes_of_isEmpty _ g)).congr (Filter.eventually_pure.mpr rfl)
      | cell id =>
        rw [follows_abreast]
        rintro base s t t' w w' rfl - ⟨rfl, hidle⟩
        have he : w.ledger.tripped = some e := by rw [hidle.ledger, htripped]
        have hfails : eval setting (n + 1) (.cell id) s t w =
            Parser.reject s t [e.message] w := Parser.deferred_tripped _ s t he
        rw [hfails]
        exact .done ⟨rfl, rfl, trivial, rfl⟩ ⟨rfl, hidle⟩
      | _ => exact @buildThen_resting setting _ _ _ _ ih hg
    | left hfalse => exact hfalse.elim
    | right hfalse => exact hfalse.elim

/-- **After an excess nothing more is built.** In a run that has tripped, an application of a
grammar without nested runs does what it does when each deferred parser that it reaches is
replaced by one that fails where it stands with the message of the excess. However it
ends, the account is as it was, with the excess in it, and so are all cells that there
were and the counts of builds. -/
theorem nothing_more_is_built (setting : Setting) (n : ℕ) {g : Grammar} (hg : All Unnested g)
    (s : Value) (t : Stream) {w : World Heap} {e : Excess} (he : w.ledger.tripped = some e) :
    eval setting n g s t w = cutShort setting e.message n g s t w ∧
      (eval setting n g s t w).Ends (fun _ w' => w.Idle w') (fun w' => w.Idle w') True := by
  have hfollows : (resting w).Follows (eval setting n g) _ := eval_resting he n (.refl hg)
  have h := follows_abreast.mp hfollows t s t t w w rfl trivial ⟨rfl, rfl, .refl w.heap⟩
  obtain ⟨reply, w₁, reply', w₁', hr, hr', hreply, rfl, hidle⟩ |
    ⟨-, f, w₁, w₁', hr, hr', rfl, hidle⟩ | ⟨hr, hr'⟩ := h.cases
  · rw [hr, hr', hreply.eq]
    exact ⟨rfl, hidle⟩
  · rw [hr, hr']
    exact ⟨rfl, hidle⟩
  · rw [hr, hr']
    exact ⟨rfl, trivial⟩

/-- A rule that may be missing, and a deferred parser that is made for what follows. -/
def lateBrackets : Grammar := .pair (.maybe (.cell 0)) (.bind .anyChar fun _ => .lazy .anyChar)

/-- In a run that has tripped, `maybe` turns the failure of the rule into nothing found, a
character is read, and a new cell is made, which fails unbuilt with the same message. -/
theorem late_brackets_fail :
    let w : World Heap := ⟨{ limit := 7, inRun := true, tripped := some ⟨3, 8, 7⟩ },
      ⟨#[⟨.literal ['('], some "brackets", .waiting⟩], [("brackets", 0)]⟩⟩
    let source : Source := ⟨['(', ')'], 0⟩
    All Unnested lateBrackets ∧ w.ledger.tripped = some ⟨3, 8, 7⟩ ∧
    ∃ w', eval {} 5 lateBrackets .null (.start source) w =
        Parser.reject .null ⟨source, 1, [')']⟩ ["recursion limit exceeded: depth 8 exceeds limit of 7"]
          w' ∧
      cutShort {} (Excess.message ⟨3, 8, 7⟩) 5 lateBrackets .null (.start source) w =
        Parser.reject .null ⟨source, 1, [')']⟩ ["recursion limit exceeded: depth 8 exceeds limit of 7"]
          w' ∧
      w.Idle w' ∧ w'.heap.cells.size = 2 := by
  intro w source
  have hlazy : All Unnested (.lazy .anyChar) := by
    simp [All.iff_children, Picks, children, Unnested]
  have hbind : All Unnested (.bind .anyChar fun _ => .lazy .anyChar) :=
    .node trivial (fun p hp => hlazy.child hp) (by rintro p ⟨_, rfl⟩; exact hlazy)
  have hunnested : All Unnested lateBrackets := by
    simpa [lateBrackets, All.iff_children, Picks, children, Unnested] using hbind
  obtain ⟨hsame, hidle⟩ := nothing_more_is_built {} 5 hunnested .null (.start source) (w := w) rfl
  refine ⟨hunnested, rfl, _, rfl, hsame.symm.trans rfl, hidle, rfl⟩

end Grammar

end Descent
