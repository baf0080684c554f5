import Descent.Proofs.Diary.Evaluation

/-! The life of a deferred parser.

A session that is watched keeps a diary from its beginning on, over all of its steps. It
answers the same and its heap is the same (`Observed.step`), so what the diary says
happened to the cells of the session: a cell is built in an application of it and nowhere
else, at most once, what was built stays, and an application within the limits is refused
exactly while the cell is being built, or when a fault ended that
(`Session.deferred_life_cycle`). -/
namespace Descent
open Descent.Grammar Descent.Coupling

/-- The lives of the cells of a heap, when nothing is being built. -/
structure LifeCycle (heap : Heap) (d : Diary) : Prop where
  heap_eq : d.heap = heap
  at_rest : Entry.running d.entries = []
  status : ∀ (id : ℕ) (c : Cell), heap.cells[id]? = some c → c.status = Entry.status id d.entries
  /-- A cell begins to be built only when it is applied, and this is not refused. -/
  begun_applied : ∀ id owner earlier, .begun id owner :: earlier <:+ d.entries →
    ∃ before, earlier = .applied id false :: before
  begun_once : (d.entries.filterMap Entry.begun?).Nodup
  /-- What was built stays, at all times. -/
  built_stays : ∀ now, now <:+ d.entries → ∀ id g, .finished id g ∈ now →
    Entry.status id now = .built g
  refused_iff : ∀ id refused earlier, .applied id refused :: earlier <:+ d.entries →
    (refused = true ↔ id ∈ Entry.running earlier ∨ .broken id ∈ earlier)
  /-- A cell is lost when a fault ended the building of it, and only then. -/
  taken_iff : ∀ (id : ℕ) (c : Cell), heap.cells[id]? = some c →
    (c.status = .taken ↔ .broken id ∈ d.entries)
  builds : ∀ entry ∈ heap.builds, entry.2 = d.entries.countP (Entry.beginsFor entry.1)

theorem Diary.Accurate.lifeCycle {d : Diary} (h : d.Accurate)
    (hrest : Entry.running d.entries = []) : LifeCycle d.heap d where
  heap_eq := rfl
  at_rest := hrest
  status := h.status
  begun_applied _ _ _ hbegun := (h.history.inOrder hbegun).2
  begun_once := h.history.begun_nodup
  built_stays _ hnow _ _ := (h.history.of_suffix hnow).status_of_finished
  refused_iff _ _ _ happlied := h.history.inOrder happlied
  taken_iff id c hc := by
    rw [h.status id c hc, h.history.nested.status, hrest]
    simp
  builds := h.builds

/-- If only one cell of a rule begins to be built, it does so once at most. -/
theorem Entry.History.countP_le_one {entries : List Entry} (h : History entries) {name : String}
    (hsame : ∀ i j, .begun i (some name) ∈ entries → .begun j (some name) ∈ entries → i = j) :
    entries.countP (beginsFor name) ≤ 1 := by
  induction entries with
  | nil => exact Nat.zero_le 1
  | cons entry earlier ih =>
    have ih := ih h.2 fun i j hi hj =>
      hsame i j (List.mem_cons_of_mem _ hi) (List.mem_cons_of_mem _ hj)
    rw [List.countP_cons]
    by_cases hentry : beginsFor name entry = true
    · cases entry with
      | begun i owner =>
        obtain rfl : owner = some name := by
          cases owner <;> simp_all [beginsFor]
        -- another one would be the same cell, which did not begin before
        have hnone : earlier.countP (beginsFor name) = 0 := by
          rw [List.countP_eq_zero]
          intro entry hmem hcount
          cases entry with
          | begun j owner =>
            obtain rfl : owner = some name := by
              cases owner <;> simp_all [beginsFor]
            obtain rfl := hsame j i (List.mem_cons_of_mem _ hmem) List.mem_cons_self
            exact h.2.status_of_begun.mp h.1.1 (List.mem_filterMap.mpr ⟨_, hmem, rfl⟩)
          | _ => cases hcount
        rw [hnone, if_pos hentry]
      | _ => cases hentry
    · rw [if_neg hentry]
      exact ih

namespace Session
variable {setting : Setting} {ok : Grammar → Prop} {main : Grammar} {session : Session}
variable {d : Diary}

/-- Builds the main grammar, with a diary. -/
def watchStart (fuel : ℕ) (setting : Setting) (main : Grammar) :
    Result (World Diary) Grammar :=
  buildWatched setting (probeWatched (watched setting fuel)) main ⟨{}, ⟨setting.initialHeap, []⟩⟩

def watchedParser (session : Session) (fuel : ℕ) (target : Target) :
    Parser (World Diary) Value Value :=
  watched session.setting fuel (session.grammar target)

/-- Ends a step: the diary is kept, also when a fault is the answer. -/
def record (d : Diary) : Result (World Diary) Answer → Answer × Diary
  | .done answer w => (answer, w.heap)
  | .fault cause w => (.fault cause, w.heap)
  | .outOfFuel => (.outOfFuel, d)

/-- Does a step, with a diary. -/
def watchStep (session : Session) (fuel : ℕ) (d : Diary) : Step → Answer × Diary
  | .run target config state text twice =>
    let once := Parser.run config (session.watchedParser fuel target)
      (session.setting.written state) ⟨text, 0⟩
    record d ((once ⟨session.world.ledger, d⟩).next fun reply w =>
      if twice then
        (once w).next fun again w => .done (.ran reply (some (reply.same again))) w
      else .done (.ran reply none) w)
  | .apply target state text offset =>
    match (Stream.start ⟨text, 0⟩).advance offset with
    | .error cause => (.fault cause, d)
    | .ok stream =>
      record d ((session.watchedParser fuel target (session.setting.written state) stream
        ⟨session.world.ledger, d⟩).next fun reply w => .done (.applied reply) w)
  | .shape target => (.shape (session.shape target), d)
  | .builds => (.builds d.heap.builds, d)

/-- The diary when steps have been done. -/
def watch (session : Session) (fuel : ℕ) (d : Diary) : List Step → Diary
  | [] => d
  | step :: more => (session.step fuel step).2.watch fuel (session.watchStep fuel d step).2 more

/-- A session between two steps, and its diary. -/
structure Observed (setting : Setting) (ok : Grammar → Prop) (main : Grammar) (session : Session)
    (d : Diary) : Prop extends WellBuilt setting ok main session where
  heap_eq : d.heap = session.world.heap
  accurate : d.Accurate
  at_rest : Entry.running d.entries = []

namespace Observed

section
variable (h : Observed setting ok main session d)
include h

theorem lifeCycle : LifeCycle session.world.heap d :=
  h.heap_eq ▸ h.accurate.lifeCycle h.at_rest

/-- A rule of which only the shared cell is made is built once at most. -/
theorem builds_le_one {name : String} (hshared : ¬ok (.fresh name))
    (hnames : (setting.rules.map Prod.fst).Nodup) {count : ℕ}
    (hcount : (name, count) ∈ session.world.heap.builds) : count ≤ 1 := by
  have hid {id : ℕ} (hbegun : .begun id (some name) ∈ d.entries) :
      (setting.rules.map Prod.fst)[id]? = some name := by
    obtain ⟨c, hc, howner⟩ := h.accurate.owner id (some name) hbegun
    rw [h.heap_eq] at hc
    obtain ⟨entry, hentry, rfl⟩ | hfresh := h.sound.owned id c name hc howner
    · simp [hentry]
    · exact (hshared hfresh).elim
  rw [← h.heap_eq] at hcount
  have hbuilds : count = d.entries.countP (Entry.beginsFor name) := h.accurate.builds _ hcount
  rw [hbuilds]
  refine h.accurate.history.countP_le_one fun i j hi hj => ?_
  obtain ⟨hlt, _⟩ := List.getElem?_eq_some_iff.mp (hid hi)
  exact (List.getElem?_inj hlt hnames).mp ((hid hi).trans (hid hj).symm)

variable (hok : Permitted ok False True)
include hok

theorem follows (fuel : ℕ) (target : Target) :
    (onValid (World.Beside (Watching setting ok session.world.heap [])) False True).Follows
      (session.parser fuel target) fun _ => session.watchedParser fuel target := by
  have := eval_watched hok fuel session.world.heap [] _ _
    (stands_target h.setting_eq h.sound h.stands target) (target.written_all h.all hok.rule)
  rwa [Session.parser, Session.watchedParser, h.setting_eq]

/-- A step that is watched is answered as the step, and leaves what can be watched on. -/
theorem step (fuel : ℕ) (step : Step) :
    (session.watchStep fuel d step).1 = (session.step fuel step).1 ∧
      Observed setting ok main (session.step fuel step).2 (session.watchStep fuel d step).2 := by
  have hhere : World.Beside (Watching setting ok session.world.heap []) session.world
      ⟨session.world.ledger, d⟩ :=
    ⟨rfl, h.heap_eq, h.accurate, h.at_rest, .refl h.sound⟩
  have hrecord {r : Result (World Heap) Answer} {r' : Result (World Diary) Answer}
      (hr : r.Matches (World.Beside (Watching setting ok session.world.heap [])) (pure 0)
        fun _ => r') :
      (record d r').1 = (session.conclude r).1 ∧
        Observed setting ok main (session.conclude r).2 (record d r').2 := by
    have hgo {w : World Heap} {w' : World Diary}
        (hw : w.Beside (Watching setting ok session.world.heap []) w') :
        Observed setting ok main { session with world := w } w'.heap :=
      ⟨h.grow hw.2.grown, hw.2.heap_eq, hw.2.accurate, hw.2.running⟩
    cases r with
    | done answer w =>
      obtain ⟨w', hd, hw⟩ := hr
      obtain rfl := Filter.eventually_pure.mp hd
      exact ⟨rfl, hgo hw⟩
    | fault cause w =>
      obtain ⟨w', hd, hw⟩ := hr
      obtain rfl := Filter.eventually_pure.mp hd
      exact ⟨rfl, hgo hw⟩
    | outOfFuel =>
      have hd := hr (Filter.eventually_pure.mpr rfl)
      obtain rfl := Filter.eventually_pure.mp hd
      exact ⟨rfl, h⟩
  cases step with
  | run target config state text twice =>
    have hrun {w : World Heap} {w' : World Diary}
        (hw : w.Beside (Watching setting ok session.world.heap []) w') :=
      (run_onValid (h.follows hok fuel target) config (session.setting.written state) ⟨text, 0⟩
        hw).1
    refine hrecord ((hrun hhere).next (fun reply w w' hw => ?_) fun _ _ => id)
    cases twice with
    | false => exact .done hw
    | true => exact (hrun hw).next (fun again w w' hw => .done hw) fun _ _ => id
  | apply target state text offset =>
    simp only [watchStep, Session.step, Session.apply]
    cases hstream : (Stream.start ⟨text, 0⟩).advance offset with
    | error cause => exact ⟨rfl, h⟩
    | ok stream =>
      refine hrecord (Result.Matches.next ?_ (fun reply w w' hw => .done hw) fun _ _ => id)
      exact (follows_guarded.mp (h.follows hok fuel target) stream _ stream _ _
        (.refl (Stream.advance_valid (Stream.start_valid _) hstream)) hhere).1
  | shape target => exact ⟨rfl, h⟩
  | builds => exact ⟨congrArg (fun heap : Heap => Answer.builds heap.builds) h.heap_eq, h⟩

theorem after (fuel : ℕ) (before : List Step) :
    Observed setting ok main (session.after fuel before) (session.watch fuel d before) := by
  induction before generalizing session d with
  | nil => exact h
  | cons step before ih => exact ih (h.step hok fuel step).2

end

end Observed

/-- A session that is watched from its beginning on. -/
theorem start_observed (hok : Permitted ok False True) (h : Throughout ok setting main)
    (fuel : ℕ) : (start fuel setting main).Ends
      (fun session _ => ∃ d, watchStart fuel setting main = .done session.main ⟨{}, d⟩ ∧
        Observed setting ok main session d)
      (fun w => ∃ cause w', watchStart fuel setting main = .fault cause w' ∧
        LifeCycle w.heap w'.heap) True := by
  have hhere : World.Beside (Watching setting ok setting.initialHeap []) setting.initialWorld
      ⟨{}, ⟨setting.initialHeap, []⟩⟩ :=
    ⟨rfl, rfl, .initial setting, rfl, .refl (initialHeap_sound h.rules)⟩
  have hwatched := build_watched hok (eval_watched hok fuel) h.main hhere
  have hbuilt := start_wellBuilt hok h fuel
  have hledger := start_ledger fuel setting main
  unfold start at hbuilt hledger ⊢
  cases hr : build setting (probeWith (eval setting fuel)) main setting.initialWorld with
  | done g w =>
    rw [hr] at hwatched hbuilt hledger
    obtain ⟨⟨l, d⟩, hd, hw⟩ := hwatched
    obtain rfl : l = {} := hw.1.symm.trans hledger
    exact ⟨d, Filter.eventually_pure.mp hd, hbuilt, hw.2.heap_eq, hw.2.accurate, hw.2.running⟩
  | fault cause w =>
    rw [hr] at hwatched
    obtain ⟨w', hd, hw⟩ := hwatched
    exact ⟨cause, w', Filter.eventually_pure.mp hd,
      hw.2.heap_eq ▸ hw.2.accurate.lifeCycle hw.2.running⟩
  | outOfFuel => trivial

/-- A node that was written, and makes no cell of a rule that is only to be shared. -/
def Sharing (setting : Setting) (main : Grammar) (name : String) (g : Grammar) : Prop :=
  Unbuilt g ∧ (Throughout (· ≠ .fresh name) setting main → g ≠ .fresh name)

/-- **The life of a deferred parser.** Watched from its beginning on, a session of any
grammars, whose definitions may apply parsers or fault while they are built, answers the
same, and before and after all of its steps the diary says what happened to its cells.
Rules that are mentioned but never `fresh` are built once at most. An application that the
limit refuses leaves all cells as they are. What is refused because there is nothing to
apply fails where it stands with a message of its own, which is a failure like any other
to the parsers around it. -/
theorem deferred_life_cycle (setting : Setting) (main : Grammar)
    (h : Throughout Unbuilt setting main) (fuel : ℕ) :
    (start fuel setting main).Ends
      (fun session _ => ∃ d₀, watchStart fuel setting main = .done session.main ⟨{}, d₀⟩ ∧
        ∀ fuel' before,
          let later := session.after fuel' before
          let d := session.watch fuel' d₀ before
          LifeCycle later.world.heap d ∧
          (∀ n step, (later.watchStep n d step).1 = (later.step n step).1) ∧
          ∀ name, Throughout (· ≠ .fresh name) setting main → (setting.rules.map Prod.fst).Nodup →
            ∀ count, (name, count) ∈ later.world.heap.builds → count ≤ 1)
      (fun w => ∃ cause w', watchStart fuel setting main = .fault cause w' ∧
        LifeCycle w.heap w'.heap) True ∧
    ∀ n id s t (w : World Heap),
      (w.ledger.tripped.isSome ∨ w.ledger.enter.overLimit = true →
        (Parser.deferred (force setting (eval setting n) id) s t w).Ends
          (fun _ w' => w'.heap = w.heap) (fun _ => False) False) ∧
      ∀ c, w.heap.cells[id]? = some c → c.status = .taken →
        force setting (eval setting n) id s t w = Parser.reject s t [underConstruction] w := by
  constructor
  · have hunbuilt : Permitted Unbuilt False True :=
      ⟨fun _ => id, fun _ => trivial, fun _ => id, fun _ _ => trivial⟩
    have hsharing (name : String) : Permitted (Sharing setting main name) False True :=
      ⟨fun _ hg => hg.1, fun _ => ⟨trivial, fun _ => nofun⟩, fun _ => id, fun _ _ => trivial⟩
    have hstart := start_observed hunbuilt h fuel
    have hshared (name : String) := start_observed (hsharing name) (h.and_imp id) fuel
    cases hr : start fuel setting main with
    | done session w =>
      simp only [hr] at hstart hshared
      obtain ⟨d₀, hd₀, hobserved⟩ := hstart
      refine ⟨d₀, hd₀, fun fuel' before => ?_⟩
      have hlater := hobserved.after hunbuilt fuel' before
      refine ⟨hlater.lifeCycle, fun n step => (hlater.step hunbuilt n step).1,
        fun name hname hnames count => ?_⟩
      obtain ⟨d, hd, hobserved⟩ := hshared name
      exact (hobserved.after (hsharing name) fuel' before).builds_le_one
        (fun hfresh => hfresh.2 hname rfl) hnames
    | fault cause w =>
      rw [hr] at hstart
      exact hstart
    | outOfFuel => trivial
  · refine fun n id s t w => ⟨fun hw => ?_, fun c hc htaken => ?_⟩
    · cases htripped : w.ledger.tripped with
      | some e =>
        rw [Parser.deferred_tripped _ s t htripped]
        exact rfl
      | none =>
        have hover : w.ledger.enter.overLimit = true := by simpa [htripped] using hw
        rw [Parser.deferred_over _ s t htripped hover]
        exact rfl
    · obtain ⟨definition, owner, status⟩ := c
      cases htaken
      simp only [force, hc]

/-- A rule that applies itself while it is built, and one of which the building faults. -/
def tangled : Grammar := .or (.rule "loop") (.rule "broken")

def tangledSetting : Setting :=
  { rules := [("loop", .probe (.rule "loop") []), ("broken", .probe (.advance 1) [])] }

/-- Both are built once. The first is there for ever, the other one is lost. -/
theorem tangled_life_cycle :
    Throughout Unbuilt tangledSetting tangled ∧
    ∃ session world d₀, start 9 tangledSetting tangled = .done session world ∧
      watchStart 9 tangledSetting tangled = .done session.main ⟨{}, d₀⟩ ∧
      let run := fun name => Step.run (.rule name) {} .null [] false
      let later := session.after 9 [run "loop", run "broken"]
      let d := session.watch 9 d₀ [run "loop", run "broken"]
      LifeCycle later.world.heap d ∧ .broken 1 ∈ d.entries ∧ .broken 0 ∉ d.entries ∧
      (∀ count, ("broken", count) ∈ later.world.heap.builds → count ≤ 1) ∧
      (later.watchStep 9 d (run "broken")).1 =
        .ran ⟨.null, .start ⟨[], 0⟩, .error [underConstruction]⟩ none := by
  have hunbuilt : Throughout Unbuilt tangledSetting tangled := by
    constructor <;> simp [tangledSetting, tangled, All.iff_children, Picks, children, Unbuilt]
  have hshared : Throughout (· ≠ .fresh "broken") tangledSetting tangled := by
    constructor <;> simp [tangledSetting, tangled, All.iff_children, Picks, children]
  obtain ⟨session, world, hstart, hcells, hanswer⟩ : ∃ session world,
      start 9 tangledSetting tangled = .done session world ∧
      let run := fun name => Step.run (.rule name) {} .null [] false
      let later := session.after 9 [run "loop", run "broken"]
      ((∃ c, later.world.heap.cells[1]? = some c ∧ c.status = .taken) ∧
        ∃ c g, later.world.heap.cells[0]? = some c ∧ c.status = .built g) ∧
      (later.step 9 (run "broken")).1 =
        .ran ⟨.null, .start ⟨[], 0⟩, .error [underConstruction]⟩ none :=
    ⟨_, _, rfl, ⟨⟨_, rfl, rfl⟩, _, _, rfl, rfl⟩, rfl⟩
  have hlife := (deferred_life_cycle tangledSetting tangled hunbuilt 9).1
  rw [hstart] at hlife
  obtain ⟨d₀, hd₀, hlife⟩ := hlife
  obtain ⟨hlater, hanswers, hbuilds⟩ := hlife 9
    [.run (.rule "loop") {} .null [] false, .run (.rule "broken") {} .null [] false]
  obtain ⟨⟨c₁, hc₁, htaken⟩, c₀, g, hc₀, hbuilt⟩ := hcells
  refine ⟨hunbuilt, session, world, d₀, hstart, hd₀, hlater, (hlater.taken_iff 1 c₁ hc₁).mp htaken,
    fun hbroken => ?_, hbuilds "broken" hshared (by decide), (hanswers 9 _).trans hanswer⟩
  rw [(hlater.taken_iff 0 c₀ hc₀).mpr hbroken] at hbuilt
  cases hbuilt

end Session

end Descent
