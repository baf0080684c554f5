import Descent.Proofs.Cells

/-! Diaries.

A diary has, besides the heap, an entry for everything that happens to a cell: that it
was applied, and whether that was refused because there was nothing to apply; that its
definition began to be built; and how that ended. The entries alone tell the status of
every cell (`Entry.status`) and which cells are being built, one within the other
(`Entry.running`). `Entry.History` says what may be entered after what, and `Diary.Accurate`
that heap and entries belong together. There is one lemma for each thing that can
happen, and what a history says about the life of a cell follows from its entries
alone: it begins to be built at most once (`History.begun_nodup`), what was built stays
(`History.status_of_finished`), and there is nothing to apply as long as it is being
built or if a fault ended that (`History.nested`). -/
namespace Descent
open Descent.Grammar

/-- Something that happens to a cell. -/
inductive Entry where
  /-- It is applied, within the limits. -/
  | applied (id : ℕ) (refused : Bool)
  /-- Its definition begins to be built, which counts for the owner. -/
  | begun (id : ℕ) (owner : Option String)
  /-- It was built. -/
  | finished (id : ℕ) (g : Grammar)
  /-- A fault ended the building. -/
  | broken (id : ℕ)

namespace Entry

/-- The status of a cell after the entries, of which the latest is the first. -/
def status (id : ℕ) : List Entry → Cell.Status
  | [] => .waiting
  | .begun i _ :: earlier => if i = id then .taken else status id earlier
  | .finished i g :: earlier => if i = id then .built g else status id earlier
  | .applied _ _ :: earlier | .broken _ :: earlier => status id earlier

/-- The cells that are being built after the entries, the innermost first. -/
def running : List Entry → List ℕ
  | [] => []
  | .begun id _ :: earlier => id :: running earlier
  | .finished _ _ :: earlier | .broken _ :: earlier => (running earlier).tail
  | .applied _ _ :: earlier => running earlier

/-- The cell that begins to be built. -/
def begun? : Entry → Option ℕ
  | .begun id _ => some id
  | _ => none

/-- A cell of the rule begins to be built. -/
def beginsFor (name : String) : Entry → Bool
  | .begun _ (some owner) => owner == name
  | _ => false

/-- The entry may come after the earlier ones. -/
def InOrder : Entry → List Entry → Prop
  | .applied id refused, earlier => refused = true ↔ id ∈ running earlier ∨ .broken id ∈ earlier
  | .begun id _, earlier =>
    status id earlier = .waiting ∧ ∃ before, earlier = .applied id false :: before
  | .finished id _, earlier | .broken id, earlier => (running earlier).head? = some id

/-- Every entry may come after the earlier ones. -/
def History : List Entry → Prop
  | [] => True
  | entry :: earlier => InOrder entry earlier ∧ History earlier

namespace History
variable {entries : List Entry}

theorem of_suffix (h : History entries) {now : List Entry} (hnow : now <:+ entries) :
    History now := by
  obtain ⟨later, rfl⟩ := hnow
  induction later with
  | nil => exact h
  | cons entry later ih => exact ih h.2

theorem inOrder (h : History entries) {entry : Entry} {earlier : List Entry}
    (hentry : entry :: earlier <:+ entries) : InOrder entry earlier := (h.of_suffix hentry).1

/-- What holds of the cells that are being built. -/
structure Nested (entries : List Entry) : Prop where
  nodup : (running entries).Nodup
  status : ∀ id, status id entries = .taken ↔ id ∈ running entries ∨ .broken id ∈ entries
  unbroken : ∀ id ∈ running entries, .broken id ∉ entries

theorem nested (h : History entries) : Nested entries := by
  induction entries with
  | nil => exact ⟨.nil, by simp [Entry.status, running], by simp [running]⟩
  | cons entry earlier ih =>
    obtain ⟨hnodup, hstatus, hunbroken⟩ := ih h.2
    have horder := h.1
    cases entry with
    | applied id refused =>
      exact ⟨hnodup, by simpa [Entry.status, running] using hstatus,
        by simpa [running] using hunbroken⟩
    | begun id owner =>
      have hnot : ¬(id ∈ running earlier ∨ .broken id ∈ earlier) := by
        rw [← hstatus, horder.1]
        exact nofun
      grind [Nested, Entry.status, running]
    | finished id g =>
      obtain ⟨rest, hrest⟩ := List.head?_eq_some_iff.mp horder
      grind [Nested, Entry.status, running]
    | broken id =>
      obtain ⟨rest, hrest⟩ := List.head?_eq_some_iff.mp horder
      grind [Nested, Entry.status, running]

/-- A cell that began to be built does not wait again. -/
theorem status_of_begun (h : History entries) {id : ℕ} :
    status id entries = .waiting ↔ id ∉ entries.filterMap begun? := by
  induction entries with
  | nil => simp [Entry.status]
  | cons entry earlier ih =>
    have ih := ih h.2
    cases entry with
    | applied i refused => exact ih
    | begun i owner =>
      rw [show (begun i owner :: earlier).filterMap begun? = i :: earlier.filterMap begun? from rfl]
      by_cases hi : i = id
      · simp [Entry.status, hi]
      · simp [Entry.status, hi, Ne.symm hi, ih]
    | finished i g =>
      rw [show (finished i g :: earlier).filterMap begun? = earlier.filterMap begun? from rfl]
      by_cases hi : i = id
      · -- what was finished was being built
        subst hi
        have hrunning : i ∈ running earlier := List.mem_of_mem_head? h.1
        have htaken := (h.2.nested.status i).mpr (.inl hrunning)
        rw [htaken] at ih
        simpa only [Entry.status, if_true, reduceCtorEq] using ih
      · simpa only [Entry.status, hi, if_false] using ih
    | broken i => exact ih

/-- **A cell begins to be built at most once.** -/
theorem begun_nodup (h : History entries) : (entries.filterMap begun?).Nodup := by
  induction entries with
  | nil => exact .nil
  | cons entry earlier ih =>
    cases entry with
    | begun id owner => exact List.nodup_cons.mpr ⟨h.2.status_of_begun.mp h.1.1, ih h.2⟩
    | _ => exact ih h.2

/-- **What was built stays.** -/
theorem status_of_finished (h : History entries) {id : ℕ} {g : Grammar}
    (hmem : .finished id g ∈ entries) : status id entries = .built g := by
  induction entries with
  | nil => cases hmem
  | cons entry earlier ih =>
    have hlater (hearlier : .finished id g ∈ earlier) : status id earlier = .built g :=
      ih h.2 hearlier
    have horder := h.1
    cases entry with
    | applied i refused => exact hlater (by simpa using hmem)
    | begun i owner =>
      have hbuilt := hlater (by simpa using hmem)
      have hi : i ≠ id := by
        rintro rfl
        cases hbuilt.symm.trans horder.1
      simpa [Entry.status, hi] using hbuilt
    | finished i g' =>
      by_cases hi : i = id
      · subst hi
        -- it was being built, so it was not built before
        have htaken := (h.2.nested.status i).mpr (.inl (List.mem_of_mem_head? horder))
        have hnot : .finished i g ∉ earlier := fun hearlier => by
          cases htaken.symm.trans (hlater hearlier)
        have heq : g = g' := by simpa [hnot] using hmem
        simp [Entry.status, heq]
      · have hbuilt := hlater (by simpa [Ne.symm hi] using hmem)
        simpa [Entry.status, hi] using hbuilt
    | broken i => exact hlater (by simpa using hmem)

end History

end Entry

/-- A heap and what happened to its cells, the latest first. -/
structure Diary where
  heap : Heap
  entries : List Entry := []

namespace Diary
open Entry

/-- One more entry. -/
def note (d : Diary) (entry : Entry) : Diary := { d with entries := entry :: d.entries }

def alloc (d : Diary) (c : Cell) : Diary := { d with heap := d.heap.alloc c }

/-- The cell begins to be built. -/
def takeCell (d : Diary) (id : ℕ) (owner : Option String) : Diary :=
  ⟨d.heap.takeCell id owner, .begun id owner :: d.entries⟩

/-- The cell was built. -/
def fill (d : Diary) (id : ℕ) (g : Grammar) : Diary :=
  ⟨d.heap.setStatus id (.built g), .finished id g :: d.entries⟩

/-- Heap and entries belong together. -/
structure Accurate (d : Diary) : Prop where
  history : History d.entries
  status : ∀ (id : ℕ) (c : Cell), d.heap.cells[id]? = some c → c.status = status id d.entries
  owner : ∀ (id : ℕ) (owner : Option String), .begun id owner ∈ d.entries →
    ∃ c, d.heap.cells[id]? = some c ∧ c.owner = owner
  builds : ∀ entry ∈ d.heap.builds, entry.2 = d.entries.countP (beginsFor entry.1)

theorem exists_setStatus {h : Heap} {id i : ℕ} {status : Cell.Status} {c : Cell}
    (hc : h.cells[i]? = some c) :
    ∃ c', (h.setStatus id status).cells[i]? = some c' ∧ c'.owner = c.owner := by
  rw [Heap.setStatus, Array.getElem?_modify]
  split <;> simp [hc]

namespace Accurate
variable {d : Diary} {id : ℕ} {c : Cell}

/-- Nothing happened yet. -/
theorem initial (setting : Setting) : Accurate ⟨setting.initialHeap, []⟩ where
  history := .intro
  status id c hc := by
    obtain ⟨entry, _, rfl⟩ := initialHeap_cell hc
    rfl
  owner id owner hbegun := by cases hbegun
  builds entry hentry := by
    obtain ⟨rule, _, rfl⟩ := List.mem_map.mp hentry
    rfl

/-- A cell that is not there did not begin to be built. -/
theorem status_of_absent (h : Accurate d) (hid : d.heap.cells[id]? = none) :
    Entry.status id d.entries = .waiting := by
  rw [h.history.status_of_begun, List.mem_filterMap]
  rintro ⟨entry, hentry, hbegun⟩
  cases entry with
  | begun i owner =>
    cases hbegun
    obtain ⟨c, hc, _⟩ := h.owner id owner hentry
    rw [hid] at hc
    cases hc
  | _ => cases hbegun

theorem alloc (h : Accurate d) (hc : c.status = .waiting) : Accurate (d.alloc c) where
  history := h.history
  status i e he := by
    rw [Diary.alloc, Heap.alloc, Array.getElem?_push] at he
    split at he
    · next hi =>
      cases he
      rw [hc]
      exact (h.status_of_absent (by simp [hi])).symm
    · exact h.status i e he
  owner i owner hbegun := by
    obtain ⟨e, he, howner⟩ := h.owner i owner hbegun
    have hi : i ≠ d.heap.cells.size := fun hi => by simp [hi] at he
    exact ⟨e, by simp [Diary.alloc, Heap.alloc, Array.getElem?_push, hi, he], howner⟩
  builds := h.builds

/-- An application is refused when the cell is taken, which is when it is being built or
was left. -/
theorem apply (h : Accurate d) (hc : d.heap.cells[id]? = some c) (refused : Bool)
    (hrefused : refused = true ↔ c.status = .taken) : Accurate (d.note (.applied id refused)) where
  history := ⟨by rw [InOrder, hrefused, h.status id c hc, h.history.nested.status], h.history⟩
  status := h.status
  owner i owner hbegun := h.owner i owner (by simpa [note] using hbegun)
  builds := h.builds

/-- A cell that waits and is applied begins to be built. -/
theorem takeCell (h : Accurate d) (hc : d.heap.cells[id]? = some c) (hwaits : c.status = .waiting)
    (happlied : ∃ before, d.entries = .applied id false :: before) :
    Accurate (d.takeCell id c.owner) where
  history := ⟨⟨(h.status id c hc).symm.trans hwaits, happlied⟩, h.history⟩
  status i e he := by
    rw [Diary.takeCell, Heap.takeCell, cells_countBuild] at he
    obtain ⟨c', hc', _, _, ⟨rfl, hs⟩ | ⟨hi, rfl⟩⟩ := getElem?_setStatus he
    · simp [Diary.takeCell, Entry.status, hs]
    · simpa [Diary.takeCell, Entry.status, Ne.symm hi] using h.status i e hc'
  owner i owner hbegun := by
    rw [Diary.takeCell, Heap.takeCell, cells_countBuild]
    have hbegun : i = id ∧ owner = c.owner ∨ .begun i owner ∈ d.entries := by
      simpa [Diary.takeCell] using hbegun
    obtain ⟨rfl, rfl⟩ | hbegun := hbegun
    · exact exists_setStatus hc
    · obtain ⟨e, he, rfl⟩ := h.owner i owner hbegun
      exact exists_setStatus he
  builds entry hentry := by
    rw [Diary.takeCell, List.countP_cons]
    rw [Diary.takeCell, Heap.takeCell] at hentry
    cases howner : c.owner with
    | none =>
      rw [howner] at hentry
      exact h.builds entry hentry
    | some name =>
      rw [howner] at hentry
      obtain ⟨e, he, rfl⟩ := List.mem_map.mp hentry
      have hcount := h.builds e he
      by_cases hname : e.1 = name
      · simp [hname, beginsFor, hname ▸ hcount]
      · simp [hname, beginsFor, Ne.symm hname, hcount]

/-- The innermost cell that is being built was built. -/
theorem fill (h : Accurate d) (g : Grammar) (hrunning : (running d.entries).head? = some id) :
    Accurate (d.fill id g) where
  history := ⟨hrunning, h.history⟩
  status i e he := by
    obtain ⟨c', hc', _, _, ⟨rfl, hs⟩ | ⟨hi, rfl⟩⟩ := getElem?_setStatus he
    · simp [Diary.fill, Entry.status, hs]
    · simpa [Diary.fill, Entry.status, Ne.symm hi] using h.status i e hc'
  owner i owner hbegun := by
    obtain ⟨e, he, rfl⟩ := h.owner i owner (by simpa [Diary.fill] using hbegun)
    exact exists_setStatus he
  builds := h.builds

/-- A fault ended the building of the innermost cell. -/
theorem break_ (h : Accurate d) (hrunning : (running d.entries).head? = some id) :
    Accurate (d.note (.broken id)) where
  history := ⟨hrunning, h.history⟩
  status := h.status
  owner i owner hbegun := h.owner i owner (by simpa [note] using hbegun)
  builds := h.builds

end Accurate

end Diary

end Descent
