import Descent.Regex.Search

/-! Where matches begin.

A thread keeps the place at which it began, and nothing else does it begin with than the place
that the search has come to. So a match ends after it begins, within the text, and if the
program is anchored it begins at the beginning (`Program.search_spans`). -/
namespace Descent.Regex.Program
variable {program : Program}

/-- A place at which a match could have begun when the search has come to `index`. -/
structure Begins (program : Program) (index start : Nat) : Prop where
  le : start ≤ index
  eq_zero : program.anchored = true → start = 0

theorem Begins.mono {index index' start : Nat} (h : program.Begins index start)
    (hle : index ≤ index') : program.Begins index' start :=
  ⟨Nat.le_trans h.le hle, h.eq_zero⟩

/-- A match that could have been found when the search has come to `index`. -/
structure Spans (program : Program) (index : Nat) (found : Span) : Prop where
  begins : program.Begins found.stop found.start
  stop_le : found.stop ≤ index

theorem Spans.mono {index index' : Nat} {found : Span} (h : program.Spans index found)
    (hle : index ≤ index') : program.Spans index' found :=
  ⟨h.begins, Nat.le_trans h.stop_le hle⟩

/-- All of these threads could have begun where they did. -/
def AllBegin (program : Program) (index : Nat) (threads : List Thread) : Prop :=
  ∀ thread ∈ threads, program.Begins index thread.start

theorem AllBegin.nil {index : Nat} : program.AllBegin index [] := List.forall_mem_nil _

theorem AllBegin.mono {index index' : Nat} {threads : List Thread}
    (h : program.AllBegin index threads) (hle : index ≤ index') : program.AllBegin index' threads :=
  fun thread hthread => (h thread hthread).mono hle

theorem AllBegin.reverse {index : Nat} {threads : List Thread}
    (h : program.AllBegin index threads) : program.AllBegin index threads.reverse :=
  fun thread hthread => h thread (List.mem_reverse.1 hthread)

variable {index : Nat} {frontier : Frontier} {before after : Option Char}

theorem follow_allBegin {place start fuel : Nat} {work : List Nat}
    (hstart : program.Begins index start) (h : program.AllBegin index frontier.threads) :
    program.AllBegin index
      (program.follow before after place start fuel work frontier).threads := by
  fun_induction follow program before after place start fuel work frontier with
  | case1 | case2 => exact h
  | case6 _ _ _ _ _ _ _ _ _ _ ih => exact ih (List.forall_mem_cons.2 ⟨hstart, h⟩)
  | case3 | case4 | case5 | case7 => rename_i ih; exact ih h

theorem begin_allBegin {best : Option Span} (h : program.AllBegin index frontier.threads) :
    program.AllBegin index (program.begin index before after best frontier).threads := by
  rw [begin]
  split
  · exact h
  · next hbegins =>
    refine follow_allBegin ⟨Nat.le_refl _, fun hanchored => ?_⟩ h
    rw [hanchored, Bool.true_and, Bool.or_eq_true, not_or, decide_eq_true_eq] at hbegins
    exact Nat.eq_zero_of_not_pos hbegins.2

/-- Threads move without forgetting where they began, and it is one of them that accepts. -/
theorem step_allBegin {c : Char} {place : Nat} {threads : List Thread}
    (hthreads : program.AllBegin index threads) (h : program.AllBegin index frontier.threads) :
    program.AllBegin index (program.step c after place threads frontier).1.threads ∧
      ∀ thread ∈ (program.step c after place threads frontier).2,
        program.Begins index thread.start := by
  fun_induction step program c after place threads frontier with
  | case1 => exact ⟨h, fun _ hnone => nomatch hnone⟩
  | case2 frontier thread threads hcode =>
    exact ⟨h, fun _ hsame => Option.mem_some.1 hsame ▸ (List.forall_mem_cons.1 hthreads).1⟩
  | case3 frontier thread threads instr hcode haccept frontier' ih =>
    obtain ⟨hthread, hthreads⟩ := List.forall_mem_cons.1 hthreads
    refine ih hthreads ?_
    simp only [frontier']
    split
    · exact follow_allBegin hthread h
    · exact h
  | case4 frontier thread threads hcode ih => exact ih (List.forall_mem_cons.1 hthreads).2 h

/-- What has been found, with a thread that accepts at `index` before it. -/
theorem spans_or {accepted : Option Thread} {best : Option Span}
    (haccepted : ∀ thread ∈ accepted, program.Begins index thread.start)
    (hbest : ∀ found ∈ best, program.Spans index found) :
    ∀ found ∈ (accepted.map fun thread => ⟨thread.start, index⟩).or best,
      program.Spans index found := by
  cases accepted with
  | none => exact hbest
  | some thread =>
    rintro found ⟨⟩
    exact ⟨haccepted thread rfl, Nat.le_refl _⟩

theorem searchFrom_spans {best : Option Span} {text : Text}
    (h : program.AllBegin index frontier.threads)
    (hbest : ∀ found ∈ best, program.Spans index found) :
    ∀ found ∈ program.searchFrom index before frontier best text,
      program.Spans (index + text.length) found := by
  fun_induction searchFrom program index before frontier best text with
  | case1 index before frontier best frontier' =>
    have hbegun : program.AllBegin index frontier'.threads := begin_allBegin h
    exact spans_or (fun thread haccepts =>
      hbegun.reverse thread (List.mem_of_find?_eq_some haccepts)) hbest
  | case2 => exact fun found hfound => (hbest found hfound).mono (Nat.le_add_right _ _)
  | case3 index before frontier best c rest frontier' hgoes next accepted hstep best' ih =>
    have hbegun : program.AllBegin index frontier'.threads := begin_allBegin h
    have hmoved : program.AllBegin index (next, accepted).1.threads ∧
        ∀ thread ∈ (next, accepted).2, program.Begins index thread.start := by
      rw [← hstep]
      exact step_allBegin hbegun.reverse .nil
    have hfound : ∀ found ∈ best', program.Spans index found := spans_or hmoved.2 hbest
    rw [List.length_cons, Nat.add_comm rest.length, ← Nat.add_assoc]
    exact ih (hmoved.1.mono (Nat.le_succ _)) fun found hmem =>
      (hfound found hmem).mono (Nat.le_succ _)

/-- A match lies within the text, and that of an anchored program begins where the text does. -/
theorem search_spans {text : Text} {found : Span} (h : program.search text = some found) :
    program.Spans text.length found := by
  have hspans : program.Spans (0 + text.length) found := by
    refine searchFrom_spans .nil (fun _ hnone => ?_) found h
    cases hnone
  rwa [Nat.zero_add] at hspans

end Descent.Regex.Program
