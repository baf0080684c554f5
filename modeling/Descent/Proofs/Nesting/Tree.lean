import Descent.Proofs.Limit

/-! Trees as nested brackets.

A tree is written as its subtrees with commas between them, in brackets. When brackets
are read by a deferred parser, it is applied once for every node, at its opening bracket,
and once more in every leaf, where it finds the closing bracket (`visits`). So a limit on
nesting is exceeded where as many brackets are open as it allows, by the next application
(`opened?_print`), if the tree is as high as that at all (`visits_depth_le_iff`). -/
namespace Descent

/-- A finite ordered tree. -/
inductive Tree where
  | node (children : List Tree)

namespace Tree

mutual

/-- The tree in brackets. -/
def print : Tree → Text
  | node children => '[' :: [','].intercalate (prints children) ++ [']']

def prints : List Tree → List Text
  | [] => []
  | t :: ts => print t :: prints ts

end

mutual

def height : Tree → ℕ
  | node children => 1 + greatest children

/-- The greatest height of some trees. -/
def greatest : List Tree → ℕ
  | [] => 0
  | t :: ts => max (height t) (greatest ts)

end

mutual

/-- The deferred applications for a tree at an offset, inside of so many others. -/
def visits : Tree → (depth offset : ℕ) → Log
  | node children, depth, offset =>
    ⟨offset, depth + 1⟩ :: innerVisits children (depth + 1) (offset + 1)

/-- The same for what is between brackets; without trees one is tried. -/
def innerVisits : List Tree → (depth offset : ℕ) → Log
  | [], depth, offset => [⟨offset, depth + 1⟩]
  | t :: ts, depth, offset =>
    visits t depth offset ++ laterVisits ts depth (offset + (print t).byteSize)

/-- The same for trees with a comma before each of them. -/
def laterVisits : List Tree → (depth offset : ℕ) → Log
  | [], _, _ => []
  | t :: ts, depth, offset =>
    visits t depth (offset + 1) ++ laterVisits ts depth (offset + 1 + (print t).byteSize)

end

/-! ### What is written -/

/-- Trees with commas between them. -/
def inner (ts : List Tree) : Text := [','].intercalate (prints ts)

/-- Trees with a comma before each of them. -/
def later (ts : List Tree) : Text := ts.flatMap fun t => ',' :: t.print

theorem print_node (ts : List Tree) : (node ts).print = '[' :: (inner ts ++ [']']) := rfl

theorem later_cons (t : Tree) (ts : List Tree) : later (t :: ts) = ',' :: (t.print ++ later ts) := by
  simp [later]

theorem inner_cons (t : Tree) (ts : List Tree) : inner (t :: ts) = t.print ++ later ts := by
  induction ts generalizing t with
  | nil => simp [inner, prints, later]
  | cons u ts ih =>
    have hmore := ih u
    rw [inner, prints] at hmore
    rw [inner, prints, prints, List.intercalate_cons_cons, hmore, later_cons]
    simp

theorem byteSize_node (ts : List Tree) :
    (node ts).print.byteSize = 1 + (inner ts).byteSize + 1 := by
  simp only [print_node, Text.byteSize_append, Text.byteSize_cons, Text.byteSize_nil,
    show '['.utf8Size = 1 from rfl, show ']'.utf8Size = 1 from rfl]
  omega

theorem byteSize_later_cons (t : Tree) (ts : List Tree) :
    (later (t :: ts)).byteSize = 1 + t.print.byteSize + (later ts).byteSize := by
  simp only [later_cons, Text.byteSize_append, Text.byteSize_cons, show ','.utf8Size = 1 from rfl]
  omega

/-! ### How deep the applications are -/

mutual

/-- The deepest application for a tree is one deeper than the tree is high. -/
theorem visits_depth_le_iff (L : ℕ) : (t : Tree) → (depth offset : ℕ) →
    ((∀ v ∈ t.visits depth offset, v.depth ≤ L) ↔ depth + t.height < L)
  | node ts, depth, offset => by
    have hinner := innerVisits_depth_le_iff L ts (depth + 1) (offset + 1)
    simp only [visits, height, List.forall_mem_cons, hinner]
    omega

theorem innerVisits_depth_le_iff (L : ℕ) : (ts : List Tree) → (depth offset : ℕ) →
    ((∀ v ∈ innerVisits ts depth offset, v.depth ≤ L) ↔ depth + greatest ts < L)
  | [], depth, offset => by
    simp only [innerVisits, greatest, List.forall_mem_singleton]
    omega
  | t :: ts, depth, offset => by
    have hfirst := visits_depth_le_iff L t depth offset
    have hlater := laterVisits_depth_le_iff L ts depth (offset + t.print.byteSize)
    simp only [innerVisits, greatest, List.forall_mem_append, hfirst, hlater]
    cases ts with
    | nil => simp [greatest]
    | cons => simp only [reduceCtorEq, false_or]; omega

theorem laterVisits_depth_le_iff (L : ℕ) : (ts : List Tree) → (depth offset : ℕ) →
    ((∀ v ∈ laterVisits ts depth offset, v.depth ≤ L) ↔ ts = [] ∨ depth + greatest ts < L)
  | [], depth, offset => by simp [laterVisits]
  | t :: ts, depth, offset => by
    have hfirst := visits_depth_le_iff L t depth (offset + 1)
    have hlater := laterVisits_depth_le_iff L ts depth (offset + 1 + t.print.byteSize)
    simp only [laterVisits, greatest, List.forall_mem_append, hfirst, hlater, reduceCtorEq, false_or]
    cases ts with
    | nil => simp [greatest]
    | cons => simp only [reduceCtorEq, false_or]; omega

end

/-! ### Where a limit is reached -/

/-- Where in a text, that stands at an offset and inside of `level` brackets, the first
bracket is opened that makes it `L`: the offset after it. -/
def opened? (L : ℕ) : (level offset : ℕ) → Text → Option ℕ
  | _, _, [] => none
  | level, offset, '[' :: rest =>
    if level + 1 = L then some (offset + 1) else opened? L (level + 1) (offset + 1) rest
  | level, offset, ']' :: rest => opened? L (level - 1) (offset + 1) rest
  | level, offset, c :: rest => opened? L level (offset + c.utf8Size) rest

theorem opened?_opening (L level offset : ℕ) (rest : Text) :
    opened? L level offset ('[' :: rest) =
      if level + 1 = L then some (offset + 1) else opened? L (level + 1) (offset + 1) rest := rfl

theorem opened?_closing (L level offset : ℕ) (rest : Text) :
    opened? L (level + 1) offset (']' :: rest) = opened? L level (offset + 1) rest := rfl

theorem opened?_comma (L level offset : ℕ) (rest : Text) :
    opened? L level offset (',' :: rest) = opened? L level (offset + 1) rest := rfl

section
variable {L : ℕ}

theorem firstBeyond_cons_of_le {v : Visit} (h : v.depth ≤ L) (log : Log) :
    Log.firstBeyond L (v :: log) = log.firstBeyond L :=
  List.find?_cons_of_neg (by simpa using h)

theorem firstBeyond_or (log more : Log) :
    Log.firstBeyond L (log ++ more) = (log.firstBeyond L).or (more.firstBeyond L) :=
  List.find?_append

/-- Inside of too many brackets already the first application is too deep. -/
theorem firstBeyond_inner {depth : ℕ} (h : L ≤ depth) (ts : List Tree) (offset : ℕ) :
    (innerVisits ts depth offset).firstBeyond L = some ⟨offset, depth + 1⟩ := by
  have hdeep : decide (L < depth + 1) = true := decide_eq_true (Nat.lt_succ_of_le h)
  obtain _ | ⟨⟨_⟩, _⟩ := ts <;> exact List.find?_cons_of_pos hdeep

mutual

/-- The first application that is too deep is where the bracket is opened that makes the
number of them the limit. -/
theorem opened?_print : (t : Tree) → (depth offset : ℕ) → depth < L → (rest : Text) →
    opened? L depth offset (t.print ++ rest) =
      (((t.visits depth offset).firstBeyond L).map Visit.offset).or
        (opened? L depth (offset + t.print.byteSize) rest)
  | node ts, depth, offset, hdepth, rest => by
    have hend : offset + (node ts).print.byteSize = offset + 1 + (inner ts).byteSize + 1 := by
      rw [byteSize_node]
      omega
    have hhere : (⟨offset, depth + 1⟩ : Visit).depth ≤ L := hdepth
    rw [visits, firstBeyond_cons_of_le hhere, hend, print_node, List.cons_append, opened?_opening]
    split
    · next h => rw [firstBeyond_inner (by omega)]; rfl
    · next h =>
      rw [List.append_assoc, opened?_inner ts _ _ (by omega), List.singleton_append, opened?_closing]

theorem opened?_inner : (ts : List Tree) → (depth offset : ℕ) → depth < L → (rest : Text) →
    opened? L depth offset (inner ts ++ rest) =
      (((innerVisits ts depth offset).firstBeyond L).map Visit.offset).or
        (opened? L depth (offset + (inner ts).byteSize) rest)
  | [], depth, offset, hdepth, rest => by
    have hhere : (⟨offset, depth + 1⟩ : Visit).depth ≤ L := hdepth
    rw [innerVisits, firstBeyond_cons_of_le hhere]
    rfl
  | t :: ts, depth, offset, hdepth, rest => by
    rw [innerVisits, firstBeyond_or, inner_cons, List.append_assoc, opened?_print t _ _ hdepth,
      opened?_later ts _ _ hdepth, Option.map_or, Option.or_assoc, Text.byteSize_append,
      Nat.add_assoc]

theorem opened?_later : (ts : List Tree) → (depth offset : ℕ) → depth < L → (rest : Text) →
    opened? L depth offset (later ts ++ rest) =
      (((laterVisits ts depth offset).firstBeyond L).map Visit.offset).or
        (opened? L depth (offset + (later ts).byteSize) rest)
  | [], depth, offset, hdepth, rest => rfl
  | t :: ts, depth, offset, hdepth, rest => by
    have hend : offset + (later (t :: ts)).byteSize =
        offset + 1 + t.print.byteSize + (later ts).byteSize := by
      rw [byteSize_later_cons]
      omega
    rw [laterVisits, firstBeyond_or, hend, later_cons, List.cons_append, opened?_comma,
      List.append_assoc, opened?_print t _ _ hdepth, opened?_later ts _ _ hdepth, Option.map_or,
      Option.or_assoc]

end

end

end Tree

end Descent
