import Descent.Parser.Chain
import Descent.Proofs.Sequence

/-! What a chain of operators comes to.

A chain is an operand and a repetition of links, each an operator and the operand right of
it. What the links do to state, stream and world is the matter of the repetition alone; how
the chain groups is a fold of the values that it found (`chains_fold`). Only where a link
can succeed without moving do chain and repetition part: a repetition stops there, and a
chain goes on.

A chain that groups to the right keeps its left operands until the last one is found. It is
the loop for a parser that calls itself for what is right of an operator
(`chainRight_iff_recursive`), with no condition on operators and operands: each of the two
answers when the other does, and in the same way. -/
namespace Descent.Parser
variable {ω σ α β : Type}

/-- What an operand comes to with the links after it, which group to the left. -/
def leftFold (first : α) (links : List ((α → α → α) × α)) : α :=
  links.foldl (fun acc link => link.1 acc link.2) first

/-- What an operand comes to with the links after it, which group to the right. -/
def rightFold : (first : α) → List ((α → α → α) × α) → α
  | first, [] => first
  | first, (f, right) :: links => f first (rightFold right links)

/-- From here on, as often as the parser succeeds in repetition, it moves. -/
def KeepsMoving (p : Parser ω σ α) (a : Point ω σ) : Prop :=
  ∀ (vs : List α) (b c : Point ω σ) (v : α), Rounds p a vs b → b.apply p = c.found v →
    (c.stream == b.stream) = false

/-- An operand and, if an operator and the same again can follow, what these make of it: the
recursion to which `chainRight` is the loop. Its fuel is the number of operands. -/
def recursiveChain (operator : Parser ω σ (α → α → α)) (operand : Parser ω σ α) :
    (depth : Nat) → Parser ω σ α
  | 0, _, _, _ => .outOfFuel
  | depth + 1, s, t, w =>
    andThen (operand s t w) fun x s t w =>
      link operator (recursiveChain operator operand depth) s t w
        (fun f y s t w => accept s t (f x y) w)
        (fun w => accept s t x w)

/-! ### Links -/

section
variable {operator : Parser ω σ (α → α → α)} {operand : Parser ω σ α}

/-- A link is a pair, but for what becomes of its failure. -/
theorem link_eq_pair (a : Point ω σ)
    (more : (α → α → α) → α → σ → Stream → ω → Result ω (Reply σ α))
    (ends : ω → Result ω (Reply σ α)) :
    link operator operand a.state a.stream a.world more ends =
      (a.apply (pair operator operand)).next fun reply w =>
        match reply.outcome with
        | .ok (f, b) => more f b reply.state reply.stream w
        | .error _ => ends w := by
  unfold link Point.apply pair andThen
  rw [Result.next_next]
  congr 1
  funext operation w
  obtain ⟨s, t, messages | f⟩ := operation
  · rfl
  · simp only [Result.next_next]
    congr 1
    funext right w
    obtain ⟨s', t', messages | b⟩ := right <;> rfl

/-- What comes after a link comes after each way that it can go. -/
theorem link_next {s : σ} {t : Stream} {w : ω}
    {more : (α → α → α) → α → σ → Stream → ω → Result ω (Reply σ α)}
    {ends : ω → Result ω (Reply σ α)} (k : Reply σ α → ω → Result ω (Reply σ α)) :
    (link operator operand s t w more ends).next k =
      link operator operand s t w (fun f b s t w => (more f b s t w).next k)
        fun w => (ends w).next k := by
  unfold link
  rw [Result.next_next]
  congr 1
  funext operation w
  obtain ⟨s, t, messages | f⟩ := operation
  · rfl
  · simp only [Result.next_next]
    congr 1
    funext right w
    obtain ⟨s', t', messages | b⟩ := right <;> rfl

end

/-! ### Chains as folds -/

theorem next_congr {γ : Type} {r : Result ω β} {k l : β → ω → Result ω γ}
    (h : ∀ b w, r = .done b w → k b w = l b w) : r.next k = r.next l := by
  cases r with
  | done b w => exact h b w rfl
  | fault f w => rfl
  | outOfFuel => rfl

section
variable {p : Parser ω σ α} {a b : Point ω σ} {v : α}

theorem KeepsMoving.moves (h : KeepsMoving p a) (succeeds : a.apply p = b.found v) :
    (b.stream == a.stream) = false :=
  h [] a b v (.nil a) succeeds

theorem KeepsMoving.after (h : KeepsMoving p a) (succeeds : a.apply p = b.found v) :
    KeepsMoving p b := fun vs c d u hrounds =>
  h (v :: vs) c d u (.cons succeeds (h.moves succeeds) hrounds)

/-- One round of a repetition, where every success moves. -/
theorem KeepsMoving.many_succ (h : KeepsMoving p a) (rounds : Nat) :
    a.apply (many (rounds + 1) p) =
      (a.apply p).next fun reply w =>
        match reply.outcome with
        | .ok v => map (v :: ·) (many rounds p) reply.state reply.stream w
        | .error _ => accept a.state a.stream [] w := by
  refine next_congr fun reply w hround => ?_
  obtain ⟨s, t, messages | v⟩ := reply
  · rfl
  · have hmoves : (t == a.stream) = false := h.moves (b := ⟨s, t, w⟩) hround
    simp only [hmoves, Bool.false_eq_true, if_false]
    rw [manyFrom_eq_map]
    rfl

end

section
variable {operator : Parser ω σ (α → α → α)} {operand : Parser ω σ α}

/-- A loop over links that collects something as it goes is a repetition of pairs and a
fold, whatever it collects. -/
theorem loop_eq_map_many {γ : Type} (loop : Nat → γ → Parser ω σ α)
    (fold : γ → List ((α → α → α) × α) → α) (collect : γ → (α → α → α) → α → γ)
    (hzero : ∀ c s t w, loop 0 c s t w = .outOfFuel)
    (hsucc : ∀ n c s t w, loop (n + 1) c s t w =
      link operator operand s t w (fun f b s t w => loop n (collect c f b) s t w)
        fun w => accept s t (fold c []) w)
    (hfold : ∀ c f b links, fold c ((f, b) :: links) = fold (collect c f b) links)
    (rounds : Nat) (c : γ) {a : Point ω σ} (h : KeepsMoving (pair operator operand) a) :
    a.apply (loop rounds c) = a.apply (map (fold c) (many rounds (pair operator operand))) := by
  induction rounds generalizing c a with
  | zero => exact hzero c a.state a.stream a.world
  | succ rounds ih =>
    rw [show a.apply (loop (rounds + 1) c) = _ from
      (hsucc rounds c a.state a.stream a.world).trans (link_eq_pair a _ _)]
    show _ = (a.apply (many (rounds + 1) _)).next _
    rw [h.many_succ, Result.next_next]
    refine next_congr fun reply w hround => ?_
    obtain ⟨s, t, messages | ⟨f, b⟩⟩ := reply
    · rfl
    · let d : Point ω σ := ⟨s, t, w⟩
      have hcollected : map (fold c) (map ((f, b) :: ·) (many rounds (pair operator operand))) =
          map (fold (collect c f b)) (many rounds (pair operator operand)) := by
        simp only [map_map, hfold]
      calc d.apply (loop rounds (collect c f b))
          = d.apply (map (fold (collect c f b)) (many rounds (pair operator operand))) :=
            ih (collect c f b) (h.after (b := d) hround)
        _ = d.apply (map (fold c) (map ((f, b) :: ·) (many rounds (pair operator operand)))) := by
            rw [hcollected]

theorem chainLeftFrom_eq_map (rounds : Nat) (acc : α) {a : Point ω σ}
    (h : KeepsMoving (pair operator operand) a) :
    a.apply (chainLeftFrom operator operand acc rounds) =
      a.apply (map (leftFold acc) (many rounds (pair operator operand))) :=
  loop_eq_map_many (fun n acc => chainLeftFrom operator operand acc n) leftFold
    (fun acc f b => f acc b) (fun _ _ _ _ => rfl) (fun _ _ _ _ _ => rfl) (fun _ _ _ _ => rfl)
    rounds acc h

/-- The operands that wait are combined with what the chain from here on comes to. -/
theorem chainRightFrom_eq_map (rounds : Nat) (pending : List (α × (α → α → α))) (last : α)
    {a : Point ω σ} (h : KeepsMoving (pair operator operand) a) :
    a.apply (chainRightFrom operator operand pending last rounds) =
      a.apply (map (fun links => combineRight pending (rightFold last links))
        (many rounds (pair operator operand))) :=
  loop_eq_map_many (fun n c => chainRightFrom operator operand c.1 c.2 n)
    (fun c links => combineRight c.1 (rightFold c.2 links)) (fun c f b => ((c.2, f) :: c.1, b))
    (fun _ _ _ _ => rfl) (fun _ _ _ _ _ => rfl) (fun _ _ _ _ => rfl) rounds (pending, last) h

/-- What follows a first operand may be taken for what follows it in a pair. -/
theorem map_pair_eq {γ : Type} (p : Parser ω σ α) (q : Parser ω σ β) (f : α × β → γ) :
    map f (pair p q) = bind p fun x => map (fun y => f (x, y)) q := by
  simp only [pair_eq_bind, map_eq_bind, bind_bind, succeed_bind]

/-- Parsers that go on in the same way wherever the first one ends are the same. -/
theorem apply_bind_congr {p : Parser ω σ α} {k l : α → Parser ω σ β} {a : Point ω σ}
    (h : ∀ (b : Point ω σ) x, a.apply p = b.found x → b.apply (k x) = b.apply (l x)) :
    a.apply (bind p k) = a.apply (bind p l) := by
  refine next_congr fun reply w hfirst => ?_
  obtain ⟨s, t, messages | x⟩ := reply
  · rfl
  · exact h ⟨s, t, w⟩ x hfirst

/-- **Chains are folds over one repetition.** Where every operator with its operand moves, a
chain is the parser for an operand and a repetition of pairs of operator and operand, with
its value folded from the left or from the right: it answers as that parser does, at the
same place, and leaves the same world. Where the first operand fails, so does the chain,
and in the same way. An operator whose operand fails is undone: the chain ends in the state
and at the stream of the last operand, and only the world has seen the attempt. -/
theorem chains_fold (operator : Parser ω σ (α → α → α)) (operand : Parser ω σ α) (a : Point ω σ)
    (h : ∀ b x, a.apply operand = b.found x → KeepsMoving (pair operator operand) b) :
    (∀ rounds,
      a.apply (chainLeft rounds operator operand) =
          a.apply (map (fun found => leftFold found.1 found.2)
            (pair operand (many rounds (pair operator operand)))) ∧
        a.apply (chainRight rounds operator operand) =
          a.apply (map (fun found => rightFold found.1 found.2)
            (pair operand (many rounds (pair operator operand))))) ∧
    (∀ rounds s t messages w, a.apply operand = reject s t messages w →
      a.apply (chainLeft rounds operator operand) = reject s t messages w ∧
        a.apply (chainRight rounds operator operand) = reject s t messages w) ∧
    ∀ (b c d : Point ω σ) (x : α) (links : List ((α → α → α) × α)) (f : α → α → α)
      (s : σ) (t : Stream) (messages : List String) (w : ω) (rounds : Nat),
      a.apply operand = b.found x → Rounds (pair operator operand) b links c →
      c.apply operator = d.found f → d.apply operand = reject s t messages w →
      links.length < rounds →
        a.apply (chainLeft rounds operator operand) =
            Point.found { c with world := w } (leftFold x links) ∧
          a.apply (chainRight rounds operator operand) =
            Point.found { c with world := w } (rightFold x links) := by
  have hfold (rounds : Nat) :
      a.apply (chainLeft rounds operator operand) =
          a.apply (map (fun found => leftFold found.1 found.2)
            (pair operand (many rounds (pair operator operand)))) ∧
        a.apply (chainRight rounds operator operand) =
          a.apply (map (fun found => rightFold found.1 found.2)
            (pair operand (many rounds (pair operator operand)))) := by
    rw [map_pair_eq, map_pair_eq]
    exact ⟨apply_bind_congr fun b x hfirst => chainLeftFrom_eq_map rounds x (h b x hfirst),
      apply_bind_congr fun b x hfirst => chainRightFrom_eq_map rounds [] x (h b x hfirst)⟩
  refine ⟨hfold, fun rounds s t messages w hfails => ?_,
    fun b c d x links f s t messages w rounds hfirst hlinks hoperator hoperand hlength => ?_⟩
  · exact ⟨bind_of_reject hfails, bind_of_reject hfails⟩
  · have hlast : c.apply (pair operator operand) = reject s t messages w := by
      rw [pair_eq_bind, bind_of_found hoperator]
      exact bind_of_reject hoperand
    have hmany : b.apply (many rounds (pair operator operand)) =
        Point.found { c with world := w } links :=
      manyFrom_of_rounds hlinks (.undone hlast) [] hlength
    have hpair : a.apply (pair operand (many rounds (pair operator operand))) =
        Point.found { c with world := w } (x, links) := by
      rw [pair_eq_bind, bind_of_found hfirst, bind_of_found hmany]
      rfl
    have hmap (fold : α × List ((α → α → α) × α) → α) :
        a.apply (map fold (pair operand (many rounds (pair operator operand)))) =
          Point.found { c with world := w } (fold (x, links)) := by
      rw [map_eq_bind, bind_of_found hpair]
      rfl
    rw [(hfold rounds).1, (hfold rounds).2, hmap, hmap]
    exact ⟨rfl, rfl⟩

end

/-- A minus sign, which is counted in the state. -/
def minus : Parser Unit Nat (Int → Int → Int) :=
  then_ (transformState (· + 1)) (map (fun _ x y => x - y) (literal ['-']))

def digit : Parser Unit Nat Int :=
  bind anyChar fun c => if c.isDigit then succeed (c.toNat - 48) else fail "expected a digit"

theorem minus_digit_moves (a : Point Unit Nat) : KeepsMoving (pair minus digit) a := by
  intro links ⟨s, t, w⟩ c link _ h
  simp only [Point.apply, Point.found, pair, minus, then_, andThen, transformState, map, literal,
    accept, Result.next_done] at h
  cases hsign : Text.after? ['-'] t.rest with
  | none => simp [hsign, reject, Reply.map, Except.map] at h
  | some rest =>
    cases rest with
    | nil => simp [hsign, reject, digit, bind, andThen, anyChar, Reply.map, Except.map] at h
    | cons d rest =>
      cases hdigit : d.isDigit with
      | false =>
        simp [hsign, hdigit, reject, accept, digit, bind, andThen, anyChar, fail, Reply.map,
          Except.map] at h
      | true =>
        simp [hsign, hdigit, accept, digit, bind, andThen, anyChar, succeed, Reply.map,
          Except.map] at h
        obtain ⟨-, hstream, -⟩ := h
        rw [← hstream]
        refine beq_eq_false_of_offset (Nat.ne_of_gt ?_)
        have := d.utf8Size_pos
        dsimp only
        omega

/-- The sign before the letter is found, and undone. -/
theorem minus_digit_folds :
    Point.apply ⟨0, .start ⟨"9-4-3-x".toList, 0⟩, ()⟩ (chainLeft 4 minus digit) =
        Point.found ⟨2, ⟨⟨"9-4-3-x".toList, 0⟩, 5, ['-', 'x']⟩, ()⟩ 2 ∧
      Point.apply ⟨0, .start ⟨"9-4-3-x".toList, 0⟩, ()⟩ (chainRight 4 minus digit) =
        Point.found ⟨2, ⟨⟨"9-4-3-x".toList, 0⟩, 5, ['-', 'x']⟩, ()⟩ 8 := by
  have hfolds := (chains_fold minus digit ⟨0, .start ⟨"9-4-3-x".toList, 0⟩, ()⟩
    fun b _ _ => minus_digit_moves b).1 4
  rw [hfolds.1, hfolds.2]
  exact ⟨by rfl, by rfl⟩

/-! ### The chain that groups to the right, as a recursion -/

/-- What a computation comes to with more fuel: the same, unless it had run out of it. -/
def Approximates (r r' : Result ω β) : Prop := r = .outOfFuel ∨ r' = r

theorem approximates_next {γ : Type} {r r' : Result ω β} {k k' : β → ω → Result ω γ}
    (h : Approximates r r') (hk : ∀ b w, Approximates (k b w) (k' b w)) :
    Approximates (r.next k) (r'.next k') := by
  rcases h with rfl | rfl
  · exact .inl rfl
  · cases r' with
    | done b w => exact hk b w
    | fault f w => exact .inr rfl
    | outOfFuel => exact .inl rfl

section
variable {operator : Parser ω σ (α → α → α)} {operand : Parser ω σ α}

theorem approximates_link {s : σ} {t : Stream} {w : ω}
    {more more' : (α → α → α) → α → σ → Stream → ω → Result ω (Reply σ α)}
    {ends : ω → Result ω (Reply σ α)}
    (hmore : ∀ f b s t w, Approximates (more f b s t w) (more' f b s t w)) :
    Approximates (link operator operand s t w more ends)
      (link operator operand s t w more' ends) := by
  refine approximates_next (.inr rfl) fun operation w => ?_
  obtain ⟨s, t, messages | f⟩ := operation
  · exact .inr rfl
  · refine approximates_next (.inr rfl) fun right w => ?_
    obtain ⟨s, t, messages | b⟩ := right
    · exact .inr rfl
    · exact hmore f b s t w

/-- The operands that wait are combined with what the chain comes to without them. -/
theorem chainRightFrom_eq_map_nil (rounds : Nat) (pending : List (α × (α → α → α))) (last : α) :
    chainRightFrom operator operand pending last rounds =
      map (combineRight pending) (chainRightFrom operator operand [] last rounds) := by
  induction rounds generalizing pending last with
  | zero => rfl
  | succ rounds ih =>
    have hwaiting (f : α → α → α) (b : α) :
        chainRightFrom operator operand ((last, f) :: pending) b rounds =
          map (combineRight pending) (chainRightFrom operator operand [(last, f)] b rounds) := by
      rw [ih ((last, f) :: pending), ih [(last, f)], map_map]
      rfl
    funext s t w
    simp only [chainRightFrom, map, link_next, hwaiting]
    rfl

/-- What follows an operand in `recursiveChain`. -/
def recursiveRest (operator : Parser ω σ (α → α → α)) (operand : Parser ω σ α) (depth : Nat)
    (x : α) : Parser ω σ α := fun s t w =>
  link operator (recursiveChain operator operand depth) s t w
    (fun f y s t w => accept s t (f x y) w) fun w => accept s t x w

/-- What follows an operand never fails: at worst nothing follows it. -/
theorem recursiveRest_done {depth : Nat} {x : α} {s : σ} {t : Stream} {reply : Reply σ α} {w w' : ω}
    (h : recursiveRest operator operand depth x s t w = .done reply w') :
    ∃ y, reply.outcome = .ok y := by
  obtain ⟨⟨s', t', messages | f⟩, w₁, -, h⟩ := next_eq_done h
  · cases h
    exact ⟨x, rfl⟩
  · obtain ⟨⟨s'', t'', messages | y⟩, w₂, -, h⟩ := next_eq_done h <;> cases h
    · exact ⟨x, rfl⟩
    · exact ⟨f x y, rfl⟩

/-- One link of the recursion: an operand is found where the recursion begins again, and
what follows it in turn is combined with what stood before. -/
theorem recursiveRest_succ (depth : Nat) (x : α) (s : σ) (t : Stream) (w : ω) :
    recursiveRest operator operand (depth + 1) x s t w =
      link operator operand s t w
        (fun f b s t w => map (f x) (recursiveRest operator operand depth b) s t w)
        fun w => accept s t x w := by
  unfold recursiveRest link
  congr 1
  funext operation w
  obtain ⟨s', t', messages | f⟩ := operation
  · rfl
  · simp only [recursiveChain, andThen, Result.next_next]
    congr 1
    funext right w
    obtain ⟨s'', t'', messages | b⟩ := right
    · rfl
    · refine next_congr fun reply w hrest => ?_
      obtain ⟨s₃, t₃, outcome⟩ := reply
      obtain ⟨y, rfl⟩ := recursiveRest_done hrest
      rfl

/-- The loop with so many rounds comes at most to what the recursion comes to with so many
operands, and that at most to the loop with one round more. -/
theorem chainRightFrom_recursiveRest (n : Nat) (x : α) (s : σ) (t : Stream) (w : ω) :
    Approximates (chainRightFrom operator operand [] x n s t w)
        (recursiveRest operator operand n x s t w) ∧
      Approximates (recursiveRest operator operand n x s t w)
        (chainRightFrom operator operand [] x (n + 1) s t w) := by
  have hloop (n : Nat) (x : α) (s : σ) (t : Stream) (w : ω) :
      chainRightFrom operator operand [] x (n + 1) s t w =
        link operator operand s t w
          (fun f b s t w => map (f x) (chainRightFrom operator operand [] b n) s t w)
          fun w => accept s t x w := by
    simp only [chainRightFrom, chainRightFrom_eq_map_nil n [(x, _)]]
    rfl
  induction n generalizing x s t w with
  | zero =>
    refine ⟨.inl rfl, approximates_next (.inr rfl) fun operation w => ?_⟩
    obtain ⟨s, t, messages | f⟩ := operation
    · exact .inr rfl
    · exact .inl rfl
  | succ n ih =>
    rw [hloop, hloop, recursiveRest_succ]
    exact ⟨approximates_link fun f b s t w => approximates_next (ih b s t w).1 fun _ _ => .inr rfl,
      approximates_link fun f b s t w => approximates_next (ih b s t w).2 fun _ _ => .inr rfl⟩

variable (operator operand) in
theorem chainRight_recursiveChain (n : Nat) (a : Point ω σ) :
    Approximates (a.apply (chainRight n operator operand))
        (a.apply (recursiveChain operator operand (n + 1))) ∧
      Approximates (a.apply (recursiveChain operator operand (n + 1)))
        (a.apply (chainRight (n + 1) operator operand)) := by
  constructor <;> refine approximates_next (.inr rfl) fun reply w => ?_ <;>
    obtain ⟨s, t, messages | x⟩ := reply
  · exact .inr rfl
  · exact (chainRightFrom_recursiveRest n x s t w).1
  · exact .inr rfl
  · exact (chainRightFrom_recursiveRest n x s t w).2

/-- Families of which each catches up with the other come to the same. -/
theorem exists_iff_of_approximates {c d : Nat → Result ω β} {r : Result ω β}
    (hr : r ≠ .outOfFuel) (hcd : ∀ n, ∃ m, Approximates (c n) (d m))
    (hdc : ∀ n, ∃ m, Approximates (d n) (c m)) : (∃ n, c n = r) ↔ ∃ n, d n = r := by
  have hmore {c d : Nat → Result ω β} (h : ∀ n, ∃ m, Approximates (c n) (d m)) :
      (∃ n, c n = r) → ∃ n, d n = r := by
    rintro ⟨n, rfl⟩
    obtain ⟨m, hstarved | hm⟩ := h n
    · exact (hr hstarved).elim
    · exact ⟨m, hm⟩
  exact ⟨hmore hcd, hmore hdc⟩

/-- **The chain that groups to the right is its recursion.** Operators and operands may be
any: from every state, stream and world the loop answers with some number of rounds if and
only if the recursion does with some depth, and then with the same reply and the same world,
or the same fault; and the one never answers if and only if the other never does. -/
theorem chainRight_iff_recursive (operator : Parser ω σ (α → α → α)) (operand : Parser ω σ α)
    (s : σ) (t : Stream) (w : ω) :
    (∀ reply w', (∃ rounds, chainRight rounds operator operand s t w = .done reply w') ↔
      ∃ depth, recursiveChain operator operand depth s t w = .done reply w') ∧
    (∀ f w', (∃ rounds, chainRight rounds operator operand s t w = .fault f w') ↔
      ∃ depth, recursiveChain operator operand depth s t w = .fault f w') ∧
    ((∀ rounds, chainRight rounds operator operand s t w = .outOfFuel) ↔
      ∀ depth, recursiveChain operator operand depth s t w = .outOfFuel) := by
  have hcatches (n : Nat) := chainRight_recursiveChain operator operand n ⟨s, t, w⟩
  have hiff (r : Result ω (Reply σ α)) (hr : r ≠ .outOfFuel) :
      (∃ rounds, chainRight rounds operator operand s t w = r) ↔
        ∃ depth, recursiveChain operator operand depth s t w = r := by
    refine exists_iff_of_approximates hr (fun n => ⟨n + 1, (hcatches n).1⟩) fun n => ?_
    cases n with
    | zero => exact ⟨0, .inl rfl⟩
    | succ n => exact ⟨n + 1, (hcatches n).2⟩
  refine ⟨fun reply w' => hiff _ nofun, fun f w' => hiff _ nofun, ?_⟩
  constructor
  · refine fun h depth => Classical.byContradiction fun hends => ?_
    obtain ⟨rounds, hrounds⟩ := (hiff _ hends).2 ⟨depth, rfl⟩
    exact hends (hrounds.symm.trans (h rounds))
  · refine fun h rounds => Classical.byContradiction fun hends => ?_
    obtain ⟨depth, hdepth⟩ := (hiff _ hends).1 ⟨rounds, rfl⟩
    exact hends (hdepth.symm.trans (h depth))

end

end Descent.Parser
