import Descent.Parser.Primitive
import Descent.Parser.Repetition
import Descent.Parser.State

/-! What a repetition finds, and where it stops.

A repetition has a `Trace`: rounds in which its parser succeeds and moves, one after
another, and then a place where the parser fails, or succeeds without moving. There is at
most one trace from a place, and the repetition replies what the trace says
(`repetition_traces`): the values of the rounds, and the state and stream of the last of
them if the attempt after it failed. Lists with and without separators are a first item
and a repetition. -/
namespace Descent.Parser
variable {ω σ α β : Type}

/-- Where a parser is applied. -/
structure Point (ω σ : Type) where
  state : σ
  stream : Stream
  world : ω

/-- Applies a parser there. -/
def Point.apply (a : Point ω σ) (p : Parser ω σ α) : Result ω (Reply σ α) :=
  p a.state a.stream a.world

/-- The reply of a success that ends there. -/
def Point.found (a : Point ω σ) (v : α) : Result ω (Reply σ α) :=
  accept a.state a.stream v a.world

/-- Rounds of a repetition from one place to another, with their values: in each of them the
parser succeeds and moves. -/
inductive Rounds (p : Parser ω σ α) : Point ω σ → List α → Point ω σ → Prop
  | nil (a : Point ω σ) : Rounds p a [] a
  | cons {a b c : Point ω σ} {v : α} {vs : List α} (succeeds : a.apply p = b.found v)
      (moves : (b.stream == a.stream) = false) (more : Rounds p b vs c) : Rounds p a (v :: vs) c

/-- Where a repetition stops, of which `a` is the last place: there the parser fails, and
nothing is left of that but the world, or it succeeds without moving. -/
inductive Stops (p : Parser ω σ α) (a : Point ω σ) : Point ω σ → Prop
  | undone {s : σ} {t : Stream} {messages : List String} {w : ω}
      (fails : a.apply p = reject s t messages w) : Stops p a { a with world := w }
  | still {b : Point ω σ} {v : α} (succeeds : a.apply p = b.found v)
      (stays : (b.stream == a.stream) = true) : Stops p a b

/-- The rounds of a repetition, and how it stops after them. -/
structure Trace (p : Parser ω σ α) (a : Point ω σ) where
  values : List α
  last : Point ω σ
  stop : Point ω σ
  rounds : Rounds p a values last
  stops : Stops p last stop

/-- Streams at different offsets are not equal. -/
theorem beq_eq_false_of_offset {t u : Stream} (h : u.offset ≠ t.offset) : (u == t) = false :=
  Bool.and_eq_false_iff.2 (.inr (beq_false_of_ne h))

/-- Moving over some text leads elsewhere. -/
theorem past_moves {x : Text} (hx : x ≠ []) (t : Stream) (rest : Text) :
    (t.past x rest == t) = false := by
  have hsize : x.byteSize ≠ 0 := mt Text.byteSize_eq_zero.1 hx
  refine beq_eq_false_of_offset ?_
  show t.offset + x.byteSize ≠ t.offset
  omega

/-! ### The repetition and its trace -/

section
variable {p : Parser ω σ α} {a b c : Point ω σ} {v : α} {vs : List α}

theorem Point.found_inj {a b : Point ω σ} {v v' : α} (h : a.found v = b.found v') :
    a = b ∧ v = v' := by
  obtain ⟨s, t, w⟩ := a
  obtain ⟨s', t', w'⟩ := b
  cases h
  exact ⟨rfl, rfl⟩

/-- A round that succeeds and moves goes on with its value. -/
theorem manyFrom_moves (succeeds : a.apply p = b.found v) (moves : (b.stream == a.stream) = false)
    (found : List α) (rounds : Nat) :
    a.apply (manyFrom p found (rounds + 1)) = b.apply (manyFrom p (v :: found) rounds) := by
  simp only [Point.apply, Point.found, accept] at succeeds
  simp only [Point.apply, manyFrom, succeeds, Result.next_done, moves, Bool.false_eq_true, if_false]

/-- A round that fails or stays is the last. -/
theorem manyFrom_stops (h : Stops p a b) (found : List α) (rounds : Nat) :
    a.apply (manyFrom p found (rounds + 1)) = b.found found.reverse := by
  cases h with
  | undone fails =>
    simp only [Point.apply, reject] at fails
    simp only [Point.apply, manyFrom, fails, Result.next_done, Point.found]
  | still succeeds stays =>
    simp only [Point.apply, Point.found, accept] at succeeds
    simp only [Point.apply, manyFrom, succeeds, Result.next_done, stays, if_true, Point.found]

/-- With more rounds than the trace has the repetition replies what the trace says. -/
theorem manyFrom_of_rounds (hrounds : Rounds p a vs b) (hstops : Stops p b c) (found : List α)
    {rounds : Nat} (hlength : vs.length < rounds) :
    a.apply (manyFrom p found rounds) = c.found (found.reverse ++ vs) := by
  induction hrounds generalizing found rounds with
  | nil a =>
    obtain ⟨rounds, rfl⟩ := Nat.exists_eq_succ_of_ne_zero (Nat.ne_of_gt hlength)
    rw [manyFrom_stops hstops, List.append_nil]
  | @cons a b _ v vs succeeds moves _ ih =>
    obtain ⟨rounds, rfl⟩ := Nat.exists_eq_succ_of_ne_zero (Nat.ne_of_gt (Nat.zero_lt_of_lt hlength))
    rw [manyFrom_moves succeeds moves, ih hstops (v :: found) (Nat.lt_of_succ_lt_succ hlength),
      List.reverse_cons, List.append_assoc, List.singleton_append]

/-- A repetition that replies has a trace, and replies what it says. -/
theorem exists_trace {found : List α} {rounds : Nat} {reply : Reply σ (List α)} {w : ω}
    (h : a.apply (manyFrom p found rounds) = .done reply w) :
    ∃ tr : Trace p a, .done reply w = tr.stop.found (found.reverse ++ tr.values) := by
  induction rounds generalizing a found with
  | zero => cases h
  | succ rounds ih =>
    cases hround : a.apply p with
    | outOfFuel =>
      simp only [Point.apply] at hround
      simp only [Point.apply, manyFrom, hround, Result.next_outOfFuel, reduceCtorEq] at h
    | fault f w' =>
      simp only [Point.apply] at hround
      simp only [Point.apply, manyFrom, hround, Result.next_fault, reduceCtorEq] at h
    | done first w' =>
      obtain ⟨s, t, messages | v⟩ := first
      · have stops : Stops p a { a with world := w' } := .undone hround
        rw [manyFrom_stops stops] at h
        exact ⟨⟨[], a, _, .nil a, stops⟩, by rw [List.append_nil, h]⟩
      · let b : Point ω σ := ⟨s, t, w'⟩
        have succeeds : a.apply p = b.found v := hround
        cases hmoves : b.stream == a.stream with
        | true =>
          have stops : Stops p a b := .still succeeds hmoves
          rw [manyFrom_stops stops] at h
          exact ⟨⟨[], a, b, .nil a, stops⟩, by rw [List.append_nil, h]⟩
        | false =>
          rw [manyFrom_moves succeeds hmoves] at h
          obtain ⟨tr, htr⟩ := ih h
          refine ⟨⟨v :: tr.values, tr.last, tr.stop, .cons succeeds hmoves tr.rounds, tr.stops⟩, ?_⟩
          rw [htr, List.reverse_cons, List.append_assoc, List.singleton_append]

/-- A parser that stops a repetition does not go on with it. -/
theorem Stops.not_moves (h : Stops p a c) (succeeds : a.apply p = b.found v) :
    (b.stream == a.stream) = true := by
  cases h with
  | undone fails => rw [fails] at succeeds; cases succeeds
  | still succeeds' stays =>
    rw [succeeds] at succeeds'
    exact (Point.found_inj succeeds').1 ▸ stays

/-- However a repetition stops, it stands where its rounds ended. -/
theorem Stops.stream_eq (h : Stops p a b) (ha : a.stream.Valid) (hb : b.stream.Valid)
    (hsource : b.stream.source = a.stream.source) : b.stream = a.stream := by
  cases h with
  | undone => rfl
  | still _ stays =>
    have hoffset : b.stream.offset = a.stream.offset := by
      simpa using (Bool.and_eq_true_iff.1 stays).2
    exact Stream.eq_of_offset hb ha hsource hoffset

theorem Stops.unique {b' : Point ω σ} (h : Stops p a b) (h' : Stops p a b') : b = b' := by
  cases h with
  | undone fails =>
    cases h' with
    | undone fails' => rw [fails] at fails'; cases fails'; rfl
    | still succeeds => rw [fails] at succeeds; cases succeeds
  | still succeeds =>
    cases h' with
    | undone fails => rw [succeeds] at fails; cases fails
    | still succeeds' => exact (Point.found_inj (succeeds.symm.trans succeeds')).1

/-- From a place there is one way that the rounds go and stop. -/
theorem Rounds.unique {vs' : List α} {b' c' : Point ω σ} (h : Rounds p a vs b) (hstops : Stops p b c)
    (h' : Rounds p a vs' b') (hstops' : Stops p b' c') : vs = vs' ∧ b = b' := by
  induction h generalizing vs' with
  | nil a =>
    cases h' with
    | nil => exact ⟨rfl, rfl⟩
    | cons succeeds moves => rw [hstops.not_moves succeeds] at moves; cases moves
  | cons succeeds moves _ ih =>
    cases h' with
    | nil => rw [hstops'.not_moves succeeds] at moves; cases moves
    | cons succeeds' _ more' =>
      obtain ⟨rfl, rfl⟩ := Point.found_inj (succeeds.symm.trans succeeds')
      obtain ⟨rfl, rfl⟩ := ih hstops more'
      exact ⟨rfl, rfl⟩

instance : Subsingleton (Trace p a) := by
  refine ⟨fun tr tr' => ?_⟩
  obtain ⟨vs, b, c, rounds, stops⟩ := tr
  obtain ⟨vs', b', c', rounds', stops'⟩ := tr'
  obtain ⟨rfl, rfl⟩ := rounds.unique stops rounds' stops'
  obtain rfl := stops.unique stops'
  rfl

/-- A repetition replies what its trace says, if it has one. -/
theorem many_done_iff {reply : Reply σ (List α)} {w : ω} :
    (∃ rounds, a.apply (many rounds p) = .done reply w) ↔
      ∃ tr : Trace p a, .done reply w = tr.stop.found tr.values := by
  constructor
  · rintro ⟨rounds, h⟩
    exact exists_trace h
  · rintro ⟨tr, h⟩
    refine ⟨tr.values.length + 1, ?_⟩
    rw [h]
    exact manyFrom_of_rounds tr.rounds tr.stops [] (Nat.lt_succ_self _)

/-- A separator after which no item comes is undone. -/
theorem Trace.stop_of_separator {separator : Parser ω σ β} {u : β} {s : σ} {t : Stream}
    {messages : List String} {w : ω} (tr : Trace (then_ separator p) a)
    (hseparator : tr.last.apply separator = b.found u)
    (hitem : b.apply p = reject s t messages w) : tr.stop = { tr.last with world := w } := by
  have hundone : tr.last.apply (then_ separator p) = reject s t messages w := by
    simp only [Point.apply, Point.found, accept, reject] at hseparator hitem
    simp only [Point.apply, then_, andThen, hseparator, Result.next_done, hitem, reject]
  exact tr.stops.unique (.undone hundone)

end

/-! ### A first item, and more -/

theorem map_map {γ : Type} (f : α → β) (g : β → γ) (p : Parser ω σ α) :
    map g (map f p) = map (fun a => g (f a)) p := by
  simp only [map_eq_bind, bind_bind, succeed_bind]

section
variable (p : Parser ω σ α) (separator : Parser ω σ β) (rounds : Nat)

/-- The values found before stand before those that the repetition finds. -/
theorem manyFrom_eq_map (found : List α) :
    manyFrom p found rounds = map (found.reverse ++ ·) (manyFrom p [] rounds) := by
  induction rounds generalizing found with
  | zero => rfl
  | succ rounds ih =>
    have hmore (v : α) : manyFrom p (v :: found) rounds =
        map (found.reverse ++ ·) (manyFrom p [v] rounds) := by
      rw [ih (v :: found), ih [v], map_map]
      simp only [List.reverse_cons, List.reverse_nil, List.nil_append, List.append_assoc]
    funext s t w
    simp only [manyFrom, map, Result.next_next]
    congr 1
    funext reply w
    obtain ⟨s', t', messages | v⟩ := reply
    · simp only [accept, Result.next_done, Reply.map, Except.map, List.reverse_nil, List.append_nil]
    · cases hmoves : t' == t with
      | true =>
        simp only [accept, if_true, Result.next_done, Reply.map, Except.map, List.reverse_nil,
          List.append_nil]
      | false => simp only [Bool.false_eq_true, if_false, hmore, map]

theorem many1_eq_bind : many1 rounds p = bind p fun first => map (first :: ·) (many rounds p) := by
  funext s t w
  simp only [many1, bind, many, manyFrom_eq_map p rounds [_], List.reverse_singleton,
    List.singleton_append]

theorem sepBy1_eq_bind :
    sepBy1 rounds separator p =
      bind p fun first => map (first :: ·) (many rounds (then_ separator p)) := by
  funext s t w
  simp only [sepBy1, bind, many, manyFrom_eq_map (then_ separator p) rounds [_],
    List.reverse_singleton, List.singleton_append]

/-- What comes after a parser comes after its continuation. -/
theorem skipRight_bind {γ : Type} (k : α → Parser ω σ γ) (q : Parser ω σ β) :
    skipRight (bind p k) q = bind p fun v => skipRight (k v) q := by
  simp only [skipRight_eq_bind, bind_bind]

end

/-! ### No items -/

theorem next_eq_done {β γ : Type} {r : Result ω β} {k : β → ω → Result ω γ} {c : γ} {w : ω}
    (h : r.next k = .done c w) : ∃ b w', r = .done b w' ∧ k b w' = .done c w := by
  cases r with
  | done b w' => exact ⟨b, w', rfl, h⟩
  | fault f w' => cases h
  | outOfFuel => cases h

/-- A parser whose every reply is a list that has items. -/
def NeverEmpty (q : Parser ω σ (List α)) : Prop :=
  ∀ (a : Point ω σ) (reply : Reply σ (List α)) (w : ω), a.apply q = .done reply w →
    ∃ v vs, reply.outcome = .ok (v :: vs)

section
variable {p : Parser ω σ α} {separator : Parser ω σ β} {rounds : Nat} {a b c : Point ω σ} {v : α}

theorem neverEmpty_map_many (first : α) : NeverEmpty (map (first :: ·) (many rounds p)) := by
  intro a reply w h
  obtain ⟨found, w', hmany, hreply⟩ := next_eq_done h
  obtain ⟨tr, htr⟩ := many_done_iff.1 ⟨rounds, hmany⟩
  cases htr
  cases hreply
  exact ⟨first, tr.values, rfl⟩

/-- What may follow a list does not change it. -/
theorem NeverEmpty.skipRight_maybe {q : Parser ω σ (List α)} (hq : NeverEmpty q) :
    NeverEmpty (skipRight q (maybe separator)) := by
  intro a reply w h
  obtain ⟨both, w', hboth, hreply⟩ := next_eq_done h
  cases hreply
  obtain ⟨⟨s, t, outcome⟩, w', hlist, hboth⟩ := next_eq_done hboth
  obtain ⟨v, vs, rfl⟩ := hq a _ w' hlist
  obtain ⟨ending, w', hending, hboth⟩ := next_eq_done hboth
  cases hboth
  obtain ⟨⟨s', t', messages | u⟩, w', -, hending⟩ := next_eq_done hending <;> cases hending <;>
    exact ⟨v, vs, rfl⟩

variable {k : α → Parser ω σ (List α)}

/-- A list that can be empty is empty where its first item fails, and only there, and then
nothing has moved. -/
theorem orEmpty_bind_nil_iff (hk : ∀ v, NeverEmpty (k v)) :
    a.apply (orEmpty (bind p k)) = c.found [] ↔
      c.state = a.state ∧ c.stream = a.stream ∧
        ∃ s t messages, a.apply p = reject s t messages c.world := by
  constructor
  · intro h
    obtain ⟨⟨s, t, outcome⟩, w, hlist, hempty⟩ := next_eq_done h
    obtain ⟨⟨s', t', messages | v⟩, w', hitem, hrest⟩ := next_eq_done hlist
    · cases hrest
      obtain ⟨rfl, -⟩ := Point.found_inj (a := { a with world := w }) hempty
      exact ⟨rfl, rfl, s', t', messages, hitem⟩
    · obtain ⟨v', vs, rfl⟩ := hk v ⟨s', t', w'⟩ _ w hrest
      cases hempty
  · rintro ⟨hstate, hstream, s, t, messages, hitem⟩
    simp only [Point.apply, reject] at hitem
    simp only [Point.apply, orEmpty, orElse, bind, andThen, hitem, Result.next_done, reject,
      Point.found, hstate, hstream]

/-- Where the first item succeeds, it makes no difference that the list can be empty. -/
theorem orEmpty_bind_of_found (hk : ∀ v, NeverEmpty (k v)) (h : a.apply p = b.found v) :
    a.apply (orEmpty (bind p k)) = a.apply (bind p k) := by
  have hbind : a.apply (bind p k) = b.apply (k v) := by
    simp only [Point.apply, Point.found, accept] at h
    simp only [Point.apply, bind, andThen, h, Result.next_done]
  show orElse (a.apply (bind p k)) _ = _
  rw [hbind]
  cases hlist : b.apply (k v) with
  | outOfFuel => rfl
  | fault f w => rfl
  | done reply w =>
    obtain ⟨s, t, outcome⟩ := reply
    obtain ⟨v', vs, rfl⟩ := hk v b _ w hlist
    rfl

end

/-! ### The whole family -/

/-- **The trace of a repetition.** A repetition replies if there is a trace of it, then there
is one, and the reply is what the trace says: it stands where its rounds ended. One item or
more are an item and a repetition, which keeps the first value whether or not it moved; with
separators, the repetition is of a separator and an item, and a separator without an item
after it is undone. A list that may be empty is so exactly where the first item fails, and
nothing has moved then. -/
theorem repetition_traces (p : Parser ω σ α) (separator : Parser ω σ β) :
    (∀ (a : Point ω σ) (reply : Reply σ (List α)) (w : ω),
      (∃ rounds, a.apply (many rounds p) = .done reply w) ↔
        ∃ tr : Trace p a, .done reply w = tr.stop.found tr.values ∧ ∀ tr' : Trace p a, tr' = tr) ∧
    (∀ (a : Point ω σ) (tr : Trace p a), tr.last.stream.Valid → tr.stop.stream.Valid →
      tr.stop.stream.source = tr.last.stream.source → tr.stop.stream = tr.last.stream) ∧
    (∀ (a b c : Point ω σ) (u : β) (messages : List String) (tr : Trace (then_ separator p) a),
      tr.last.apply separator = b.found u →
      b.apply p = reject c.state c.stream messages c.world →
        tr.stop.state = tr.last.state ∧ tr.stop.stream = tr.last.stream) ∧
    ∀ rounds : Nat,
      many1 rounds p = (bind p fun first => map (first :: ·) (many rounds p)) ∧
      sepBy1 rounds separator p =
        (bind p fun first => map (first :: ·) (many rounds (then_ separator p))) ∧
      sepEndBy1 rounds separator p = skipRight (sepBy1 rounds separator p) (maybe separator) ∧
      ∀ a c : Point ω σ,
        (a.apply (sepBy rounds separator p) = c.found [] ↔
          c.state = a.state ∧ c.stream = a.stream ∧
            ∃ s t messages, a.apply p = reject s t messages c.world) ∧
        (a.apply (sepEndBy rounds separator p) = c.found [] ↔
          c.state = a.state ∧ c.stream = a.stream ∧
            ∃ s t messages, a.apply p = reject s t messages c.world) ∧
        ∀ (b : Point ω σ) (v : α), a.apply p = b.found v →
          a.apply (sepBy rounds separator p) = a.apply (sepBy1 rounds separator p) ∧
          a.apply (sepEndBy rounds separator p) = a.apply (sepEndBy1 rounds separator p) := by
  have hlist (rounds : Nat) (first : α) :
      NeverEmpty (map (first :: ·) (many rounds (then_ separator p))) := neverEmpty_map_many first
  have hended (rounds : Nat) (first : α) :
      NeverEmpty (skipRight (map (first :: ·) (many rounds (then_ separator p))) (maybe separator)) :=
    (hlist rounds first).skipRight_maybe
  refine ⟨fun a reply w => ?_, fun _ tr => tr.stops.stream_eq,
    fun a b c u messages tr hseparator hitem => ?_, fun rounds => ?_⟩
  · rw [many_done_iff]
    exact exists_congr fun tr => (and_iff_left fun tr' => Subsingleton.elim tr' tr).symm
  · rw [tr.stop_of_separator hseparator hitem]
    exact ⟨rfl, rfl⟩
  · refine ⟨many1_eq_bind p rounds, sepBy1_eq_bind p separator rounds, rfl, fun a c => ?_⟩
    simp only [sepBy, sepEndBy, sepEndBy1, sepBy1_eq_bind, skipRight_bind]
    exact ⟨orEmpty_bind_nil_iff (hlist rounds), orEmpty_bind_nil_iff (hended rounds),
      fun b v h => ⟨orEmpty_bind_of_found (hlist rounds) h, orEmpty_bind_of_found (hended rounds) h⟩⟩

/-- Counts its attempts in the state, also those that fail. -/
def counted : Parser Unit Nat Text := then_ (transformState (· + 1)) (literal ['a'])

/-- The last attempt, at `b`, is not counted. -/
theorem counted_traces :
    ∃ tr : Trace counted ⟨0, .start ⟨['a', 'a', 'b'], 0⟩, ()⟩,
      tr.values = [['a'], ['a']] ∧ tr.stop.state = 2 ∧ tr.stop.stream.rest = ['b'] := by
  have hreply : ∃ rounds, Point.apply ⟨0, .start ⟨['a', 'a', 'b'], 0⟩, ()⟩ (many rounds counted) =
      .done ⟨2, ⟨⟨['a', 'a', 'b'], 0⟩, 2, ['b']⟩, .ok [['a'], ['a']]⟩ () := ⟨3, by rfl⟩
  obtain ⟨tr, htr, -⟩ := ((repetition_traces counted endOfInput).1 _ _ _).1 hreply
  obtain ⟨⟨hstate, hstream, hvalues⟩, -⟩ :=
    (by simpa only [Point.found, accept, Result.done.injEq, Reply.mk.injEq, Except.ok.injEq] using htr)
  exact ⟨tr, hvalues.symm, hstate.symm, congrArg Stream.rest hstream.symm⟩

end Descent.Parser
