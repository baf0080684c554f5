import Descent.Proofs.Limit.Exact
import Descent.Proofs.Nesting.Tree
import Descent.Proofs.Peg.Completeness
import Descent.Proofs.Repetition
import Descent.Proofs.Termination

/-! Nested lists under a limit.

Lists of lists in brackets are the trees of `Nesting.Tree`, and one deferred rule reads
them. Without a limit the reference reads a tree and logs an application where the tree
has one (`eventually_reads`): that is one lemma for each combinator, and the loop over the
items is a repetition with a trace. What a limit means for such a log is known, and so is
what runs come to (`Session.nested_lists`): the height of a tree that is lower than the
limit, else the failure where the limit is reached. Only texts that are not too large for
the run are read at all (`Session.oversized_list_refused`). -/
namespace Descent
open Descent.Parser Descent.Grammar
open Filter (atTop)
open Coupling (eventually_add)

/-- Reads a text, if such a text comes after it, and notes what it visits. -/
def Reads {α : Type} (next : Text → Prop) (p : Parser (World Log) Value α) (text : Text) (v : α)
    (visits : (depth offset : ℕ) → Log) : Prop :=
  ∀ s source offset rest w, next rest → Unlimited w →
    p s ⟨source, offset, text ++ rest⟩ w =
      accept s ⟨source, offset + text.byteSize, rest⟩ v
        ⟨w.ledger, w.heap ++ visits w.ledger.depth offset⟩

namespace Reads
variable {α β : Type} {next next' : Text → Prop} {p : Parser (World Log) Value α}
variable {q : Parser (World Log) Value β} {x y : Text} {u : α} {v : β} {V V' : ℕ → ℕ → Log}

theorem literal (x : Text) : Reads next (Parser.literal x) x x fun _ _ => [] := by
  intro s source offset rest w _ _
  simp only [Parser.literal, Text.after?_append, List.append_nil]

theorem endOfInput : Reads (· = []) Parser.endOfInput [] () fun _ _ => [] := by
  rintro s source offset _ w rfl _
  simp only [List.append_nil]
  rfl

theorem map (f : α → β) (h : Reads next p x u V) : Reads next (Parser.map f p) x (f u) V := by
  intro s source offset rest w hnext hw
  simp only [Parser.map, h s source offset rest w hnext hw, accept, Result.next_done, Reply.map,
    Except.map]

theorem then_ (h : Reads next p x u V) (h' : Reads next' q y v V')
    (hnext : ∀ rest, next' rest → next (y ++ rest)) :
    Reads next' (Parser.then_ p q) (x ++ y) v fun depth offset =>
      V depth offset ++ V' depth (offset + x.byteSize) := by
  intro s source offset rest w hrest hw
  have hfirst := h s source offset (y ++ rest) w (hnext rest hrest) hw
  have hsecond := h' s source (offset + x.byteSize) rest
    ⟨w.ledger, w.heap ++ V w.ledger.depth offset⟩ hrest ⟨hw.limit, hw.tripped⟩
  simp only [accept] at hfirst hsecond
  simp only [Parser.then_, andThen, List.append_assoc, hfirst, Result.next_done, hsecond, accept,
    Text.byteSize_append, Nat.add_assoc]

theorem skipRight (h : Reads next p x u V) (h' : Reads next' q y v V')
    (hnext : ∀ rest, next' rest → next (y ++ rest)) :
    Reads next' (Parser.skipRight p q) (x ++ y) u fun depth offset =>
      V depth offset ++ V' depth (offset + x.byteSize) := by
  intro s source offset rest w hrest hw
  have hfirst := h s source offset (y ++ rest) w (hnext rest hrest) hw
  have hsecond := h' s source (offset + x.byteSize) rest
    ⟨w.ledger, w.heap ++ V w.ledger.depth offset⟩ hrest ⟨hw.limit, hw.tripped⟩
  simp only [accept] at hfirst hsecond
  simp only [Parser.skipRight, Parser.map, Parser.pair, andThen, List.append_assoc, hfirst,
    Result.next_done, hsecond, accept, Reply.map, Except.map, Text.byteSize_append, Nat.add_assoc]

/-- A deferred parser notes where it begins before it reads. -/
theorem deferred {p : Parser (World Log) Value Value} {u : Value} (h : Reads next p x u V) :
    Reads next (Parser.deferred (noted p)) x u fun depth offset =>
      ⟨offset, depth + 1⟩ :: V (depth + 1) offset := by
  intro s source offset rest w hrest hw
  have hinside := h s source offset rest
    ⟨w.ledger.enter, w.heap ++ [⟨offset, w.ledger.enter.depth⟩]⟩ hrest ⟨hw.limit, hw.tripped⟩
  rw [deferred_under _ _ _ hw.tripped hw.under, noted, World.mapLedger, hinside]
  simp only [accept, Result.settle, World.mapLedger, Ledger.enter, List.append_assoc,
    List.singleton_append]
  rfl

end Reads

/-- Fails before a closing bracket, and notes what it visits. -/
def Refuses {α : Type} (p : Parser (World Log) Value α) (visits : (depth offset : ℕ) → Log) : Prop :=
  ∀ s source offset rest w, Unlimited w → ∃ s' t messages,
    p s ⟨source, offset, ']' :: rest⟩ w =
      reject s' t messages ⟨w.ledger, w.heap ++ visits w.ledger.depth offset⟩

namespace Refuses
variable {α β : Type} {p : Parser (World Log) Value α} {q : Parser (World Log) Value β}
variable {V : ℕ → ℕ → Log}

theorem literal {c : Char} (hc : c ≠ ']') : Refuses (Parser.literal [c]) fun _ _ => [] := by
  intro s source offset rest w _
  have hnot : Text.after? [c] (']' :: rest) = none := if_neg hc
  simp only [Parser.literal, hnot, List.append_nil]
  exact ⟨_, _, _, rfl⟩

theorem map (f : α → β) (h : Refuses p V) : Refuses (Parser.map f p) V := by
  intro s source offset rest w hw
  obtain ⟨s', t, messages, hfails⟩ := h s source offset rest w hw
  rw [Parser.map, hfails]
  exact ⟨s', t, messages, rfl⟩

theorem then_ (h : Refuses p V) : Refuses (Parser.then_ p q) V := by
  intro s source offset rest w hw
  obtain ⟨s', t, messages, hfails⟩ := h s source offset rest w hw
  rw [Parser.then_, hfails]
  exact ⟨s', t, messages, rfl⟩

theorem skipRight (h : Refuses p V) : Refuses (Parser.skipRight p q) V := by
  intro s source offset rest w hw
  obtain ⟨s', t, messages, hfails⟩ := h s source offset rest w hw
  rw [Parser.skipRight, Parser.map, Parser.pair, hfails]
  exact ⟨s', t, messages, rfl⟩

theorem deferred {p : Parser (World Log) Value Value} (h : Refuses p V) :
    Refuses (Parser.deferred (noted p)) fun depth offset =>
      ⟨offset, depth + 1⟩ :: V (depth + 1) offset := by
  intro s source offset rest w hw
  obtain ⟨s', t, messages, hfails⟩ := h s source offset rest
    ⟨w.ledger.enter, w.heap ++ [⟨offset, w.ledger.enter.depth⟩]⟩ ⟨hw.limit, hw.tripped⟩
  rw [deferred_under _ _ _ hw.tripped hw.under, noted, World.mapLedger, hfails]
  refine ⟨s', t, messages, ?_⟩
  simp only [reject, Result.settle, World.mapLedger, Ledger.enter, List.append_assoc,
    List.singleton_append]
  rfl

end Refuses

/-! ### Lists of trees -/

section
variable {item : Parser (World Log) Value Value} {separator : Parser (World Log) Value Value}

/-- The value of a tree. -/
def Tree.value (t : Tree) : Value := .int t.height

/-- Reads every one of the trees. -/
def ReadsAll (item : Parser (World Log) Value Value) (ts : List Tree) : Prop :=
  ∀ t ∈ ts, Reads (fun _ => True) item t.print t.value t.visits

/-- Trees with commas before them are rounds of a repetition. -/
theorem rounds_later {u : Value} (hseparator : Reads (fun _ => True) separator [','] u fun _ _ => [])
    {ts : List Tree} (hitem : ReadsAll item ts) (s : Value) (source : Source) (offset : ℕ)
    (rest : Text) {w : World Log} (hw : Unlimited w) :
    Rounds (Parser.then_ separator item) ⟨s, ⟨source, offset, Tree.later ts ++ rest⟩, w⟩
      (ts.map Tree.value)
      ⟨s, ⟨source, offset + (Tree.later ts).byteSize, rest⟩,
        ⟨w.ledger, w.heap ++ Tree.laterVisits ts w.ledger.depth offset⟩⟩ := by
  induction ts generalizing offset w with
  | nil =>
    simp only [Tree.laterVisits, List.append_nil]
    exact .nil _
  | cons t ts ih =>
    let here : Stream := ⟨source, offset, [','] ++ t.print ++ (Tree.later ts ++ rest)⟩
    let next : Stream := ⟨source, offset + Text.byteSize ([','] ++ t.print), Tree.later ts ++ rest⟩
    have hround : Point.apply ⟨s, here, w⟩ (Parser.then_ separator item) =
        Point.found ⟨s, next, _⟩ t.value :=
      (hseparator.then_ (hitem t List.mem_cons_self) fun _ _ => trivial) s source offset
        (Tree.later ts ++ rest) w trivial hw
    have hmoves : (next == here) = false := by
      have hne : offset + Text.byteSize ([','] ++ t.print) ≠ offset := by
        rw [Text.byteSize_append, Text.byteSize_cons]
        have := ','.utf8Size_pos
        omega
      show (_ && (_ == _)) = false
      rw [beq_false_of_ne hne, Bool.and_false]
    have hmore := ih (fun t ht => hitem t (List.mem_cons_of_mem _ ht))
      (offset + Text.byteSize ([','] ++ t.print))
      (w := ⟨w.ledger, w.heap ++ t.visits w.ledger.depth (offset + Text.byteSize [','])⟩)
      ⟨hw.limit, hw.tripped⟩
    have hrounds := Rounds.cons hround hmoves hmore
    have hcomma : ','.utf8Size = 1 := rfl
    simpa only [here, next, Tree.later_cons, List.map_cons, Tree.laterVisits, Text.byteSize_append,
      Text.byteSize_cons, Text.byteSize_nil, hcomma, Nat.add_zero, List.nil_append,
      List.cons_append, List.append_assoc, Nat.add_assoc] using hrounds

/-- Trees with commas between them are a list, and without trees the list is empty. -/
theorem reads_sepBy {u : Value} (hseparator : Reads (fun _ => True) separator [','] u fun _ _ => [])
    (hends : Refuses separator fun _ _ => []) {ts : List Tree} (hitem : ReadsAll item ts)
    (hnone : Refuses item fun depth offset => [⟨offset, depth + 1⟩]) {rounds : ℕ}
    (hrounds : ts.length < rounds) :
    Reads (∃ more, · = ']' :: more) (Parser.sepBy rounds separator item) (Tree.inner ts)
      (ts.map Tree.value) (Tree.innerVisits ts) := by
  rintro s source offset _ w ⟨more, rfl⟩ hw
  cases ts with
  | nil =>
    obtain ⟨s', t, messages, hfails⟩ := hnone s source offset more w hw
    simp only [reject] at hfails
    show Parser.sepBy rounds separator item s ⟨source, offset, ']' :: more⟩ w = _
    simp only [Parser.sepBy, orEmpty, orElse, Parser.sepBy1, andThen, hfails, Result.next_done, reject]
    rfl
  | cons t ts =>
    have hfirst := hitem t List.mem_cons_self s source offset (Tree.later ts ++ ']' :: more) w
      trivial hw
    let w' : World Log := ⟨w.ledger, w.heap ++ t.visits w.ledger.depth offset⟩
    have hw' : Unlimited w' := ⟨hw.limit, hw.tripped⟩
    have hlater := rounds_later hseparator (fun t ht => hitem t (List.mem_cons_of_mem _ ht)) s
      source (offset + t.print.byteSize) (']' :: more) hw'
    let w'' : World Log := ⟨w.ledger, w'.heap ++
      Tree.laterVisits ts w.ledger.depth (offset + t.print.byteSize)⟩
    let stop : Point (World Log) Value :=
      ⟨s, ⟨source, offset + t.print.byteSize + (Tree.later ts).byteSize, ']' :: more⟩, w''⟩
    have hstops : Stops (Parser.then_ separator item) stop stop := by
      obtain ⟨s', u, messages, hfails⟩ := hends s source
        (offset + t.print.byteSize + (Tree.later ts).byteSize) more w'' ⟨hw.limit, hw.tripped⟩
      have hround : stop.apply (Parser.then_ separator item) = reject s' u messages w'' := by
        simp only [reject, List.append_nil] at hfails
        simp only [Point.apply, Parser.then_, andThen, stop, hfails, Result.next_done, reject]
      exact .undone hround
    have hlength : (ts.map Tree.value).length < rounds := by
      rw [List.length_map]
      exact Nat.lt_of_succ_lt hrounds
    have hmany := manyFrom_of_rounds hlater hstops [t.value] hlength
    simp only [Point.apply, Point.found, accept, stop, w''] at hfirst hmany
    simp only [Parser.sepBy, orEmpty, orElse, Parser.sepBy1, andThen, Tree.inner_cons,
      List.append_assoc, hfirst, Result.next_done]
    simp only [w'] at hmany
    rw [hmany]
    simp only [Result.next_done, accept, Tree.innerVisits, List.map_cons, List.reverse_singleton,
      List.singleton_append, Text.byteSize_append, Nat.add_assoc, List.append_assoc]

end

/-! ### The grammar of nested lists -/

/-- A list in brackets, whose value is one more than the greatest of its items. -/
def nestedList (item : Grammar) : Grammar :=
  .map Value.aboveMax (.between (.literal ['[']) (.literal [']']) (.sepBy (.literal [',']) item))

/-- One rule, of lists of itself, where `item` mentions the rule. -/
def listSetting (item : Grammar) (stateful : Bool) : Setting :=
  { rules := [("list", nestedList item)], stateful }

/-- One list, and nothing after it. -/
def listMain (item : Grammar) : Grammar := .skipRight item .endOfInput

/-- Mentions the rule, by its shared parser or by one of its own. -/
def Mentions (item : Grammar) : Prop := item = .rule "list" ∨ item = .fresh "list"

theorem max?_heights (ts : List Tree) :
    (ts.map fun t => (t.height : Int)).max? =
      if ts.isEmpty then none else some (Tree.greatest ts : Int) := by
  induction ts with
  | nil => rfl
  | cons t ts ih =>
    rw [List.map_cons, List.max?_cons, ih]
    cases ts with
    | nil => simp [Tree.greatest]
    | cons =>
      simp only [List.isEmpty_cons, Bool.false_eq_true, if_false, Option.elim_some, Tree.greatest,
        Option.some.injEq]
      omega

/-- The value of a list of trees is one more than the greatest height. -/
theorem aboveMax_values (ts : List Tree) :
    Value.aboveMax (.array (ts.map Tree.value)) = (Tree.node ts).value := by
  have hints : (ts.map Tree.value).filterMap Value.int? = ts.map fun t => (t.height : Int) := by
    rw [List.filterMap_map]
    exact congrFun List.filterMap_eq_map ts
  rw [Value.aboveMax, hints, max?_heights, Tree.value, Tree.height]
  cases ts with
  | nil => rfl
  | cons t ts =>
    simp
    omega

section
variable {item : Grammar} (hitem : Mentions item) (stateful : Bool)

include hitem

theorem meaning_list (n : ℕ) :
    meaning (listSetting item stateful) (n + 5) item =
      Parser.deferred (noted (Parser.map Value.aboveMax (Parser.between
        (Parser.map ofText (Parser.literal ['['])) (Parser.map ofText (Parser.literal [']']))
        (Parser.map .array (Parser.sepBy (n + 1) (Parser.map ofText (Parser.literal [',']))
          (meaning (listSetting item stateful) (n + 1) item)))))) := by
  obtain rfl | rfl := hitem <;> rfl

theorem refuses_list (n : ℕ) :
    Refuses (meaning (listSetting item stateful) (n + 5) item)
      fun depth offset => [⟨offset, depth + 1⟩] := by
  rw [meaning_list hitem]
  have hliteral : Refuses (Parser.map ofText (Parser.literal ['['])) fun _ _ => [] :=
    (Refuses.literal (by decide)).map ofText
  exact (hliteral.then_.skipRight.map Value.aboveMax).deferred

/-- With lists of trees read, a tree of them is read. -/
theorem reads_node {ts : List Tree} {n : ℕ} (hlength : ts.length ≤ n)
    (hts : ReadsAll (meaning (listSetting item stateful) (n + 1) item) ts)
    (hnone : Refuses (meaning (listSetting item stateful) (n + 1) item)
      fun depth offset => [⟨offset, depth + 1⟩]) :
    Reads (fun _ => True) (meaning (listSetting item stateful) (n + 5) item) (Tree.node ts).print
      (Tree.node ts).value (Tree.node ts).visits := by
  have hliteral (c : Char) (next : Text → Prop) :
      Reads next (Parser.map ofText (Parser.literal [c])) [c] (ofText [c]) fun _ _ => [] :=
    (Reads.literal [c]).map ofText
  have hlist := (reads_sepBy (hliteral ',' _) ((Refuses.literal (by decide)).map ofText) hts hnone
    (Nat.lt_succ_of_le hlength)).map Value.array
  have hopened := (hliteral '[' fun _ => True).then_ hlist fun _ _ => trivial
  have hclosed := hopened.skipRight (hliteral ']' fun _ => True) fun rest _ => ⟨rest, rfl⟩
  have hwhole := (hclosed.map Value.aboveMax).deferred
  rw [meaning_list hitem]
  rw [aboveMax_values] at hwhole
  simp only [List.nil_append, List.append_nil] at hwhole
  exact hwhole

end

theorem readsAll_nil {p : Parser (World Log) Value Value} : ReadsAll p [] := nofun

theorem readsAll_cons {p : Parser (World Log) Value Value} {t : Tree} {ts : List Tree} :
    ReadsAll p (t :: ts) ↔ Reads (fun _ => True) p t.print t.value t.visits ∧ ReadsAll p ts :=
  List.forall_mem_cons

mutual

/-- Every tree is read, with enough fuel. -/
theorem eventually_reads {item : Grammar} (hitem : Mentions item) (stateful : Bool) :
    (t : Tree) → ∀ᶠ n in atTop,
      Reads (fun _ => True) (meaning (listSetting item stateful) n item) t.print t.value t.visits
  | .node ts => by
    have hnone : ∀ᶠ n in atTop, Refuses (meaning (listSetting item stateful) n item)
        fun depth offset => [⟨offset, depth + 1⟩] :=
      (eventually_add 5 _).mp (.of_forall (refuses_list hitem stateful))
    refine (eventually_add 5 _).mp ?_
    filter_upwards [Filter.eventually_ge_atTop ts.length,
      (eventually_add 1 _).mpr (eventually_readsAll hitem stateful ts),
      (eventually_add 1 _).mpr hnone] with n hlength hts hnone
    exact reads_node hitem stateful hlength hts hnone

theorem eventually_readsAll {item : Grammar} (hitem : Mentions item) (stateful : Bool) :
    (ts : List Tree) → ∀ᶠ n in atTop, ReadsAll (meaning (listSetting item stateful) n item) ts
  | [] => .of_forall fun _ => readsAll_nil
  | t :: ts => by
    simp only [readsAll_cons]
    exact (eventually_reads hitem stateful t).and (eventually_readsAll hitem stateful ts)

end

/-! ### Runs -/

section
variable {item : Grammar} (hitem : Mentions item) (stateful : Bool)
include hitem

/-- Nothing in the grammar goes back or moves by hand, and all of it was written. -/
theorem list_tame (bound : ℕ) :
    Throughout (fun g => Written g ∧ Handless g ∧ Proceeding (listSetting item stateful) bound g)
      (listSetting item stateful) (listMain item) := by
  obtain rfl | rfl := hitem <;> constructor <;>
    simp [listSetting, listMain, nestedList, All.iff_children, Picks, children, Written, Handless,
      Proceeding]

theorem list_plain : Plain (listMain item) ∧
    ∀ entry ∈ (listSetting item stateful).rules, Plain entry.2 := by
  have htame := list_tame hitem stateful 0
  exact ⟨htame.main.mono fun _ h => h.1, fun entry he => (htame.rules entry he).mono fun _ h => h.1⟩

/-- Without a limit a run reads a tree to the end, and its log is that of the tree. -/
theorem run_reads (t : Tree) {config : Config} (hsize : t.print.byteSize ≤ config.maxInputSize)
    (hlimit : config.maxRecursionDepth = 0) (s : Value) (tag : ℕ) :
    ∀ᶠ n in atTop, Parser.run config
        (meaning (listSetting item stateful) n (listMain item)) s ⟨t.print, tag⟩ ⟨{}, []⟩ =
      .done ⟨s, ⟨⟨t.print, tag⟩, t.print.byteSize, []⟩, .ok t.value⟩ ⟨{}, t.visits 0 0⟩ := by
  refine (eventually_add 2 _).mp ?_
  filter_upwards [(eventually_add 1 _).mpr (eventually_reads hitem stateful t)] with n hreads
  have hfinish : Reads (· = []) (meaning (listSetting item stateful) (n + 1) .endOfInput) []
      Value.null fun _ _ => [] := Reads.endOfInput.map fun _ => Value.null
  have hmain : Reads (· = []) (meaning (listSetting item stateful) (n + 2) (listMain item))
      (t.print ++ []) t.value _ := hreads.skipRight hfinish fun _ _ => trivial
  have hend := hmain s ⟨t.print, tag⟩ 0 [] ⟨({} : Ledger).beginRun 0, []⟩ rfl ⟨rfl, rfl⟩
  simp only [List.append_nil, Nat.zero_add] at hend
  rw [run_accepted _ _ _ hsize.not_gt, hlimit]
  refine (congrArg (finished ⟨t.print, tag⟩ {}) hend).trans ?_
  exact finished_done rfl

namespace Session

/-- After any steps a run under a limit comes to an end, and that is a reply. -/
theorem list_replies {session : Session} {world : World Heap}
    (hstart : start 0 (listSetting item stateful) (listMain item) = .done session world) (fuel : ℕ)
    (before : List Step) {config : Config} (hlimit : 0 < config.maxRecursionDepth) (s : Value)
    (source : Source) : ∃ reply w, ∀ᶠ n in atTop,
      (session.after fuel before).runAt {} n .main config s source = .done reply w := by
  have htame := list_tame hitem stateful config.maxRecursionDepth
  have hproceeding : Throughout (Proceeding (listSetting item stateful) config.maxRecursionDepth)
      (listSetting item stateful) (listMain item) :=
    ⟨htame.main.mono fun _ h => h.2.2, fun entry he => (htame.rules entry he).mono fun _ h => h.2.2⟩
  have hhandless : Throughout (fun g => Unbuilt g ∧ Handless g) (listSetting item stateful)
      (listMain item) :=
    ⟨htame.main.mono fun _ h => ⟨h.2.2.unbuilt, h.2.1⟩,
      fun entry he => (htame.rules entry he).mono fun _ h => ⟨h.2.2.unbuilt, h.2.1⟩⟩
  have hok : Permitted (fun g => Unbuilt g ∧ Handless g) False False :=
    ⟨fun _ h => h.1, fun _ => ⟨trivial, trivial⟩, fun _ => not_false, fun _ h => h.2⟩
  have hbuilt := start_wellBuilt proceeding_permitted hproceeding 0
  have hsafe := start_wellBuilt hok hhandless 0
  rw [hstart] at hbuilt hsafe
  obtain ⟨r, hr, hrun⟩ := (hbuilt.after proceeding_permitted fuel before).run_halts {} hlimit le_rfl
    .main s source
  obtain ⟨n, hn : (session.after fuel before).runAt {} n .main config s source = r⟩ := hrun.exists
  have hends := (Coupling.run_onValid ((hsafe.after hok fuel before).follows hok n .main) config s
    source (w := { (session.after fuel before).world with ledger := {} })
    ⟨rfl, rfl, .refl (hsafe.after hok fuel before).sound⟩).2
  change ((session.after fuel before).runAt {} n .main config s source).Ends _ _ _ at hends
  rw [hn] at hends
  cases r with
  | done reply w => exact ⟨reply, w, hrun⟩
  | fault f w => exact hends.elim
  | outOfFuel => exact (hr rfl).elim

/-- Under a limit that reply is the one without a limit, if no application was too deep, and
else the failure that belongs to the first one that was. -/
theorem list_limited {session : Session} {world : World Heap}
    (hstart : start 0 (listSetting item stateful) (listMain item) = .done session world) (fuel : ℕ)
    (before : List Step) (t : Tree) {config : Config}
    (hsize : t.print.byteSize ≤ config.maxInputSize) (hlimit : 0 < config.maxRecursionDepth)
    (s : Value) (tag : ℕ) :
    let L := config.maxRecursionDepth
    ∃ reply, (∀ᶠ n in atTop, ∃ w,
        (session.after fuel before).runAt {} n .main config s ⟨t.print, tag⟩ = .done reply w) ∧
      ((∀ v ∈ t.visits 0 0, v.depth ≤ L) →
        reply = ⟨s, ⟨⟨t.print, tag⟩, t.print.byteSize, []⟩, .ok t.value⟩) ∧
      ∀ v, (t.visits 0 0).firstBeyond L = some v →
        reply.outcome = .error [Excess.message ⟨v.offset, max L 0 + 1, L⟩] ∧
        (Stream.start ⟨t.print, tag⟩).advance? v.offset = some reply.stream := by
  intro L
  obtain ⟨hplain, hrules⟩ := list_plain hitem stateful
  have hready := (ready_of_start hplain hrules hstart).after fuel before
  obtain ⟨reply, w, hrun⟩ := list_replies hitem stateful hstart fuel before hlimit s ⟨t.print, tag⟩
  have hsize₀ : t.print.byteSize ≤
      ({ config with maxRecursionDepth := 0 } : Config).maxInputSize := hsize
  -- what the reference does without a limit says what it does under one
  obtain ⟨n, hn, hn₀⟩ := (hrun.and (run_reads hitem stateful t hsize₀ rfl s tag)).exists
  obtain ⟨w', hn'⟩ := (hready.runAt {} n .main config s ⟨t.print, tag⟩).done_iff.mp ⟨w, hn⟩
  exact ⟨reply, hrun.mono fun n hn => ⟨w, hn⟩, meaning_limit_exact hrules hplain hlimit hn₀ hn'⟩

end Session

end

namespace Session

/-- **Nested lists end to end.** Let a rule be for lists of itself, mentioned by its shared
parser or by new ones, and a text be a tree that is not too large for a run. After any steps
the run comes to an end, in a reply that does not depend on the fuel. Without a limit, or if
the tree is lower than the limit, it has read the text to the end and found the height. Else
it fails with the message of the excess, which is one application too many, at the place
after the first bracket that makes the number of open ones the limit. -/
theorem nested_lists {item : Grammar} (hitem : Mentions item) (stateful : Bool) :
    ∃ session world,
      (∀ fuel, start fuel (listSetting item stateful) (listMain item) = .done session world) ∧
      ∀ fuel before (t : Tree) (config : Config) s tag, t.print.byteSize ≤ config.maxInputSize →
        let source : Source := ⟨t.print, tag⟩
        let L := config.maxRecursionDepth
        let Replies reply := ∀ᶠ n in atTop, ∃ w,
          (session.after fuel before).runAt {} n .main config s source = .done reply w
        (L = 0 ∨ t.height < L →
          Replies ⟨s, ⟨source, t.print.byteSize, []⟩, .ok (.int t.height)⟩) ∧
        (0 < L → L ≤ t.height → ∃ reply offset, Replies reply ∧
          reply.outcome =
            .error [s!"recursion limit exceeded: depth {L + 1} exceeds limit of {L}"] ∧
          Tree.opened? L 0 0 t.print = some offset ∧
          (Stream.start source).advance? offset = some reply.stream) := by
  obtain ⟨hplain, hrules⟩ := list_plain hitem stateful
  obtain ⟨session, world, hstart, hready⟩ := start_ready hplain hrules
  refine ⟨session, world, hstart, fun fuel before t config s tag hsize => ?_⟩
  intro source L Replies
  have hlimited := list_limited hitem stateful (hstart 0) fuel before t hsize
  have hdepths := Tree.visits_depth_le_iff L t 0 0
  rw [Nat.zero_add] at hdepths
  refine ⟨fun hshallow => ?_, fun hL hdeep => ?_⟩
  · by_cases hL : L = 0
    · refine (run_reads hitem stateful t hsize hL s tag).mono fun n hn => ?_
      exact ((hready.after fuel before).runAt {} n .main config s source).done_iff.mpr ⟨_, hn⟩
    · obtain ⟨reply, hreplies, hequal, -⟩ := hlimited (Nat.pos_of_ne_zero hL) s tag
      rwa [hequal (hdepths.mpr (hshallow.resolve_left hL))] at hreplies
  · obtain ⟨reply, hreplies, -, hbeyond⟩ := hlimited hL s tag
    obtain ⟨v, hv⟩ : ∃ v, (t.visits 0 0).firstBeyond L = some v := by
      refine Option.ne_none_iff_exists'.mp fun hnone => Nat.not_lt_of_le hdeep (hdepths.mp ?_)
      exact fun v hv => by simpa using List.find?_eq_none.mp hnone v hv
    have hopened := Tree.opened?_print t 0 0 hL []
    rw [List.append_nil, hv] at hopened
    refine ⟨reply, v.offset, hreplies, ?_, hopened, (hbeyond v hv).2⟩
    rw [(hbeyond v hv).1, Nat.max_eq_left (Nat.zero_le L)]
    rfl

/-- A tree with a shallow and a deep part: just under the limit, and just beyond it. -/
theorem uneven_list :
    Mentions (.fresh "list") ∧ ∃ session world,
      let source : Source := ⟨"[[],[[]]]".toList, 0⟩
      start 0 (listSetting (.fresh "list") false) (listMain (.fresh "list")) = .done session world ∧
      (∀ᶠ n in atTop, ∃ w, session.runAt {} n .main { maxRecursionDepth := 4 } .null source =
        .done ⟨.null, ⟨source, 9, []⟩, .ok (.int 3)⟩ w) ∧
      ∃ reply, (∀ᶠ n in atTop, ∃ w,
          session.runAt {} n .main { maxRecursionDepth := 3 } .null source = .done reply w) ∧
        reply.outcome = .error ["recursion limit exceeded: depth 4 exceeds limit of 3"] ∧
        (Stream.start source).advance? 6 = some reply.stream := by
  have hitem : Mentions (.fresh "list") := .inr rfl
  obtain ⟨session, world, hstart, h⟩ := nested_lists hitem false
  let t : Tree := .node [.node [], .node [.node []]]
  refine ⟨hitem, session, world, hstart 0, ?_, ?_⟩
  · exact (h 0 [] t { maxRecursionDepth := 4 } .null 0 (by decide)).1 (.inr (by decide))
  · obtain ⟨reply, offset, hreplies, houtcome, hoffset, hplace⟩ :=
      (h 0 [] t { maxRecursionDepth := 3 } .null 0 (by decide)).2 (by decide) (by decide)
    cases hoffset
    exact ⟨reply, hreplies, houtcome, hplace⟩

end Session

/-! ### Trees that are too large -/

/-- A tree of so many leaves. -/
def Tree.wide (n : ℕ) : Tree := .node (List.replicate n (.node []))

theorem Tree.byteSize_wide (n : ℕ) : (wide (n + 1)).print.byteSize = 3 * (n + 1) + 1 := by
  have hlater (n : ℕ) : (later (List.replicate n (.node []))).byteSize = 3 * n := by
    induction n with
    | zero => rfl
    | succ n ih =>
      rw [List.replicate_succ, byteSize_later_cons, ih]
      show 1 + 2 + 3 * n = _
      omega
  rw [wide, byteSize_node, List.replicate_succ, inner_cons, Text.byteSize_append, hlater]
  show 1 + (2 + 3 * n) + 1 = _
  omega

theorem Tree.height_wide (n : ℕ) : (wide (n + 1)).height = 2 := by
  have hgreatest (n : ℕ) : greatest (List.replicate (n + 1) (.node [])) = 1 := by
    induction n with
    | zero => rfl
    | succ n ih =>
      rw [List.replicate_succ, greatest, ih]
      rfl
  rw [wide, height, hgreatest]

namespace Session

/-- A list that is too large is refused, however shallow it is: one of many leaves by a run
that has no limits of its own, and a leaf by a run that is made to accept less. -/
theorem oversized_list_refused :
    ∃ session world,
      (∀ fuel, start fuel (listSetting (.rule "list") true) (listMain (.rule "list")) =
        .done session world) ∧
      (let t := Tree.wide 34952534
       t.height < ({} : Config).maxRecursionDepth ∧ ∀ n, ∃ w,
        session.runAt {} n .main {} .null ⟨t.print, 0⟩ =
          .done ⟨.null, .start ⟨t.print, 0⟩, .error [tooLarge 104857603 104857600]⟩ w) ∧
      (let t := Tree.node []
       ∀ n, ∃ w, session.runAt {} n .main { maxInputSize := 1, maxRecursionDepth := 0 } .null
          ⟨t.print, 0⟩ = .done ⟨.null, .start ⟨t.print, 0⟩, .error [tooLarge 2 1]⟩ w) := by
  refine ⟨_, _, fun _ => rfl, ⟨?_, fun n => ?_⟩, fun n => ⟨_, run_refused _ _ _ (by decide)⟩⟩
  · rw [Tree.height_wide]
    decide
  · have hsize : (Tree.wide 34952534).print.byteSize = 104857603 := Tree.byteSize_wide 34952533
    generalize (Tree.wide 34952534).print = text at hsize
    have hlarge : ({} : Config).maxInputSize < text.byteSize := by
      rw [hsize]
      decide
    have hrun (p : Parser (World Heap) Value Value) (w : World Heap) :
        Parser.run {} p .null ⟨text, 0⟩ w =
          .done ⟨.null, .start ⟨text, 0⟩, .error [tooLarge 104857603 104857600]⟩ w := by
      rw [run_refused _ _ _ hlarge, hsize]
      rfl
    exact ⟨_, hrun _ _⟩

end Session

end Descent
