import Mathlib.Logic.Basic
import Mathlib.Tactic.SplitIfs
import Descent.Regex.Reader

/-! Patterns in brackets.

A closing bracket behind a text changes nothing for a reader of patterns that gets by without
it: every reader reads what it read, and leaves the bracket with what is left
(`alternation?_trailing`). -/
namespace Descent.Regex
open Unicode

theorem whiteSpaceSet_eq : whiteSpaceSet = ⟨whiteSpace.toArray⟩ := by
  have hsorted : whiteSpace.mergeSort (fun a b => a.1 ≤ b.1) = whiteSpace :=
    List.mergeSort_of_pairwise (by decide)
  have hjoined : Ranges.join whiteSpace = whiteSpace := by decide +kernel
  rw [whiteSpaceSet, CharSet.ofRanges, hsorted, hjoined]

theorem isWhiteSpace_bracket : isWhiteSpace ')' = false := by
  rw [isWhiteSpace, whiteSpaceSet_eq]
  decide +kernel

/-- The same text with a closing bracket behind it, or where both are at their ends because
the bracket was part of a comment. -/
inductive Trailing : Text → Text → Prop where
  | bracket : Trailing [] [')']
  | swallowed : Trailing [] []
  | cons (c : Char) {t t' : Text} : Trailing t t' → Trailing (c :: t) (c :: t')

/-- If the first reader reads something, then the second reads something like it. -/
def Lifts {α : Type} (like : α → α → Prop) (r r' : Option α) : Prop :=
  ∀ a, r = some a → ∃ a', r' = some a' ∧ like a a'

/-- What was read is the same. -/
structure Alike {α : Type} (a a' : α × Text) : Prop where
  value : a'.1 = a.1
  rest : Trailing a.2 a'.2

namespace Lifts
variable {α β : Type} {R : α → α → Prop} {S : β → β → Prop} {r r' : Option α} {f f' : α → Option β}

theorem none : Lifts R .none r' := fun _ h => nomatch h

theorem some {a a' : α} (h : R a a') : Lifts R (.some a) (.some a') := by
  rintro _ ⟨⟩
  exact ⟨a', rfl, h⟩

theorem bind (h : Lifts R r r') (hf : ∀ a a', R a a' → Lifts S (f a) (f' a')) :
    Lifts S (r >>= f) (r' >>= f') := by
  intro b hb
  obtain ⟨a, rfl, hb⟩ := Option.bind_eq_some_iff.1 hb
  obtain ⟨a', rfl, ha⟩ := h a rfl
  exact hf a a' ha b hb

theorem bind_alike {r r' : Option (α × Text)} {f f' : α × Text → Option β} (h : Lifts Alike r r')
    (hf : ∀ a t t', Trailing t t' → Lifts S (f (a, t)) (f' (a, t'))) :
    Lifts S (r >>= f) (r' >>= f') := by
  refine h.bind fun (a, t) (a', t') ⟨hvalue, hrest⟩ => ?_
  cases hvalue
  exact hf a t t' hrest

theorem bind_same (hf : ∀ a, Lifts S (f a) (f' a)) : Lifts S (r >>= f) (r >>= f') := by
  cases r with
  | none => exact none
  | some a => exact hf a

theorem map {f : α → β} (h : Lifts R r r') (hf : ∀ a a', R a a' → S (f a) (f a')) :
    Lifts S (r.map f) (r'.map f) := by
  intro b hb
  obtain ⟨a, rfl, rfl⟩ := Option.map_eq_some_iff.1 hb
  obtain ⟨a', rfl, ha⟩ := h a rfl
  exact ⟨f a', rfl, hf a a' ha⟩

theorem map_same {f f' : α → β} (hf : ∀ a, S (f a) (f' a)) : Lifts S (r.map f) (r.map f') := by
  cases r with
  | none => exact none
  | some a => exact some (hf a)

end Lifts

variable {flags : Flags} {t t' : Text}

namespace Trailing

theorem append (t : Text) : Trailing t (t ++ [')']) := by
  induction t with
  | nil => exact bracket
  | cons c t ih => exact ih.cons c

theorem dropWhile {p : Char → Bool} (h : Trailing t t') (hp : p ')' = false) :
    Trailing (t.dropWhile p) (t'.dropWhile p) := by
  induction h with
  | bracket =>
    rw [List.dropWhile_cons_of_neg (by rw [hp]; exact Bool.false_ne_true)]
    exact bracket
  | swallowed => exact swallowed
  | cons c h ih =>
    rw [List.dropWhile_cons, List.dropWhile_cons]
    split
    · exact ih
    · exact h.cons c

/-- What is passed over is the same, or all of both texts. -/
theorem takeWhile {p : Char → Bool} (h : Trailing t t') (hp : p ')' = true) :
    t.dropWhile p = [] ∧ t'.dropWhile p = [] ∨
      t'.takeWhile p = t.takeWhile p ∧ Trailing (t.dropWhile p) (t'.dropWhile p) := by
  induction h with
  | bracket => exact .inl ⟨rfl, by rw [List.dropWhile_cons_of_pos hp]; rfl⟩
  | swallowed => exact .inl ⟨rfl, rfl⟩
  | cons c h ih =>
    simp only [List.dropWhile_cons, List.takeWhile_cons]
    split
    · exact ih.imp_right fun ⟨htake, hdrop⟩ => ⟨by rw [htake], hdrop⟩
    · exact .inr ⟨rfl, h.cons c⟩

/-- Both begin with the same, unless it is the bracket. -/
theorem head? {c : Char} (h : Trailing t t') (hc : c ≠ ')') :
    (t'.head? == some c) = (t.head? == some c) := by
  cases h with
  | bracket => simpa using Ne.symm hc
  | swallowed => rfl
  | cons d h => rfl

theorem drop_one {c : Char} (h : Trailing t t') (hc : t.head? == some c) :
    Trailing (t.drop 1) (t'.drop 1) := by
  cases h with
  | bracket | swallowed => exact nomatch beq_iff_eq.1 hc
  | cons d h => exact h

theorem skipSpacesFrom (inComment : Bool) (h : Trailing t t') :
    Trailing (Flags.skipSpacesFrom inComment t) (Flags.skipSpacesFrom inComment t') := by
  induction h generalizing inComment with
  | bracket =>
    cases inComment with
    | true => exact swallowed
    | false =>
      rw [Flags.skipSpacesFrom, Flags.skipSpacesFrom, if_neg Bool.false_ne_true,
        isWhiteSpace_bracket, if_neg Bool.false_ne_true, if_neg (by decide)]
      exact bracket
  | swallowed => exact swallowed
  | cons c h ih =>
    rw [Flags.skipSpacesFrom, Flags.skipSpacesFrom]
    split_ifs
    · exact ih _
    · exact ih _
    · exact ih _
    · exact h.cons c

theorem skipSpaces (flags : Flags) (h : Trailing t t') :
    Trailing (flags.skipSpaces t) (flags.skipSpaces t') := by
  rw [Flags.skipSpaces, Flags.skipSpaces]
  split
  · exact h.skipSpacesFrom false
  · exact h

theorem peek {c : Char} (h : Trailing t t') (hc : c ≠ ')') :
    (flags.peek t' == some c) = (flags.peek t == some c) := by
  rw [Flags.peek, Flags.peek]
  split
  · have hspaces := h.dropWhile isWhiteSpace_bracket
    revert hspaces
    generalize t.dropWhile isWhiteSpace = u, t'.dropWhile isWhiteSpace = u'
    intro hspaces
    cases hspaces with
    | bracket => exact bracket.head? hc
    | swallowed => rfl
    | cons d hrest =>
      obtain rfl | hsign := eq_or_ne d '#'
      · exact (hrest.dropWhile isWhiteSpace_bracket).head? hc
      · simp only [List.cons.injEq, hsign, false_and, imp_self, implies_true]
        rfl
  · exact h.head? hc

theorem cons_left {c : Char} {s : Text} (h : Trailing t t') (ht : t = c :: s) :
    ∃ s', t' = c :: s' ∧ Trailing s s' := by
  cases h with
  | bracket | swallowed => cases ht
  | cons _ h =>
    cases ht
    exact ⟨_, rfl, h⟩

theorem cons_right {c : Char} {s' : Text} (hc : c ≠ ')') (h : Trailing t (c :: s')) :
    ∃ s, t = c :: s ∧ Trailing s s' := by
  generalize heq : c :: s' = u' at h
  cases h with
  | bracket => exact absurd (List.cons.inj heq).1 hc
  | swallowed => cases heq
  | cons d h =>
    cases heq
    exact ⟨_, rfl, h⟩

theorem not_nil (h : Trailing t t') (hnot : t = [] → False) (heq : t' = []) : False := by
  subst heq
  cases h
  exact hnot rfl

/-- The second text begins with nothing with which the first does not, the bracket apart. -/
theorem not_begins (p : Text) (hp : ')' ∉ p) (h : Trailing t t') (hnot : ∀ s, t = p ++ s → False)
    {s' : Text} (heq : t' = p ++ s') : False := by
  induction p generalizing t t' with
  | nil => exact hnot t rfl
  | cons c p ih =>
    obtain ⟨hc, hp⟩ := not_or.1 (mt List.mem_cons.2 hp)
    subst heq
    obtain ⟨s, rfl, hs⟩ := h.cons_right (Ne.symm hc)
    exact ih hp hs (fun r hr => hnot r (congrArg _ hr)) rfl

end Trailing

/-! ### Numbers and names -/

theorem untilBrace_trailing (acc : Text) (h : Trailing t t') :
    Lifts Alike (untilBrace flags acc t) (untilBrace flags acc t') := by
  fun_induction untilBrace flags acc t generalizing t' with
  | case1 => exact .none
  | case2 acc rest hle =>
    cases h with
    | cons _ h =>
      rw [untilBrace, if_pos rfl]
      exact .some ⟨rfl, h⟩
  | case3 acc c rest hle hbrace ih =>
    cases h with
    | cons _ h =>
      rw [untilBrace, if_neg hbrace]
      exact ih (h.skipSpaces flags)

theorem digitsFrom_trailing (acc : Text) (h : Trailing t t') :
    Alike (digitsFrom flags acc t) (digitsFrom flags acc t') := by
  fun_induction digitsFrom flags acc t generalizing t' with
  | case1 acc =>
    cases h with
    | bracket =>
      rw [digitsFrom, if_neg (by decide)]
      exact ⟨rfl, .bracket⟩
    | swallowed =>
      rw [digitsFrom]
      exact ⟨rfl, .swallowed⟩
  | case2 acc c rest hle hdigit ih =>
    cases h with
    | cons _ h =>
      rw [digitsFrom, if_pos hdigit]
      exact ih (h.skipSpaces flags)
  | case3 acc c rest hle hdigit =>
    cases h with
    | cons _ h =>
      rw [digitsFrom, if_neg hdigit]
      exact ⟨rfl, h.cons c⟩

theorem count?_trailing (h : Trailing t t') : Lifts Alike (count? flags t) (count? flags t') := by
  obtain ⟨hvalue, hrest⟩ : Alike (digitsFrom flags [] (t.dropWhile isWhiteSpace))
      (digitsFrom flags [] (t'.dropWhile isWhiteSpace)) :=
    digitsFrom_trailing [] (h.dropWhile isWhiteSpace_bracket)
  simp only [count?]
  rw [hvalue]
  split
  · exact .none
  · exact .some ⟨rfl, (hrest.dropWhile isWhiteSpace_bracket).skipSpaces flags⟩

theorem bounds?_trailing (h : Trailing t t') :
    Lifts Alike (bounds? flags t) (bounds? flags t') := by
  refine (count?_trailing (h.skipSpaces flags)).bind_alike fun min t t' h => ?_
  dsimp only
  split
  · obtain ⟨s', rfl, hs⟩ := h.cons_left rfl
    exact .some ⟨rfl, hs⟩
  · obtain ⟨s', rfl, hs⟩ := h.cons_left rfl
    simp only []
    have hrest := hs.skipSpaces flags
    split
    · next hclose =>
      obtain ⟨r', hr', hr⟩ := hrest.cons_left hclose
      rw [hr']
      exact .some ⟨rfl, hr⟩
    · next hopen =>
      split
      · next hclose => exact (hrest.not_begins ['\x7d'] (by decide) hopen hclose).elim
      · refine (count?_trailing hrest).bind_alike fun max t t' h => ?_
        dsimp only
        split
        · obtain ⟨r', rfl, hr⟩ := h.cons_left rfl
          simp only []
          split
          · exact .some ⟨rfl, hr⟩
          · exact .none
        · exact .none
  · exact .none

theorem hexDigits?_trailing (acc : Text) (count : Nat) (h : Trailing t t') :
    Lifts Alike (hexDigits? flags acc count t) (hexDigits? flags acc count t') := by
  fun_induction hexDigits? flags acc count t generalizing t' with
  | case1 =>
    rw [hexDigits?]
    exact .some ⟨rfl, h⟩
  | case2 => exact .none
  | case3 acc count c rest ih =>
    obtain ⟨s', rfl, hs⟩ := h.cons_left rfl
    rw [hexDigits?]
    refine ih ?_
    split
    · exact hs
    · exact hs.skipSpaces flags

theorem groupName?_trailing (acc : Text) (h : Trailing t t') :
    Lifts Alike (groupName? acc t) (groupName? acc t') := by
  fun_induction groupName? acc t generalizing t' with
  | case1 | case2 => exact .none
  | case3 acc rest hacc =>
    obtain ⟨s', rfl, hs⟩ := h.cons_left rfl
    rw [groupName?, if_pos rfl, if_neg hacc]
    exact .some ⟨rfl, hs⟩
  | case4 acc c rest hend hchar ih =>
    obtain ⟨s', rfl, hs⟩ := h.cons_left rfl
    rw [groupName?, if_neg hend, if_pos hchar]
    exact ih hs
  | case5 => exact .none

/-! ### Escapes -/

theorem numbered?_trailing (count : Nat) (h : Trailing t t') :
    Lifts Alike (numbered? flags count t) (numbered? flags count t') := by
  have hrest := h.skipSpaces flags
  rw [numbered?, numbered?]
  split
  · next hbrace =>
    obtain ⟨s', hs', hs⟩ := hrest.cons_left hbrace
    rw [hs']
    refine (untilBrace_trailing [] (hs.skipSpaces flags)).bind_alike fun digits t t' h => ?_
    exact .bind_same fun c => .some ⟨rfl, h⟩
  · next hbare =>
    split
    · next hbrace => exact (hrest.not_begins ['\x7b'] (by decide) hbare hbrace).elim
    · refine (hexDigits?_trailing [] count hrest).bind_alike fun digits t t' h => ?_
      exact .bind_same fun c => .some ⟨rfl, h⟩

theorem propertyClass?_trailing (negated : Bool) (h : Trailing t t') :
    Lifts Alike (propertyClass? flags negated t) (propertyClass? flags negated t') := by
  have hrest := h.skipSpaces flags
  simp only [propertyClass?]
  split
  · exact .none
  split
  · exact .none
  · next hbrace =>
    obtain ⟨s', hs', hs⟩ := hrest.cons_left hbrace
    rw [hs']
    refine (untilBrace_trailing [] (hs.skipSpaces flags)).bind_alike fun name t t' h => ?_
    dsimp only
    split <;> exact .bind_same fun set => .some ⟨rfl, h⟩
  · next hbare hletter =>
    obtain ⟨s', hs', hs⟩ := hrest.cons_left hletter
    rw [hs']
    simp only []
    exact .bind_same fun set => .some ⟨rfl, hs⟩

/-- A boundary of words, or a test whose name is in braces. -/
theorem escape?_word_trailing (h : Trailing t t') :
    Lifts Alike (escape? flags ('b' :: t)) (escape? flags ('b' :: t')) := by
  simp only [escape?]
  cases h with
  | bracket => exact .some ⟨rfl, .bracket⟩
  | swallowed => exact .some ⟨rfl, .swallowed⟩
  | @cons c t t' h =>
    obtain rfl | hbrace := eq_or_ne c '\x7b'
    · have hrest := h.skipSpaces flags
      simp only []
      generalize flags.skipSpaces t = u, flags.skipSpaces t' = u' at hrest
      cases hrest with
      | bracket | swallowed => exact .none
      | cons first hrest =>
        simp only []
        split
        · refine (untilBrace_trailing [] (hrest.cons first)).bind_alike fun name t t' h => ?_
          exact .bind_same fun test => .some ⟨rfl, h⟩
        · exact .some ⟨rfl, h.cons _⟩
    · simp only [List.cons.injEq, hbrace, false_and, imp_self, implies_true]
      exact .some ⟨rfl, h.cons c⟩

theorem escape?_trailing (h : Trailing t t') :
    Lifts Alike (escape? flags t) (escape? flags t') := by
  cases h with
  | bracket | swallowed => exact .none
  | @cons c t t' h =>
    have hset {a a' : CharSet × Text} (ha : Alike a a') :
        Alike (Atom.set a.1, a.2) (Atom.set a'.1, a'.2) :=
      ⟨congrArg Atom.set ha.value, ha.rest⟩
    obtain rfl | hbyte := eq_or_ne c 'x'
    · exact numbered?_trailing 2 h
    obtain rfl | hshort := eq_or_ne c 'u'
    · exact numbered?_trailing 4 h
    obtain rfl | hlong := eq_or_ne c 'U'
    · exact numbered?_trailing 8 h
    obtain rfl | hproperty := eq_or_ne c 'p'
    · exact (propertyClass?_trailing false h).map fun _ _ => hset
    obtain rfl | hnoProperty := eq_or_ne c 'P'
    · exact (propertyClass?_trailing true h).map fun _ _ => hset
    obtain rfl | hword := eq_or_ne c 'b'
    · exact escape?_word_trailing h
    by_cases hclass : c = 'd' ∨ c = 's' ∨ c = 'w' ∨ c = 'D' ∨ c = 'S' ∨ c = 'W'
    · obtain rfl | rfl | rfl | rfl | rfl | rfl := hclass <;>
        exact .map_same fun set => ⟨rfl, h⟩
    by_cases hcontrol : c = 'a' ∨ c = 'f' ∨ c = 't' ∨ c = 'n' ∨ c = 'r' ∨ c = 'v'
    · obtain rfl | rfl | rfl | rfl | rfl | rfl := hcontrol <;> exact .some ⟨rfl, h⟩
    by_cases hplace : c = 'A' ∨ c = 'z' ∨ c = 'B' ∨ c = '<' ∨ c = '>'
    · obtain rfl | rfl | rfl | rfl | rfl := hplace <;> exact .some ⟨rfl, h⟩
    -- any other stands for itself, if it may
    simp only [not_or] at hclass hcontrol hplace
    obtain ⟨hd, hs, hw, hD, hS, hW⟩ := hclass
    obtain ⟨ha, hf, ht, hn, hr, hv⟩ := hcontrol
    obtain ⟨hA, hz, hB, hopen, hclose⟩ := hplace
    simp only [escape?]
    split
    · exact .some ⟨rfl, h⟩
    · exact .none

/-! ### Sets in brackets -/

/-- A named set, from after the sign of a negation. -/
def namedSet? (flags : Flags) (negated : Bool) (t : Text) : Option (Option CharSet × Text) := do
  let ranges ← CharClass.named? (String.ofList (t.takeWhile (· ≠ ':')))
  match t.dropWhile (· ≠ ':') with
  | ':' :: ']' :: t =>
    some (charsOnly? flags ((forgetCase flags (.ofRanges ranges)).negate negated), t)
  | _ => none

theorem asciiClass?_eq (flags : Flags) (t : Text) :
    asciiClass? flags t =
      let negated := t.head? == some '^'
      namedSet? flags negated (if negated then t.drop 1 else t) := rfl

theorem namedSet?_of_dropWhile {negated : Bool} (h : t.dropWhile (· ≠ ':') = []) :
    namedSet? flags negated t = none := by
  rw [namedSet?, h]
  cases CharClass.named? (String.ofList (t.takeWhile (· ≠ ':'))) <;> rfl

theorem namedSet?_trailing (negated : Bool) (h : Trailing t t') :
    Lifts Alike (namedSet? flags negated t) (namedSet? flags negated t') ∧
      (namedSet? flags negated t = none → namedSet? flags negated t' = none) := by
  obtain ⟨hdrop, hdrop'⟩ | ⟨htake, hrest⟩ := h.takeWhile (p := (· ≠ ':')) (by decide)
  · rw [namedSet?_of_dropWhile hdrop, namedSet?_of_dropWhile hdrop']
    exact ⟨.none, fun _ => rfl⟩
  · rw [namedSet?, namedSet?, htake]
    cases CharClass.named? (String.ofList (t.takeWhile (· ≠ ':'))) with
    | none => exact ⟨.none, fun _ => rfl⟩
    | some ranges =>
      simp only [Option.bind_eq_bind, Option.bind_some]
      split
      · next hend =>
        obtain ⟨s', hs', hs⟩ := hrest.cons_left hend
        obtain ⟨r', rfl, hr⟩ := hs.cons_left rfl
        rw [hs']
        exact ⟨.some ⟨rfl, hr⟩, nofun⟩
      · next hopen =>
        split
        · exact (hrest.not_begins [':', ']'] (by decide) hopen ‹_›).elim
        · exact ⟨.none, fun _ => rfl⟩

/-- A named set is read from both texts or from none. -/
theorem asciiClass?_trailing (h : Trailing t t') :
    Lifts Alike (asciiClass? flags t) (asciiClass? flags t') ∧
      (asciiClass? flags t = none → asciiClass? flags t' = none) := by
  rw [asciiClass?_eq, asciiClass?_eq, h.head? (show '^' ≠ ')' by decide)]
  dsimp only
  refine namedSet?_trailing _ ?_
  split
  · exact h.drop_one ‹_›
  · exact h

theorem setAtom?_trailing (h : Trailing t t') :
    Lifts Alike (setAtom? flags t) (setAtom? flags t') := by
  fun_cases setAtom? flags t with
  | case1 => exact .none
  | case2 t =>
    obtain ⟨s', rfl, hs⟩ := h.cons_left rfl
    exact escape?_trailing hs
  | case3 c t hc =>
    obtain ⟨s', rfl, hs⟩ := h.cons_left rfl
    simp only [setAtom?]
    exact .some ⟨rfl, hs⟩

/-- A character or a set by escape that is no beginning of a range. -/
def lone? (flags : Flags) (first : Atom) (t : Text) : Option (Ranges × Text) := do
  match first with
  | .set set => some (set.toRanges, t)
  | .look _ => none
  | atom =>
    let c ← setLiteral? flags atom
    some ([(c.toNat, c.toNat)], t)

theorem lone?_trailing (first : Atom) (h : Trailing t t') :
    Lifts Alike (lone? flags first t) (lone? flags first t') := by
  simp only [lone?]
  split
  · exact .some ⟨rfl, h⟩
  · exact .none
  · exact .bind_same fun _ => .some ⟨rfl, h⟩

theorem setRange?_eq (flags : Flags) (t : Text) :
    setRange? flags t = (do
      let (first, t) ← setAtom? flags t
      match flags.skipSpaces t with
      | [] => none
      | '-' :: t =>
        if flags.peek t == some ']' || flags.peek t == some '-' then lone? flags first ('-' :: t)
        else do
          let (last, t) ← setAtom? flags (flags.skipSpaces t)
          let first ← setLiteral? flags first
          let last ← setLiteral? flags last
          if first ≤ last then some ([(first.toNat, last.toNat)], t) else none
      | t => lone? flags first t) := rfl

theorem setRange?_trailing (h : Trailing t t') :
    Lifts Alike (setRange? flags t) (setRange? flags t') := by
  rw [setRange?_eq, setRange?_eq]
  refine (setAtom?_trailing h).bind_alike fun first t t' h => ?_
  have hrest := h.skipSpaces flags
  dsimp only
  split
  · exact .none
  · next hhyphen =>
    obtain ⟨r', hr', hr⟩ := hrest.cons_left hhyphen
    rw [hr']
    simp only [hr.peek (show ']' ≠ ')' by decide), hr.peek (show '-' ≠ ')' by decide)]
    split
    · exact lone?_trailing first (hr.cons '-')
    · refine (setAtom?_trailing (hr.skipSpaces flags)).bind_alike fun last t t' h => ?_
      refine .bind_same fun first => .bind_same fun last => ?_
      split
      · exact .some ⟨rfl, h⟩
      · exact .none
  · next hnil hlone =>
    split
    · exact (hrest.not_nil hnil ‹_›).elim
    · exact (hrest.not_begins ['-'] (by decide) hlone ‹_›).elim
    · exact lone?_trailing first hrest

theorem leading_trailing (flags : Flags) (items : Items) (h : Trailing t t') :
    Alike (leading flags items t) (leading flags items t') := by
  fun_induction leading flags items t generalizing t' with
  | case1 items t hle ih =>
    obtain ⟨s', rfl, hs⟩ := h.cons_left rfl
    rw [leading]
    exact ih (hs.skipSpaces flags)
  | case2 items t hcount =>
    obtain ⟨s', rfl, hs⟩ := h.cons_left rfl
    rw [leading, if_pos hcount]
    exact ⟨rfl, hs.cons _⟩
  | case3 items t hcount =>
    obtain ⟨s', rfl, hs⟩ := h.cons_left rfl
    rw [leading, if_neg hcount]
    exact ⟨rfl, hs.skipSpaces flags⟩
  | case4 items t hhyphen hbracket =>
    unfold leading
    split
    · exact (h.not_begins ['-'] (by decide) hhyphen rfl).elim
    · exact (h.not_begins [']'] (by decide) hbracket rfl).elim
    · exact ⟨rfl, h⟩

/-- A named set in brackets, from after the bracket. -/
def named? (flags : Flags) : Text → Option (Option CharSet × Text)
  | ':' :: t => asciiClass? flags t
  | _ => none

theorem named?_trailing (flags : Flags) (h : Trailing t t') :
    Lifts Alike (named? flags t) (named? flags t') ∧
      (named? flags t = none → named? flags t' = none) := by
  fun_cases named? flags t with
  | case1 t =>
    obtain ⟨s', rfl, hs⟩ := h.cons_left rfl
    exact asciiClass?_trailing hs
  | case2 t hnot =>
    refine ⟨.none, fun _ => ?_⟩
    fun_cases named? flags t' with
    | case1 => exact (h.not_begins [':'] (by decide) hnot rfl).elim
    | case2 => rfl

/-- Reads a set in a set, from after its bracket, and goes on with the items behind it. -/
def innerSet? (flags : Flags) (fuel : Nat) (pending : Option (SetOp × Nested)) (items : Items)
    (t : Text) : Option (Nested × Text) :=
  match named? flags t with
  | some (set, t) => do setItems? flags fuel pending (items.add (← set).toRanges 0) t
  | none => do
    let (inner, t) ← set? flags fuel t
    setItems? flags fuel pending (items.add inner.set.toRanges inner.depth) t

section
variable {n m : Nat} {pending : Option (SetOp × Nested)} {items : Items}
variable (hitems : ∀ {pending items t t'}, Trailing t t' →
  Lifts Alike (setItems? flags n pending items t) (setItems? flags m pending items t'))
include hitems

theorem set?_succ_trailing (h : Trailing t t') :
    Lifts Alike (set? flags (n + 1) t) (set? flags (m + 1) t') := by
  have hstart := h.skipSpaces flags
  rw [set?, set?]
  simp only [hstart.head? (show '^' ≠ ')' by decide)]
  have hsigned : Trailing
      (if (flags.skipSpaces t).head? == some '^' then
        flags.skipSpaces ((flags.skipSpaces t).drop 1) else flags.skipSpaces t)
      (if (flags.skipSpaces t).head? == some '^' then
        flags.skipSpaces ((flags.skipSpaces t').drop 1) else flags.skipSpaces t') := by
    split
    · exact (hstart.drop_one ‹_›).skipSpaces flags
    · exact hstart
  have hleading := leading_trailing flags {} hsigned
  rw [hleading.value]
  refine (hitems hleading.rest).bind_alike fun inner t t' h => ?_
  exact .bind_same fun set => .some ⟨rfl, h⟩

/-- A named set is read from both texts, or one with items from both. -/
theorem innerSet?_trailing
    (hset : ∀ {t t'}, Trailing t t' → Lifts Alike (set? flags n t) (set? flags m t'))
    (h : Trailing t t') :
    Lifts Alike (innerSet? flags n pending items t) (innerSet? flags m pending items t') := by
  obtain ⟨hsome, hnone⟩ := named?_trailing flags h
  simp only [innerSet?]
  cases hnamed : named? flags t with
  | none =>
    rw [hnone hnamed]
    exact (hset h).bind_alike fun inner t t' h => hitems h
  | some a =>
    obtain ⟨⟨set, rest⟩, hnamed', ha⟩ := hsome a hnamed
    rw [hnamed']
    cases ha.value
    exact .bind_same fun set => hitems ha.rest

theorem setItems?_succ_trailing
    (hset : ∀ {t t'}, Trailing t t' → Lifts Alike (set? flags n t) (set? flags m t'))
    (h : Trailing t t') :
    Lifts Alike (setItems? flags (n + 1) pending items t)
      (setItems? flags (m + 1) pending items t') := by
  have hrest := h.skipSpaces flags
  have hdoubled {c : Char} {r : Text} (h : flags.skipSpaces t = c :: c :: r) :
      ∃ r', flags.skipSpaces t' = c :: c :: r' ∧ Trailing r r' := by
    obtain ⟨s', hs', hs⟩ := hrest.cons_left h
    obtain ⟨r', rfl, hr⟩ := hs.cons_left rfl
    exact ⟨r', hs', hr⟩
  simp only [setItems?]
  split
  · exact .none
  · next hclose =>
    obtain ⟨s', hs', hs⟩ := hrest.cons_left hclose
    rw [hs']
    exact .some ⟨rfl, hs⟩
  · next hand =>
    obtain ⟨s', hs', hs⟩ := hdoubled hand
    rw [hs']
    exact hitems hs
  · next hminus =>
    obtain ⟨s', hs', hs⟩ := hdoubled hminus
    rw [hs']
    exact hitems hs
  · next htilde =>
    obtain ⟨s', hs', hs⟩ := hdoubled htilde
    rw [hs']
    exact hitems hs
  · next hopen =>
    obtain ⟨s', hs', hs⟩ := hrest.cons_left hopen
    rw [hs']
    exact innerSet?_trailing hitems hset hs
  · next hnil hclose hand hminus htilde hopen =>
    -- an item: the second text begins with none of the signs either
    split
    · exact (hrest.not_nil hnil ‹_›).elim
    · exact (hrest.not_begins [']'] (by decide) hclose ‹_›).elim
    · exact (hrest.not_begins ['&', '&'] (by decide) hand ‹_›).elim
    · exact (hrest.not_begins ['-', '-'] (by decide) hminus ‹_›).elim
    · exact (hrest.not_begins ['~', '~'] (by decide) htilde ‹_›).elim
    · exact (hrest.not_begins ['['] (by decide) hopen ‹_›).elim
    · exact (setRange?_trailing hrest).bind_alike fun ranges s s' hs => hitems hs

end

/-- Sets and their items are read with more fuel too. -/
theorem sets_trailing (n : Nat) :
    (∀ {m t t'}, n ≤ m → Trailing t t' → Lifts Alike (set? flags n t) (set? flags m t')) ∧
      ∀ {m pending items t t'}, n ≤ m → Trailing t t' →
        Lifts Alike (setItems? flags n pending items t) (setItems? flags m pending items t') := by
  induction n with
  | zero => exact ⟨fun _ _ => .none, fun _ _ => .none⟩
  | succ n ih =>
    obtain ⟨hset, hitems⟩ := ih
    refine ⟨fun {m t t'} hle h => ?_, fun {m pending items t t'} hle h => ?_⟩
    · obtain ⟨m, rfl⟩ := Nat.exists_eq_add_of_le' (Nat.le_trans (Nat.succ_pos n) hle)
      exact set?_succ_trailing (hitems (Nat.le_of_succ_le_succ hle)) h
    · obtain ⟨m, rfl⟩ := Nat.exists_eq_add_of_le' (Nat.le_trans (Nat.succ_pos n) hle)
      have hle' := Nat.le_of_succ_le_succ hle
      exact setItems?_succ_trailing (hitems hle') (hset hle') h

/-! ### Expressions -/

/-- What is read of flags is the same. -/
structure FlagsAlike (a a' : Flags × List Char × Char × Text) : Prop where
  flags : a'.1 = a.1
  seen : a'.2.1 = a.2.1
  last : a'.2.2.1 = a.2.2.1
  rest : Trailing a.2.2.2 a'.2.2.2

theorem read_trailing (seen : List Char) (h : Trailing t t') :
    Lifts FlagsAlike (flags.read seen t) (flags.read seen t') := by
  fun_induction Flags.read flags seen t generalizing t' with
  | case1 | case2 => exact .none
  | case3 flags seen c rest hend hseen =>
    obtain ⟨s', rfl, hs⟩ := h.cons_left rfl
    rw [Flags.read, if_pos hend, if_neg hseen]
    exact .some ⟨rfl, rfl, rfl, hs⟩
  | case4 => exact .none
  | case5 flags seen rest hend hseen ih =>
    obtain ⟨s', rfl, hs⟩ := h.cons_left rfl
    rw [Flags.read, if_neg hend, if_neg hseen, if_pos rfl]
    exact ih hs
  | case6 flags seen c rest hend hseen hhyphen flags' hset ih =>
    obtain ⟨s', rfl, hs⟩ := h.cons_left rfl
    rw [Flags.read, if_neg hend, if_neg hseen, if_neg hhyphen, hset]
    exact ih hs
  | case7 => exact .none

/-- The name of a group, from after its opening angle bracket. -/
def namedGroup? (flags : Flags) (t : Text) : Option (Opening × Text) := do
  let (name, t) ← groupName? [] t
  some (.group flags true name, t)

theorem namedGroup?_trailing (h : Trailing t t') :
    Lifts Alike (namedGroup? flags t) (namedGroup? flags t') :=
  (groupName?_trailing [] h).bind_alike fun _ _ _ h => .some ⟨rfl, h⟩

/-- The flags of a group or of what follows. -/
def setting? (flags : Flags) (t : Text) : Option (Opening × Text) := do
  let (inner, seen, last, t) ← flags.read [] t
  if last = ':' then some (.group inner false none, t)
  else if seen.isEmpty then none
  else some (.setting inner, t)

theorem setting?_trailing (h : Trailing t t') :
    Lifts Alike (setting? flags t) (setting? flags t') := by
  refine (read_trailing [] h).bind fun a a' ha => ?_
  obtain ⟨inner, seen, last, t⟩ := a
  obtain ⟨_, _, _, t'⟩ := a'
  obtain ⟨rfl, rfl, rfl, h⟩ := ha
  dsimp only
  split
  · exact .some ⟨rfl, h⟩
  split
  · exact .none
  · exact .some ⟨rfl, h⟩

theorem opening?_trailing (h : Trailing t t') :
    Lifts Alike (opening? flags t) (opening? flags t') := by
  have hrest := h.skipSpaces flags
  simp only [opening?]
  generalize flags.skipSpaces t = u, flags.skipSpaces t' = u' at hrest
  cases hrest with
  | bracket => exact .some ⟨rfl, .bracket⟩
  | swallowed => exact .some ⟨rfl, .swallowed⟩
  | cons mark hrest =>
    obtain hplain | rfl := ne_or_eq mark '?'
    · simp only [List.cons.injEq, hplain, false_and, imp_self, implies_true]
      exact .some ⟨rfl, hrest.cons mark⟩
    cases hrest with
    | bracket | swallowed => exact .none
    | cons c h =>
      -- looking ahead and behind is no part of patterns
      obtain rfl | hahead := eq_or_ne c '='
      · exact .none
      obtain rfl | hnotAhead := eq_or_ne c '!'
      · exact .none
      obtain rfl | hangle := eq_or_ne c '<'
      · cases h with
        | bracket | swallowed => exact .none
        | cons d h =>
          obtain rfl | hbehind := eq_or_ne d '='
          · exact .none
          obtain rfl | hnotBehind := eq_or_ne d '!'
          · exact .none
          simp only [List.cons.injEq, hbehind, hnotBehind, false_and, imp_self, implies_true]
          exact namedGroup?_trailing (h.cons d)
      obtain rfl | hletter := eq_or_ne c 'P'
      · cases h with
        | bracket | swallowed => exact .none
        | cons d h =>
          obtain rfl | hangle := eq_or_ne d '<'
          · exact namedGroup?_trailing h
          simp only [List.cons.injEq, Char.reduceEq, hangle, false_and, and_false, imp_self,
            implies_true]
          exact setting?_trailing ((h.cons d).cons 'P')
      simp only [List.cons.injEq, hahead, hnotAhead, hangle, hletter, false_and, imp_self,
        implies_true]
      exact setting?_trailing (h.cons c)

/-- The second cursor stands at the same place, with the bracket ahead. -/
def Ahead (c c' : Cursor) : Prop := ∃ t', Trailing c.rest t' ∧ c' = { c with rest := t' }

/-- The same part was read, up to the same place. -/
structure SamePart (a a' : Part × Cursor) : Prop where
  part : a'.1 = a.1
  cursor : Ahead a.2 a'.2

theorem enter?_trailing {cursor cursor' : Cursor} (hcursor : Ahead cursor cursor') (inner : Flags)
    (counted : Bool) (name : Option Text) (h : Trailing t t') :
    Lifts Ahead (cursor.enter? inner counted name t) (cursor'.enter? inner counted name t') := by
  obtain ⟨r', -, rfl⟩ := hcursor
  simp only [Cursor.enter?]
  split
  · split
    · exact .none
    · exact .some ⟨t', h, rfl⟩
  · exact .some ⟨t', h, rfl⟩

/-- Whether a repetition is greedy, by the mark that may stand behind it. -/
def greed (flags : Flags) : Text → Bool × Text
  | '?' :: t => (flags.swapGreed, t)
  | t => (!flags.swapGreed, t)

theorem greed_trailing (flags : Flags) (h : Trailing t t') :
    Alike (greed flags t) (greed flags t') := by
  fun_cases greed flags t with
  | case1 t =>
    obtain ⟨s', rfl, hs⟩ := h.cons_left rfl
    exact ⟨rfl, hs⟩
  | case2 t hnot =>
    fun_cases greed flags t' with
    | case1 => exact (h.not_begins ['?'] (by decide) hnot rfl).elim
    | case2 => exact ⟨rfl, h⟩

/-- Repeats the last item, and goes on with what is read by `go`. -/
def repeated? (go : List Part → Cursor → Option (Part × Cursor)) (items : List Part)
    (cursor : Cursor) (min : Nat) (max : Option Nat) (t : Text) : Option (Part × Cursor) :=
  match items with
  | item :: items =>
    if item.isSetting then none
    else
      let (greedy, t) := greed cursor.flags t
      go (⟨.times min max greedy item.expr, item.depth + 1, false⟩ :: items)
        { cursor with rest := t }
  | [] => none

theorem repeated?_trailing {go go' : List Part → Cursor → Option (Part × Cursor)}
    (hgo : ∀ items c c', Ahead c c' → Lifts SamePart (go items c) (go' items c'))
    (items : List Part) (cursor : Cursor) (min : Nat) (max : Option Nat) {r' : Text}
    (h : Trailing t t') :
    Lifts SamePart (repeated? go items cursor min max t)
      (repeated? go' items { cursor with rest := r' } min max t') := by
  cases items with
  | nil => exact .none
  | cons item items =>
    have hgreed := greed_trailing cursor.flags h
    simp only [repeated?, hgreed.value]
    split
    · exact .none
    · exact hgo _ _ _ ⟨_, hgreed.rest, rfl⟩

/-- Reads a group, from after its beginning, and goes on behind it. -/
def group? (fuel : Nat) (branches items : List Part) (cursor : Cursor) (inner : Flags)
    (counted : Bool) (name : Option Text) (t : Text) : Option (Part × Cursor) := do
  let inside ← cursor.enter? inner counted name t
  let (part, after) ← alternation? fuel [] [] inside
  let e := if counted then .group inside.groups part.expr else part.expr
  match after.rest with
  | ')' :: t =>
    alternation? fuel branches (⟨e, part.depth + 1, false⟩ :: items)
      { after with flags := cursor.flags, rest := t }
  | _ => none

section
variable {n m : Nat} {branches items : List Part} {cursor : Cursor}
variable (hlater : ∀ {branches items c c'}, Ahead c c' →
  Lifts SamePart (alternation? n branches items c) (alternation? m branches items c'))
include hlater

/-- A group is closed by its own bracket, of which the first text has one. -/
theorem group?_trailing {r' : Text} (hcursor : Trailing cursor.rest r') (inner : Flags)
    (counted : Bool) (name : Option Text) (h : Trailing t t') :
    Lifts SamePart (group? n branches items cursor inner counted name t)
      (group? m branches items { cursor with rest := r' } inner counted name t') := by
  refine (enter?_trailing ⟨_, hcursor, rfl⟩ inner counted name h).bind
    fun inside inside' hinside => ?_
  refine (hlater hinside).bind fun (part, after) (_, after') ⟨hpart, hafter⟩ => ?_
  obtain ⟨_, -, rfl⟩ := hinside
  obtain ⟨r', hr, hafter⟩ := hafter
  cases hpart
  cases hafter
  dsimp only
  split
  · next hclose =>
    obtain ⟨s', rfl, hs⟩ := hr.cons_left hclose
    exact hlater ⟨_, hs, rfl⟩
  · exact .none

theorem alternation?_succ_trailing (hle : n ≤ m) (h : Trailing cursor.rest t') :
    Lifts SamePart (alternation? (n + 1) branches items cursor)
      (alternation? (m + 1) branches items { cursor with rest := t' }) := by
  have hrest := h.skipSpaces cursor.flags
  have hrepeated (min max) {s s'} (hs : Trailing s s') :
      Lifts SamePart (repeated? (alternation? n branches) items cursor min max s)
        (repeated? (alternation? m branches) items { cursor with rest := t' } min max s') := by
    refine repeated?_trailing (fun _ _ _ hc => ?_) items cursor min max hs
    exact hlater hc
  simp only [alternation?]
  generalize cursor.flags.skipSpaces cursor.rest = u, cursor.flags.skipSpaces t' = u' at hrest
  cases hrest with
  -- the end: the bracket is left, unless it was swallowed
  | bracket => exact .some ⟨rfl, _, .bracket, rfl⟩
  | swallowed => exact .some ⟨rfl, _, .swallowed, rfl⟩
  | cons c hs =>
    obtain rfl | hclose := eq_or_ne c ')'
    · exact .some ⟨rfl, _, hs.cons _, rfl⟩
    obtain rfl | hbar := eq_or_ne c '|'
    · exact hlater ⟨_, hs, rfl⟩
    obtain rfl | hopen := eq_or_ne c '('
    · refine (opening?_trailing hs).bind_alike fun opening s s' h' => ?_
      cases opening with
      | setting flags => exact hlater ⟨_, h', rfl⟩
      | group inner counted name => exact group?_trailing hlater h inner counted name h'
    obtain rfl | hset := eq_or_ne c '['
    · refine ((sets_trailing n).1 hle hs).bind_alike fun inner t t' h => ?_
      exact hlater ⟨_, h, rfl⟩
    obtain rfl | hoptional := eq_or_ne c '?'
    · exact hrepeated 0 (some 1) hs
    obtain rfl | hstar := eq_or_ne c '*'
    · exact hrepeated 0 none hs
    obtain rfl | hplus := eq_or_ne c '+'
    · exact hrepeated 1 none hs
    obtain rfl | hbrace := eq_or_ne c '\x7b'
    · simp only []
      split
      · exact .none
      · refine (bounds?_trailing hs).bind_alike fun (min, max) t t' h => ?_
        exact hrepeated min max (h.skipSpaces cursor.flags)
    obtain rfl | hdot := eq_or_ne c '.'
    · exact .bind_same fun e => hlater ⟨_, hs, rfl⟩
    obtain rfl | hcaret := eq_or_ne c '^'
    · exact hlater ⟨_, hs, rfl⟩
    obtain rfl | hdollar := eq_or_ne c '$'
    · exact hlater ⟨_, hs, rfl⟩
    obtain rfl | hescape := eq_or_ne c '\\'
    · refine (escape?_trailing hs).bind_alike fun atom t t' h => ?_
      exact .bind_same fun e => hlater ⟨_, h, rfl⟩
    -- any other stands for itself
    simp only []
    exact .bind_same fun e => hlater ⟨_, hs, rfl⟩

end

/-- What is read of a pattern is read with a bracket behind it and with more fuel too. -/
theorem alternation?_trailing {n m : Nat} {branches items : List Part} {cursor cursor' : Cursor}
    (hle : n ≤ m) (h : Ahead cursor cursor') :
    Lifts SamePart (alternation? n branches items cursor)
      (alternation? m branches items cursor') := by
  induction n generalizing m branches items cursor cursor' with
  | zero => exact .none
  | succ n ih =>
    obtain ⟨m, rfl⟩ := Nat.exists_eq_add_of_le' (Nat.le_trans (Nat.succ_pos n) hle)
    have hle' : n ≤ m := Nat.le_of_succ_le_succ hle
    obtain ⟨t', ht, rfl⟩ := h
    exact alternation?_succ_trailing (ih hle') hle' ht

end Descent.Regex
