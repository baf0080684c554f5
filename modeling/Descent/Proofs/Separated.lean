import Mathlib.Data.List.TakeWhile
import Descent.Proofs.Occurrence
import Descent.Proofs.Repetition

/-! Separated lists of pieces of a text.

A text is cut into `Text.pieces` at the leftmost occurrence of a separator, and what comes
after it again. An item that reads characters up to the next separator, and at least one, is a
piece that is not empty. So a separated list of such items finds the pieces up to the first
empty one, and leaves what comes after them, a separator included, unless one may be at the
end (`separated_pieces`). The lists are repetitions with a trace, and so are the items. -/
namespace Descent

namespace Text
variable {sep text : Text}

theorem length_lt_of_dropInfix? (hsep : sep ≠ []) {before after : Text}
    (h : text.dropInfix? sep = some (before, after)) : after.length < text.length := by
  have hlength := List.length_pos_iff.2 hsep
  rw [(dropInfix?_eq_some_iff.1 h).1, List.length_append, List.length_append]
  omega

/-- The pieces of a text, which is cut at the leftmost separator and then goes on after it.
Nothing is no separator. -/
def pieces (sep text : Text) : List Text :=
  if hsep : sep = [] then [text]
  else
    match h : text.dropInfix? sep with
    | none => [text]
    | some (before, after) =>
      have := length_lt_of_dropInfix? hsep h
      before :: pieces sep after
termination_by text.length

/-- What a list of texts is with a separator before each. -/
def preceded (sep : Text) (texts : List Text) : Text := texts.flatMap (sep ++ ·)

@[simp] theorem preceded_nil : preceded sep [] = [] := rfl

@[simp] theorem preceded_cons (w : Text) (ws : List Text) :
    preceded sep (w :: ws) = sep ++ (w ++ preceded sep ws) := by
  rw [preceded, List.flatMap_cons, List.append_assoc]
  rfl

theorem intercalate_cons (w : Text) (ws : List Text) :
    sep.intercalate (w :: ws) = w ++ preceded sep ws := by
  induction ws generalizing w with
  | nil => rw [List.intercalate_singleton, preceded_nil, List.append_nil]
  | cons v ws ih => rw [List.intercalate_cons_cons, ih, preceded_cons, List.append_assoc]

/-- What comes next is a separator, or nothing. -/
theorem preceded_begins (ws : List Text) : preceded sep ws = [] ∨ sep <+: preceded sep ws := by
  cases ws with
  | nil => exact .inl rfl
  | cons w ws => exact .inr ⟨_, (preceded_cons w ws).symm⟩

theorem length_le_preceded (hsep : sep ≠ []) (ws : List Text) :
    ws.length ≤ (preceded sep ws).length := by
  have hlength := List.length_pos_iff.2 hsep
  induction ws with
  | nil => exact Nat.zero_le _
  | cons w ws ih =>
    rw [preceded_cons, List.length_cons, List.length_append, List.length_append]
    omega

/-- The pieces before the first empty one. -/
def leading (ws : List Text) : List Text := ws.takeWhile (!·.isEmpty)

/-- The first empty piece and those after it. -/
def trailing (ws : List Text) : List Text := ws.dropWhile (!·.isEmpty)

theorem leading_cons {w : Text} (hw : w ≠ []) (ws : List Text) :
    leading (w :: ws) = w :: leading ws :=
  List.takeWhile_cons_of_pos (by simpa using hw)

theorem trailing_cons {w : Text} (hw : w ≠ []) (ws : List Text) :
    trailing (w :: ws) = trailing ws :=
  List.dropWhile_cons_of_pos (by simpa using hw)

theorem preceded_leading (ws : List Text) :
    preceded sep ws = preceded sep (leading ws) ++ preceded sep (trailing ws) := by
  rw [preceded, preceded, preceded, ← List.flatMap_append, leading, trailing,
    List.takeWhile_append_dropWhile]

/-- A text whose first piece is not empty is the leading pieces and what comes after them. -/
theorem append_preceded {w : Text} (hw : w ≠ []) (ws : List Text) :
    w ++ preceded sep ws = sep.intercalate (leading (w :: ws)) ++ preceded sep (trailing ws) := by
  rw [leading_cons hw, intercalate_cons, List.append_assoc, ← preceded_leading]

/-- The pieces that are left begin with an empty one. -/
theorem leading_trailing (ws : List Text) : leading (trailing ws) = [] := by
  induction ws with
  | nil => rfl
  | cons w ws ih =>
    by_cases hw : w = []
    · rw [hw]
      rfl
    · rw [trailing_cons hw, ih]

/-- Without empty pieces all are before the first empty one. -/
theorem trailing_eq_nil {ws : List Text} (h : [] ∉ ws) : trailing ws = [] := by
  refine List.dropWhile_eq_nil_iff.2 fun w hw => ?_
  have hne : w ≠ [] := fun hempty => h (hempty ▸ hw)
  simpa using hne

/-- A separator begins in none of these texts, nor across their ends, when they come one after
another with separators between them. -/
def Apart (sep : Text) : List Text → Prop
  | [] => True
  | w :: ws => Avoids sep w (preceded sep ws) ∧ Apart sep ws

/-- The pieces are the text cut at separators, and a separator begins in none of them. -/
theorem exists_pieces (hsep : sep ≠ []) (text : Text) :
    ∃ w ws, pieces sep text = w :: ws ∧ text = w ++ preceded sep ws ∧ Apart sep (w :: ws) := by
  induction text using pieces.induct sep with
  | case1 text h => exact absurd h hsep
  | case2 text _ hnone =>
    have hpieces : pieces sep text = [text] := by
      rw [pieces, dif_neg hsep]
      split
      · rfl
      · next h => rw [hnone] at h; cases h
    exact ⟨text, [], hpieces, (List.append_nil _).symm,
      avoids_of_not_infix (dropInfix?_eq_none_iff.1 hnone), trivial⟩
  | case3 text _ before after hsome _ ih =>
    have hpieces : pieces sep text = before :: pieces sep after := by
      rw [pieces, dif_neg hsep]
      split
      · next h => rw [hsome] at h; cases h
      · next h => rw [hsome] at h; cases h; rfl
    obtain ⟨hsplit, hleast⟩ := dropInfix?_eq_some_iff.1 hsome
    obtain ⟨w, ws, hmore, hafter, happart⟩ := ih
    refine ⟨before, w :: ws, hpieces.trans (by rw [hmore]), ?_, ?_, happart⟩
    · rw [hsplit, hafter, preceded_cons, List.append_assoc]
    · rw [preceded_cons, ← hafter]
      exact avoids_of_leftmost (hsplit ▸ hleast)

end Text

namespace Parser
variable {ω σ : Type} {sep chars rest : Text} {t : Stream}

/-- Characters before which the separator does not stand, at least one of them, as a text. -/
def piece (rounds : Nat) (sep : Text) : Parser ω σ Text :=
  recognize (many1 rounds (then_ (notFollowedBy (literal sep)) anyChar))

section
variable (s : σ) (w : ω)

theorem unless_found {c : Char} (hrest : t.rest = c :: rest) (hnot : ¬sep <+: t.rest) :
    then_ (notFollowedBy (literal sep)) anyChar s t w = accept s (t.past [c] rest) c w := by
  have hmissing := literal_missing hnot s w
  have hchar := anyChar_found hrest s w
  simp only [reject] at hmissing
  simp only [then_, notFollowedBy, hmissing, Result.next_done, andThen, accept, hchar]

/-- At a separator and at the end of the text there is no more of a piece. -/
theorem unless_missing (h : t.rest = [] ∨ sep <+: t.rest) :
    ∃ messages, then_ (notFollowedBy (literal sep)) anyChar s t w = reject s t messages w := by
  by_cases hsep : sep <+: t.rest
  · obtain ⟨rest, hrest⟩ := hsep
    have hfound := literal_found hrest.symm s w
    simp only [accept] at hfound
    simp only [then_, notFollowedBy, hfound, Result.next_done, andThen, reject]
    exact ⟨_, rfl⟩
  · have hmissing := literal_missing hsep s w
    have hchar := anyChar_missing (h.resolve_right hsep) s w
    simp only [reject] at hmissing hchar
    simp only [then_, notFollowedBy, hmissing, Result.next_done, andThen, accept, hchar, reject]
    exact ⟨_, rfl⟩

/-- No rounds. -/
theorem rounds_nil {α : Type} (p : Parser ω σ α) (h : t.rest = rest) :
    Rounds p ⟨s, t, w⟩ [] ⟨s, t.past [] rest, w⟩ := by
  rw [Stream.past_nil h]
  exact .nil _

/-- Characters that avoid the separator are rounds. -/
theorem rounds_unless (hrest : t.rest = chars ++ rest) (h : Text.Avoids sep chars rest) :
    Rounds (then_ (notFollowedBy (literal sep)) anyChar) ⟨s, t, w⟩ chars
      ⟨s, t.past chars rest, w⟩ := by
  induction chars generalizing t with
  | nil => exact rounds_nil s w _ hrest
  | cons c chars ih =>
    obtain ⟨hnot, hmore⟩ := h
    let b : Point ω σ := ⟨s, t.past [c] (chars ++ rest), w⟩
    have hround : Point.apply ⟨s, t, w⟩ (then_ (notFollowedBy (literal sep)) anyChar) = b.found c :=
      unless_found s w hrest (by rwa [hrest])
    have hlater := ih (t := b.stream) rfl hmore
    rw [Stream.past_past] at hlater
    exact .cons hround (past_moves (List.cons_ne_nil _ _) t _) hlater

/-- A piece goes up to a separator or to the end of the text. -/
theorem piece_found {rounds : Nat} (hrest : t.rest = chars ++ rest) (hchars : chars ≠ [])
    (h : Text.Avoids sep chars rest) (hend : rest = [] ∨ sep <+: rest)
    (hrounds : chars.length ≤ rounds) :
    piece rounds sep s t w = accept s (t.past chars rest) chars w := by
  obtain ⟨c, chars, rfl⟩ := List.exists_cons_of_ne_nil hchars
  obtain ⟨hnot, hmore⟩ := h
  have hfirst : then_ (notFollowedBy (literal sep)) anyChar s t w =
      accept s (t.past [c] (chars ++ rest)) c w := unless_found s w hrest (by rwa [hrest])
  let stop : Point ω σ := ⟨s, t.past (c :: chars) rest, w⟩
  have hstops : Stops (then_ (notFollowedBy (literal sep)) anyChar) stop stop := by
    obtain ⟨messages, hmissing⟩ := unless_missing (t := stop.stream) s w hend
    exact .undone hmissing
  have hlater := rounds_unless (t := t.past [c] (chars ++ rest)) s w rfl hmore
  rw [Stream.past_past] at hlater
  have hmany := manyFrom_of_rounds hlater hstops [c] hrounds
  simp only [accept] at hfirst
  simp only [Point.apply, Point.found, accept, stop] at hmany
  simp only [piece, recognize, many1, andThen, hfirst, Result.next_done, hmany, accept,
    Stream.consumedUntil_past hrest]

/-- An empty piece is none. -/
theorem piece_missing (rounds : Nat) (h : t.rest = [] ∨ sep <+: t.rest) :
    ∃ messages, piece rounds sep s t w = reject s t messages w := by
  obtain ⟨messages, hmissing⟩ := unless_missing s w h
  simp only [reject] at hmissing
  simp only [piece, recognize, many1, andThen, hmissing, Result.next_done, reject]
  exact ⟨messages, rfl⟩

/-! ### Lists of pieces -/

variable {m n : Nat} {v : Text} {ws : List Text}

/-- A separator and a piece. -/
theorem separated_found (hrest : t.rest = Text.preceded sep (v :: ws)) (hv : v ≠ [])
    (h : Text.Avoids sep v (Text.preceded sep ws)) (hm : v.length ≤ m) :
    then_ (literal sep) (piece m sep) s t w =
      accept s (t.past (sep ++ v) (Text.preceded sep ws)) v w := by
  rw [Text.preceded_cons] at hrest
  have hliteral := literal_found hrest s w
  have hpiece := piece_found (t := t.past sep (v ++ Text.preceded sep ws)) s w rfl hv h
    (Text.preceded_begins ws) hm
  simp only [accept] at hliteral hpiece
  simp only [then_, andThen, hliteral, Result.next_done, hpiece, accept, Stream.past_past]

/-- A separator and an empty piece, or nothing. -/
theorem separated_missing (hsep : sep ≠ []) (m : Nat) (hrest : t.rest = Text.preceded sep ws)
    (hws : Text.leading ws = []) :
    ∃ u messages, then_ (literal sep) (piece m sep) s t w = reject s u messages w := by
  cases ws with
  | nil =>
    have hnot : ¬sep <+: t.rest := by rwa [hrest, Text.preceded_nil, List.prefix_nil]
    have hliteral := literal_missing hnot s w
    simp only [reject] at hliteral
    simp only [then_, andThen, hliteral, Result.next_done, reject]
    exact ⟨_, _, rfl⟩
  | cons v ws =>
    have hv : v = [] := by
      by_contra hv
      rw [Text.leading_cons hv] at hws
      cases hws
    rw [hv, Text.preceded_cons, List.nil_append] at hrest
    have hliteral := literal_found hrest s w
    obtain ⟨messages, hpiece⟩ := piece_missing (t := t.past sep (Text.preceded sep ws)) s w m
      (Text.preceded_begins ws)
    simp only [accept, reject] at hliteral hpiece
    simp only [then_, andThen, hliteral, Result.next_done, hpiece, reject]
    exact ⟨_, _, rfl⟩

/-- After a piece, separators and pieces are rounds up to the first empty one. -/
theorem rounds_separated (hsep : sep ≠ []) (hrest : t.rest = Text.preceded sep ws)
    (h : Text.Apart sep ws) (hm : t.rest.length ≤ m) :
    Rounds (then_ (literal sep) (piece m sep)) ⟨s, t, w⟩ (Text.leading ws)
      ⟨s, t.past (Text.preceded sep (Text.leading ws))
        (Text.preceded sep (Text.trailing ws)), w⟩ := by
  induction ws generalizing t with
  | nil => exact rounds_nil s w _ hrest
  | cons v ws ih =>
    obtain ⟨havoids, hmore⟩ := h
    by_cases hv : v = []
    · subst hv
      exact rounds_nil s w _ hrest
    · rw [hrest, Text.preceded_cons, List.length_append, List.length_append] at hm
      let b : Point ω σ := ⟨s, t.past (sep ++ v) (Text.preceded sep ws), w⟩
      have hround : Point.apply ⟨s, t, w⟩ (then_ (literal sep) (piece m sep)) = b.found v :=
        separated_found s w hrest hv havoids (by omega)
      have hmoves : (b.stream == t) = false :=
        past_moves (List.append_ne_nil_of_left_ne_nil hsep v) t _
      have hlater := ih (t := b.stream) rfl hmore (by show (Text.preceded sep ws).length ≤ m; omega)
      rw [Stream.past_past, List.append_assoc, ← Text.preceded_cons] at hlater
      rw [Text.leading_cons hv, Text.trailing_cons hv]
      exact .cons hround hmoves hlater

/-- A list of pieces, of which the first is not empty. -/
theorem sepBy1_found (hsep : sep ≠ []) (hrest : t.rest = v ++ Text.preceded sep ws) (hv : v ≠ [])
    (h : Text.Apart sep (v :: ws)) (hm : t.rest.length ≤ m) (hn : t.rest.length ≤ n) :
    sepBy1 n (literal sep) (piece m sep) s t w =
      accept s (t.past (sep.intercalate (Text.leading (v :: ws)))
        (Text.preceded sep (Text.trailing ws))) (Text.leading (v :: ws)) w := by
  obtain ⟨havoids, hmore⟩ := h
  have hlength := List.length_pos_iff.2 hv
  rw [hrest, List.length_append] at hm hn
  have hlong : v.length ≤ m := by omega
  have hfirst := piece_found s w hrest hv havoids (Text.preceded_begins ws) hlong
  have hrounds := rounds_separated (t := t.past v (Text.preceded sep ws)) s w hsep rfl hmore
    (by show (Text.preceded sep ws).length ≤ m; omega)
  rw [Stream.past_past, ← Text.intercalate_cons, ← Text.leading_cons hv] at hrounds
  let stop : Point ω σ := ⟨s, t.past (sep.intercalate (Text.leading (v :: ws)))
    (Text.preceded sep (Text.trailing ws)), w⟩
  have hstops : Stops (then_ (literal sep) (piece m sep)) stop stop := by
    obtain ⟨u, messages, hmissing⟩ := separated_missing (t := stop.stream) s w hsep m rfl
      (Text.leading_trailing ws)
    exact .undone hmissing
  have hcount : (Text.leading ws).length < n := by
    have hle := Text.length_le_preceded hsep ws
    have hleading : (Text.leading ws).length ≤ ws.length := (List.takeWhile_prefix _).length_le
    omega
  have hmany := manyFrom_of_rounds hrounds hstops [v] hcount
  simp only [accept] at hfirst
  simp only [Point.apply, Point.found, accept, stop] at hmany
  simp only [sepBy1, andThen, hfirst, Result.next_done, hmany, accept, Text.leading_cons hv]
  rfl

theorem sepBy1_missing (h : t.rest = [] ∨ sep <+: t.rest) (m n : Nat) :
    ∃ messages, sepBy1 n (literal sep) (piece m sep) s t w = reject s t messages w := by
  obtain ⟨messages, hmissing⟩ := piece_missing s w m h
  simp only [reject] at hmissing
  simp only [sepBy1, andThen, hmissing, Result.next_done, reject]
  exact ⟨messages, rfl⟩

end

/-! ### What may be missing -/

section
variable {α β : Type} {p : Parser ω σ (List α)} {q : Parser ω σ β} {s s' s'' : σ}
variable {t u u' : Stream} {w w' w'' : ω} {vs : List α} {messages messages' : List String}

theorem orEmpty_of_accept (h : p s t w = accept s' u vs w') :
    orEmpty p s t w = accept s' u vs w' := by
  simp only [accept] at h
  simp only [orEmpty, orElse, h, Result.next_done, accept]

theorem orEmpty_of_reject (h : p s t w = reject s' u messages w') :
    orEmpty p s t w = accept s t [] w' := by
  simp only [reject] at h
  simp only [orEmpty, orElse, h, Result.next_done]

theorem skipRight_maybe_of_accept {x : β} (h : p s t w = accept s' u vs w')
    (hq : q s' u w' = accept s'' u' x w'') :
    skipRight p (maybe q) s t w = accept s'' u' vs w'' := by
  simp only [accept] at h hq
  simp only [skipRight, map, pair, andThen, maybe, h, hq, Result.next_done, accept, Reply.map,
    Except.map]

theorem skipRight_maybe_of_reject (h : p s t w = accept s' u vs w')
    (hq : q s' u w' = reject s'' u' messages w'') :
    skipRight p (maybe q) s t w = accept s' u vs w'' := by
  simp only [accept] at h
  simp only [reject] at hq
  simp only [skipRight, map, pair, andThen, maybe, h, hq, Result.next_done, accept, Reply.map,
    Except.map]

theorem skipRight_of_reject (h : p s t w = reject s' u messages w') :
    skipRight p q s t w = reject s' u messages w' := by
  simp only [reject] at h
  simp only [skipRight, map, pair, andThen, h, Result.next_done, reject, Reply.map, Except.map]

end

section
variable {s : σ} {w : ω} {m n : Nat} {read : Text} {values : List Text}

/-- Where no piece comes first, a list that may be empty is, and one that may not is none. -/
theorem lists_missing (h : t.rest = [] ∨ sep <+: t.rest) (m n : Nat) :
    sepBy n (literal sep) (piece m sep) s t w = accept s t [] w ∧
      sepEndBy n (literal sep) (piece m sep) s t w = accept s t [] w ∧
      ∃ messages,
        sepBy1 n (literal sep) (piece m sep) s t w = reject s t messages w ∧
        sepEndBy1 n (literal sep) (piece m sep) s t w = reject s t messages w := by
  obtain ⟨messages, hmissing⟩ := sepBy1_missing s w h m n
  have hended := skipRight_of_reject (q := maybe (literal sep)) hmissing
  exact ⟨orEmpty_of_reject hmissing, orEmpty_of_reject hended, messages, hmissing, hended⟩

/-- A list that was found is one that may be empty too, and takes a separator behind it if it
may. -/
theorem lists_found
    (hfound : sepBy1 n (literal sep) (piece m sep) s t w = accept s (t.past read rest) values w) :
    sepBy n (literal sep) (piece m sep) s t w = accept s (t.past read rest) values w ∧
      (∀ more, rest = sep ++ more →
        sepEndBy1 n (literal sep) (piece m sep) s t w =
          accept s (t.past (read ++ sep) more) values w ∧
        sepEndBy n (literal sep) (piece m sep) s t w =
          accept s (t.past (read ++ sep) more) values w) ∧
      (¬sep <+: rest →
        sepEndBy1 n (literal sep) (piece m sep) s t w = accept s (t.past read rest) values w ∧
        sepEndBy n (literal sep) (piece m sep) s t w = accept s (t.past read rest) values w) := by
  refine ⟨orEmpty_of_accept hfound, fun more hmore => ?_, fun hnot => ?_⟩
  · have hend := literal_found (t := t.past read rest) hmore s w
    have hended := skipRight_maybe_of_accept hfound hend
    rw [Stream.past_past] at hended
    exact ⟨hended, orEmpty_of_accept hended⟩
  · have hend := literal_missing (t := t.past read rest) hnot s w
    have hended := skipRight_maybe_of_reject hfound hend
    exact ⟨hended, orEmpty_of_accept hended⟩

end

/-- **Lists of pieces.** With rounds for all that remains each of the four lists replies, and
leaves state and world alone. The pieces of the text are those between separators, found from
the left; the values are the pieces before the first empty one. -/
theorem separated_pieces {sep : Text} (hsep : sep ≠ []) (s : σ) (t : Stream) (w : ω) {m n : Nat}
    (hm : t.rest.length ≤ m) (hn : t.rest.length ≤ n) :
    let values := (Text.pieces sep t.rest).takeWhile (!·.isEmpty)
    let read := sep.intercalate values
    ∃ rest, t.rest = read ++ rest ∧
      sepBy n (literal sep) (piece m sep) s t w = accept s (t.past read rest) values w ∧
      (values ≠ [] →
        sepBy1 n (literal sep) (piece m sep) s t w = accept s (t.past read rest) values w ∧
        (∀ more, rest = sep ++ more →
          sepEndBy1 n (literal sep) (piece m sep) s t w =
            accept s (t.past (read ++ sep) more) values w ∧
          sepEndBy n (literal sep) (piece m sep) s t w =
            accept s (t.past (read ++ sep) more) values w) ∧
        (¬sep <+: rest →
          sepEndBy1 n (literal sep) (piece m sep) s t w = accept s (t.past read rest) values w ∧
          sepEndBy n (literal sep) (piece m sep) s t w = accept s (t.past read rest) values w)) ∧
      (values = [] →
        sepEndBy n (literal sep) (piece m sep) s t w = accept s t [] w ∧
        ∃ messages,
          sepBy1 n (literal sep) (piece m sep) s t w = reject s t messages w ∧
          sepEndBy1 n (literal sep) (piece m sep) s t w = reject s t messages w) ∧
      ([] ∉ Text.pieces sep t.rest → read = t.rest ∧ rest = []) := by
  obtain ⟨v, ws, hpieces, hrest, happart⟩ := Text.exists_pieces hsep t.rest
  intro values read
  have hvalues : values = Text.leading (v :: ws) := congrArg Text.leading hpieces
  by_cases hv : v = []
  · have hnone : values = [] := by rw [hvalues, hv]; rfl
    have hread : read = [] := by show sep.intercalate values = []; rw [hnone]; rfl
    have hbegins : t.rest = [] ∨ sep <+: t.rest := by
      rw [hrest, hv]
      exact Text.preceded_begins ws
    obtain ⟨hlist, hended, hmissing⟩ := lists_missing (s := s) (w := w) hbegins m n
    refine ⟨t.rest, by rw [hread]; rfl, ?_, fun hsome => absurd hnone hsome,
      fun _ => ⟨hended, hmissing⟩, fun hfull => ?_⟩
    · rwa [hread, Stream.past_nil rfl, hnone]
    · exact absurd (by rw [hpieces, hv]; exact List.mem_cons_self) hfull
  · have hfound := sepBy1_found s w hsep hrest hv happart hm hn
    rw [← hvalues] at hfound
    obtain ⟨hlist, hended⟩ := lists_found hfound
    have hread : t.rest = read ++ Text.preceded sep (Text.trailing ws) := by
      rw [hrest, Text.append_preceded hv ws, ← hvalues]
    refine ⟨Text.preceded sep (Text.trailing ws), hread, hlist, fun _ => ⟨hfound, hended⟩,
      fun hnone => ?_, fun hfull => ?_⟩
    · rw [hvalues, Text.leading_cons hv] at hnone
      cases hnone
    · have hrest : Text.preceded sep (Text.trailing ws) = [] := by
        rw [hpieces] at hfull
        rw [Text.trailing_eq_nil fun hempty => hfull (List.mem_cons_of_mem v hempty)]
        rfl
      exact ⟨by rw [hread, hrest, List.append_nil], hrest⟩

/-- A separator that overlaps itself, with an empty piece between two of them. -/
theorem overlapping_separators :
    let t : Stream := .start ⟨"éaabaaaa".toList, 0⟩
    "aa".toList ≠ [] ∧ t.rest.length ≤ 8 ∧
      sepBy 8 (literal "aa".toList) (piece 8 "aa".toList) () t () =
        accept () ⟨t.source, 5, "aaaa".toList⟩ [['é'], ['b']] () ∧
      sepEndBy 8 (literal "aa".toList) (piece 8 "aa".toList) () t () =
        accept () ⟨t.source, 7, "aa".toList⟩ [['é'], ['b']] () := by
  intro t
  have hpieces : Text.pieces "aa".toList t.rest = [['é'], ['b'], [], []] := by decide +kernel
  have hsep : "aa".toList ≠ [] := by decide
  have hrounds : t.rest.length ≤ 8 := by decide
  obtain ⟨rest, hrest, hlist, hsome, -⟩ := separated_pieces hsep () t () hrounds hrounds
  rw [hpieces] at hrest hlist hsome
  have hsplit : "éaab".toList ++ "aaaa".toList = "éaab".toList ++ rest := hrest
  cases List.append_cancel_left hsplit
  refine ⟨hsep, hrounds, hlist, ?_⟩
  exact ((hsome (by decide)).2.1 "aa".toList rfl).2

end Parser

end Descent
