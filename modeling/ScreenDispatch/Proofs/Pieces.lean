import ScreenDispatch.Proofs.StringLiterals
import ScreenDispatch.Screen

/-!
Pieces of a collection. No stop stands in a piece outside its brackets, so what is read for a piece depends
on the piece alone: not on what comes before it, and not on what follows.
-/
set_option autoImplicit false

namespace ScreenDispatch.Expr

open Token Script

def Free (stops : List String) (ts : List Token) : Prop :=
  ∀ i, (inside : i < ts.length) → Nested (ts.take i) → ts[i].kind = .punct → ts[i].value ∉ stops

instance (stops : List String) (ts : List Token) : Decidable (Free stops ts) :=
  inferInstanceAs (Decidable (∀ i, (inside : i < ts.length) →
    Nested (ts.take i) → ts[i].kind = .punct → ts[i].value ∉ stops))

structure Piece (stops : List String) (ts : List Token) : Prop where
  nonempty : ts ≠ []
  nested : Nested ts
  free : Free stops ts

def standing (piece : List Token) : Tree :=
  match reads .expression piece with
  | some (e, []) => e
  | _ => .unparsed piece

def label? : List Token → Option String
  | [t] => if t.kind = .string then leadingSegment (contents t.value) else none
  | _ => none

theorem standing_read {piece : List Token} {e : Tree} (read : reads .expression piece = some (e, [])) :
    standing piece = e := by
  rw [standing, read]

theorem standing_unparsed {piece : List Token} (rejected : ∀ e, reads .expression piece ≠ some (e, [])) :
    standing piece = .unparsed piece := by
  unfold standing
  split
  · rename_i e read
    exact absurd read (rejected e)
  · rfl

theorem standing_source (piece : List Token) (closing : Closing [] piece) : (standing piece).source = piece := by
  unfold standing
  split
  · rename_i e read
    have source := (reads_settle .expression piece [] closing.matched e [] read).1
    rwa [taken_nil] at source
  · rfl

theorem segment_standing (text : List Token → String) (piece : List Token) :
    ((standing piece).map text).segment? = label? piece := by
  have plain (e : Tree) (other : NoString e) : (e.map text).segment? = none := by
    cases e with
    | string source value => exact absurd rfl (other source value)
    | _ => rfl
  have alone (t : Token) (single : piece = [t]) (literal : t.kind = .string) :
      standing piece = .string [t] (contents t.value) := by
    rw [single]
    exact standing_read (string_token_read t literal)
  by_cases literal : ∃ t, piece = [t] ∧ t.kind = .string
  · obtain ⟨t, single, string⟩ := literal
    rw [alone t single string, single, label?, if_pos string]
    rfl
  · have unlabelled : label? piece = none := by
      unfold label?
      split
      · rename_i t
        exact if_neg fun string => literal ⟨t, rfl, string⟩
      · rfl
    rw [unlabelled]
    apply plain
    unfold standing
    split
    · rename_i e read
      have one : OneString (taken piece []) e := expression_string piece e [] read
      rw [taken_nil] at one
      obtain other | ⟨t, single, string, _⟩ := one
      · exact other
      · exact absurd ⟨t, single, string⟩ literal
    · exact nofun

-- Like `Free`, for any place in front of which the brackets are closed.
def Unstopped (stops : List String) (ts : List Token) : Prop :=
  ∀ before t after, ts = before ++ t :: after → Nested before → t.kind = .punct → t.value ∉ stops

theorem Free.unstopped {stops : List String} {ts : List Token} (free : Free stops ts) : Unstopped stops ts := by
  rintro before t after rfl nested punct
  have here := free before.length (by simp) (by simpa using nested)
  simp only [List.getElem_append_right (Nat.le_refl _), Nat.sub_self, List.getElem_cons_zero] at here
  exact here punct

theorem nested_not_closing (before : List Token) (t : Token) (after : List Token)
    (whole : Nested (before ++ t :: after)) (nested : Nested before) : ¬ closes t := by
  intro closing
  rw [nested_append before _ nested] at whole
  obtain ⟨left, step, _⟩ := Option.bind_eq_some_iff.mp whole
  rw [advance_closing [] left t closing] at step
  cases step

theorem Piece.unstopped {stops marks : List String} {ts : List Token} (piece : Piece marks ts)
    (known : ∀ symbol ∈ stops, symbol ∈ marks ∨ symbol = "]") : Unstopped stops ts := by
  intro before t after whole nested punct stop
  obtain mark | bracket := known t.value stop
  · exact piece.free.unstopped before t after whole nested punct mark
  · refine nested_not_closing before t after (whole ▸ piece.nested) nested ?_
    rw [closes_iff, bracket]
    exact ⟨punct, by decide⟩

theorem skip_to_advance (stops : List String) (inner left : List String) (t : Token) (rest : List Token)
    (step : advance inner t = some left) (onward : inner = [] → t.kind = .punct → t.value ∉ stops) :
    skipTo stops inner.length (t :: rest) = skipTo stops left.length rest := by
  rw [skipTo.eq_def]
  dsimp only
  by_cases punct : t.kind = .punct
  · rw [if_pos punct, if_neg fun stop => ?_]
    · by_cases opening : opens t
      · obtain ⟨closer, opened⟩ := Option.isSome_iff_exists.mp ((opens_iff t).mp opening)
        rw [advance_opened inner t closer opened] at step
        cases step
        exact if_pos opening
      · rw [if_neg opening]
        by_cases closing : closes t
        · rw [advance_closing inner left t closing] at step
          rw [if_pos closing, step]
          rfl
        · rw [opens_iff, Option.not_isSome_iff_eq_none] at opening
          rw [advance_plain inner t opening closing] at step
          cases step
          exact if_neg closing
    · exact onward (List.length_eq_zero_iff.mp stop.1) punct (List.contains_iff_mem.mp stop.2)
  · rw [advance_of_kind inner t punct] at step
    cases step
    exact if_neg punct

theorem skip_to_piece (stops inner : List String) (piece : List Token) (q : Token) (rest : List Token)
    (closed : awaited inner piece = some [])
    (unstopped : ∀ before t after, piece = before ++ t :: after → awaited inner before = some [] →
      t.kind = .punct → t.value ∉ stops)
    (punct : q.kind = .punct) (stop : q.value ∈ stops) :
    skipTo stops inner.length (piece ++ q :: rest) = .ok (q :: rest) := by
  induction piece generalizing inner with
  | nil =>
      rw [awaited_nil] at closed
      cases closed
      rw [List.nil_append, skipTo.eq_def]
      dsimp only
      rw [if_pos punct, if_pos ⟨rfl, List.contains_iff_mem.mpr stop⟩]
  | cons t after ih =>
      rw [awaited_cons] at closed
      obtain ⟨left, step, others⟩ := Option.bind_eq_some_iff.mp closed
      rw [List.cons_append, skip_to_advance stops inner left t _ step fun empty => ?_]
      · refine ih left others fun before u behind whole nested => ?_
        refine unstopped (t :: before) u behind (by rw [whole]; rfl) ?_
        rw [awaited_cons, step]
        exact nested
      · exact unstopped [] t after rfl (by rw [empty]; rfl)

theorem expression_back (piece more : List Token) (closing : Closing [] piece) (barrier : Barrier more)
    (e : Tree) (rest : List Token) (read : reads .expression (piece ++ more) = some (e, rest)) :
    ∃ xs left, piece = xs ++ left ∧ Nested xs ∧ rest = left ++ more := by
  have same := reads_local .expression piece [] more (fun free => by cases free) closing
  obtain ⟨left, whole, short⟩ := same.back e rest read (.inr (.inl barrier))
  obtain ⟨xs, split, nested⟩ := reads_nested .expression piece [] closing.matched e left short
  exact ⟨xs, left, split, nested, whole⟩

def Confined (stops : List String) (piece more : List Token) : Prop :=
  ∀ e rest, reads .expression (piece ++ more) = some (e, rest) → stops.any (startsWith · rest) → rest = more

theorem stop_punctuation (stops : List String) (marks : ∀ symbol ∈ stops, symbol ∈ [":", ",", "]"]) (t : Token)
    (rest : List Token) (faithful : Faithful t) (stop : stops.any (startsWith · (t :: rest))) :
    t.kind = .punct ∧ t.value ∈ stops := by
  obtain ⟨symbol, among, found⟩ := List.any_eq_true.mp stop
  have mark := marks symbol among
  have punct := faithful_symbol t symbol faithful found (by grind)
  obtain ⟨kind, value⟩ := (punctuation_iff symbol t).mp punct
  exact ⟨kind, value ▸ among⟩

theorem confined_barrier (stops : List String) (marks : ∀ symbol ∈ stops, symbol ∈ [":", ",", "]"])
    (piece more : List Token) (closing : Closing [] piece) (unstopped : Unstopped stops piece)
    (barrier : Barrier more) : Confined stops piece more := by
  intro e rest read stop
  obtain ⟨xs, left, split, nested, rfl⟩ := expression_back piece more closing barrier e rest read
  cases left with
  | nil => rfl
  | cons t others =>
      have faithful := closing.faithful t (by simp [split])
      obtain ⟨punct, among⟩ := stop_punctuation stops marks t (others ++ more) faithful stop
      exact absurd among (unstopped xs t others split nested punct)

theorem confined_comma (value key far : List Token) (comma : Token) (separator : comma.isPunctuation ",")
    (closing : Closing [] (value ++ comma :: key)) (nested : Nested value)
    (valueFree : Unstopped [",", "]"] value) (keyFree : Unstopped [",", "]"] key) (colon : Token)
    (entry : colon.isPunctuation ":") :
    Confined [",", "]"] value (comma :: key ++ colon :: far) := by
  intro e rest read stop
  rw [← List.append_assoc] at read
  obtain ⟨xs, left, split, closed, rfl⟩ :=
    expression_back (value ++ comma :: key) (colon :: far) closing ⟨colon, far, rfl, .inr (.inl entry)⟩ e rest read
  cases left with
  | nil =>
      obtain ⟨_, same⟩ := (punctuation_iff _ _).mp entry
      simp [startsWith, isSymbol, same] at stop
  | cons t others =>
      have faithful := closing.faithful t (by rw [split]; simp)
      obtain ⟨punct, among⟩ := stop_punctuation _ (by decide) t (others ++ colon :: far) faithful stop
      -- The stop is the comma itself: in the key and in the value there is none outside brackets.
      obtain ⟨inside, rfl, behind⟩ | ⟨inside, rfl, behind⟩ := List.append_eq_append_iff.mp split
      · cases inside with
        | nil => rw [List.nil_append] at behind; rw [behind]
        | cons u others =>
            obtain ⟨rfl, rfl⟩ := List.cons_eq_cons.mp behind
            rw [nested_append value _ nested] at closed
            have plain := advance_of_value [] comma (by rw [((punctuation_iff _ _).mp separator).2]; decide)
            unfold Nested at closed
            rw [awaited_cons, plain] at closed
            exact absurd among (keyFree others t _ rfl closed punct)
      · cases inside with
        | nil => rw [List.nil_append] at behind; rw [behind]
        | cons u behindComma =>
            obtain ⟨rfl, rfl⟩ := List.cons_eq_cons.mp behind
            exact absurd among (valueFree xs t _ rfl closed punct)

theorem element_piece (stops : List String) (marks : ∀ symbol ∈ stops, symbol ∈ [":", ",", "]"])
    (piece : List Token) (nonempty : piece ≠ []) (closing : Closing [] piece) (unstopped : Unstopped stops piece)
    (q : Token) (more : List Token) (punct : q.kind = .punct) (stop : q.value ∈ stops)
    (confined : Confined stops piece (q :: more)) :
    outcome (element stops (piece ++ q :: more)) = some (standing piece, q :: more) := by
  have mark := marks q.value stop
  have quietly : QuietHead (q :: more) := ⟨q, more, rfl, (quiet_iff q).mpr ⟨punct, by grind⟩⟩
  have stopped : stops.any (startsWith · (q :: more)) :=
    List.any_eq_true.mpr ⟨q.value, stop, by simp [startsWith, isSymbol, punct]⟩
  have same := reads_local .expression piece [] (q :: more) (fun free => by cases free) closing
  have skipped : outcome (unreadable stops (piece ++ q :: more)) = some (.unparsed piece, q :: more) := by
    have positive := List.length_pos_iff.mpr nonempty
    have skip := skip_to_piece stops [] piece q more closing.closed unstopped punct stop
    rw [List.length_nil] at skip
    rw [outcome_unreadable, skip]
    dsimp only
    rw [taken_from, if_pos (by rw [List.length_append]; omega)]
  rw [outcome_element]
  -- The attempt ends at the stop behind the piece exactly if the piece is an expression by itself.
  by_cases whole : ∃ e, reads .expression piece = some (e, [])
  · obtain ⟨e, read⟩ := whole
    have long : reads .expression (piece ++ q :: more) = some (e, q :: more) :=
      same.forth (.inr quietly) e [] read
    rw [long, standing_read read]
    exact if_pos stopped
  · rw [standing_unparsed fun e read => whole ⟨e, read⟩]
    cases found : reads .expression (piece ++ q :: more) with
    | none => exact skipped
    | some result =>
        obtain ⟨e, rest⟩ := result
        dsimp only
        rw [if_neg fun ending => ?_, skipped]
        cases confined e rest found ending
        obtain ⟨left, cut, short⟩ := same.back e _ found (.inr (.inr (Nat.le_refl _)))
        cases List.self_eq_append_left.mp cut
        exact whole ⟨e, short⟩

end ScreenDispatch.Expr
