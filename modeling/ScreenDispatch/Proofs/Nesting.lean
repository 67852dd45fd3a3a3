import Mathlib.Data.List.Basic
import ScreenDispatch.Proofs.ReadsSuffix

/-!
Nesting of brackets. The brackets that are open are known by the closers they await, the nearest
first.
-/
set_option autoImplicit false

namespace ScreenDispatch.Expr

open Token

def closerOf (t : Token) : Option String :=
  if t.isPunctuation "(" then some ")"
  else if t.isPunctuation "[" then some "]"
  else if t.isPunctuation "\x7b" then some "\x7d"
  else none

def advance (closers : List String) (t : Token) : Option (List String) :=
  match closerOf t with
  | some closer => some (closer :: closers)
  | none =>
    if closes t then
      match closers with
      | [] => none
      | closer :: outer => if t.value = closer then some outer else none
    else some closers

def awaited (closers : List String) (ts : List Token) : Option (List String) := ts.foldlM advance closers

def Nested (ts : List Token) : Prop := awaited [] ts = some []

instance (ts : List Token) : Decidable (Nested ts) := inferInstanceAs (Decidable (_ = _))

def Faithful (t : Token) : Prop :=
  t.kind ≠ .punct → t.value ∉ ["(", ")", "[", "]", "\x7b", "\x7d", ":", ","]

theorem awaited_nil (closers : List String) : awaited closers [] = some closers := rfl

theorem awaited_cons (closers : List String) (t : Token) (rest : List Token) :
    awaited closers (t :: rest) = (advance closers t).bind (awaited · rest) := rfl

theorem awaited_append (closers : List String) (xs ys : List Token) :
    awaited closers (xs ++ ys) = (awaited closers xs).bind (awaited · ys) := by
  rw [awaited, List.foldlM_append]
  rfl

theorem advance_outer (closers outer left : List String) (t : Token)
    (step : advance closers t = some left) : advance (closers ++ outer) t = some (left ++ outer) := by
  unfold advance at step ⊢
  cases opened : closerOf t with
  | some closer =>
      rw [opened] at step
      cases step
      rfl
  | none =>
      rw [opened] at step
      dsimp only at step ⊢
      split at step
      · rename_i closing
        rw [if_pos closing]
        cases closers with
        | nil => cases step
        | cons closer others =>
            dsimp only [List.cons_append] at step ⊢
            split at step
            · rename_i same
              cases step
              rw [if_pos same]
            · cases step
      · rename_i plain
        cases step
        rw [if_neg plain]

theorem awaited_outer (closers outer left : List String) (ts : List Token)
    (run : awaited closers ts = some left) : awaited (closers ++ outer) ts = some (left ++ outer) := by
  induction ts generalizing closers with
  | nil =>
      cases run
      rfl
  | cons t rest ih =>
      rw [awaited_cons] at run ⊢
      obtain ⟨middle, step, more⟩ := Option.bind_eq_some_iff.mp run
      rw [advance_outer closers outer middle t step]
      exact ih middle more

theorem awaited_closed (closers outer : List String) (xs ys : List Token)
    (closed : awaited closers xs = some []) : awaited (closers ++ outer) (xs ++ ys) = awaited outer ys := by
  rw [awaited_append, awaited_outer closers outer [] xs closed]
  rfl

theorem nested_append (xs ys : List Token) (left : Nested xs) : Nested (xs ++ ys) ↔ Nested ys := by
  unfold Nested
  rw [← awaited_closed [] [] xs ys left]
  rfl

theorem advance_opened (closers : List String) (t : Token) (closer : String)
    (opened : closerOf t = some closer) : advance closers t = some (closer :: closers) := by
  unfold advance
  rw [opened]

theorem advance_plain (closers : List String) (t : Token) (noOpener : closerOf t = none)
    (noCloser : ¬ closes t) : advance closers t = some closers := by
  unfold advance
  rw [noOpener]
  exact if_neg noCloser

theorem advance_of_kind (closers : List String) (t : Token) (kind : t.kind ≠ .punct) :
    advance closers t = some closers := by
  have quiet (symbol : String) : t.isPunctuation symbol = false := by
    simp [isPunctuation, kind]
  exact advance_plain closers t (by simp [closerOf, quiet]) (by simp [closes, quiet])

theorem advance_of_value (closers : List String) (t : Token)
    (value : t.value ∉ ["(", ")", "[", "]", "\x7b", "\x7d"]) : advance closers t = some closers := by
  have quiet (symbol : String) (bracket : symbol ∈ ["(", ")", "[", "]", "\x7b", "\x7d"]) :
      t.isPunctuation symbol = false := by
    simp only [isPunctuation, Bool.and_eq_false_iff, beq_eq_false_iff_ne]
    exact .inr fun same => value (same ▸ bracket)
  exact advance_plain closers t (by simp [closerOf, quiet]) (by simp [closes, quiet])

theorem punctuation_iff (symbol : String) (t : Token) :
    t.isPunctuation symbol ↔ t.kind = .punct ∧ t.value = symbol := by
  simp [isPunctuation]

theorem closes_iff (t : Token) :
    closes t ↔ t.kind = .punct ∧ t.value ∈ [")", "]", "\x7d"] := by
  simp only [closes, Bool.or_eq_true, punctuation_iff, List.mem_cons, List.not_mem_nil, or_false]
  tauto

theorem closer_of_closes (t : Token) (closing : closes t) : closerOf t = none := by
  have value := ((closes_iff t).mp closing).2
  simp only [List.mem_cons, List.not_mem_nil, or_false] at value
  have quiet (symbol : String) (other : symbol ∉ [")", "]", "\x7d"]) : ¬ t.isPunctuation symbol := by
    intro opened
    apply other
    rw [← ((punctuation_iff symbol t).mp opened).2]
    exact ((closes_iff t).mp closing).2
  simp [closerOf, quiet]

theorem advance_closing (closers left : List String) (t : Token) (closing : closes t) :
    advance closers t = some left ↔ closers = t.value :: left := by
  unfold advance
  rw [closer_of_closes t closing]
  dsimp only
  rw [if_pos closing]
  cases closers with
  | nil => simp
  | cons closer outer => grind

theorem faithful_symbol (t : Token) (symbol : String) (faithful : Faithful t) (found : t.isSymbol symbol)
    (mark : symbol ∈ ["(", ")", "[", "]", "\x7b", "\x7d", ":", ","]) : t.isPunctuation symbol := by
  have value := symbol_value symbol t found
  refine (punctuation_iff symbol t).mpr ⟨?_, value⟩
  by_contra kind
  exact faithful kind (value ▸ mark)

theorem opens_iff (t : Token) : opens t ↔ (closerOf t).isSome := by
  unfold opens closerOf
  split
  · simp [*]
  split
  · simp [*]
  split <;> simp [*]

theorem closed_cons {inner left outer leftover : List String} {t : Token} {after rest : List Token}
    (here : advance inner t = some left) (matched : awaited (inner ++ outer) (t :: after) = some leftover)
    (others : awaited (left ++ outer) after = some leftover →
      ∃ xs, after = xs ++ rest ∧ awaited left xs = some []) :
    ∃ xs, t :: after = xs ++ rest ∧ awaited inner xs = some [] := by
  rw [awaited_cons, advance_outer inner outer left t here] at matched
  obtain ⟨xs, whole, closed⟩ := others matched
  refine ⟨t :: xs, by rw [whole]; rfl, ?_⟩
  rw [awaited_cons, here]
  exact closed

theorem skip_to_nested (stops inner outer leftover : List String) (ts rest : List Token)
    (skipped : skipTo stops inner.length ts = .ok rest)
    (matched : awaited (inner ++ outer) ts = some leftover) :
    ∃ xs, ts = xs ++ rest ∧ awaited inner xs = some [] := by
  induction ts generalizing inner with
  | nil => cases skipped
  | cons t after ih =>
      rw [skipTo.eq_def] at skipped
      dsimp only at skipped
      split at skipped
      · split at skipped
        · rename_i stop
          cases skipped
          have empty : inner = [] := List.length_eq_zero_iff.mp stop.1
          subst empty
          exact ⟨[], rfl, rfl⟩
        split at skipped
        · rename_i opening
          obtain ⟨closer, opened⟩ := Option.isSome_iff_exists.mp ((opens_iff t).mp opening)
          exact closed_cons (advance_opened inner t closer opened) matched (ih (closer :: inner) skipped)
        split at skipped
        · rename_i closing
          cases inner with
          | nil => cases skipped
          | cons closer inner =>
              have next := matched
              rw [awaited_cons] at next
              obtain ⟨left, step, _⟩ := Option.bind_eq_some_iff.mp next
              rw [advance_closing _ _ _ closing] at step
              cases step
              exact closed_cons ((advance_closing _ _ _ closing).mpr rfl) matched (ih inner skipped)
        · rename_i notOpening notClosing
          have plain : closerOf t = none := by
            rw [opens_iff, Option.not_isSome_iff_eq_none] at notOpening
            exact notOpening
          exact closed_cons (advance_plain inner t plain notClosing) matched (ih inner skipped)
      · rename_i other
        exact closed_cons (advance_of_kind inner t other) matched (ih inner skipped)

theorem skip_to_stop (stops : List String) (depth : Nat) (ts rest : List Token)
    (skipped : skipTo stops depth ts = .ok rest) :
    ∃ t more, rest = t :: more ∧ t.kind = .punct ∧ t.value ∈ stops := by
  induction ts generalizing depth with
  | nil => cases skipped
  | cons t after ih =>
      rw [skipTo.eq_def] at skipped
      dsimp only at skipped
      split at skipped
      · split at skipped
        · rename_i punct stop
          cases skipped
          exact ⟨t, after, rfl, punct, List.contains_iff_mem.mp stop.2⟩
        split at skipped
        · exact ih _ skipped
        split at skipped
        · cases depth with
          | zero => cases skipped
          | succ depth => exact ih _ skipped
        · exact ih _ skipped
      · exact ih _ skipped

theorem advance_inner (closer : String) (closers outer left : List String) (t : Token)
    (step : advance (closer :: closers ++ outer) t = some left) :
    ∃ inner, advance (closer :: closers) t = some inner := by
  cases opened : closerOf t with
  | some other => exact ⟨_, advance_opened _ t other opened⟩
  | none =>
      by_cases closing : closes t
      · rw [advance_closing _ _ _ closing] at step
        cases step
        exact ⟨closers, (advance_closing _ _ _ closing).mpr rfl⟩
      · exact ⟨_, advance_plain _ t opened closing⟩

theorem closer_of_brace (t : Token) (closer : String) (opened : closerOf t = some closer) :
    t.isPunctuation "\x7b" ↔ closer = "\x7d" := by
  unfold closerOf at opened
  split at opened
  · rename_i other
    cases opened
    simp [punctuation_iff, ((punctuation_iff _ _).mp other).2]
  split at opened
  · rename_i other
    cases opened
    simp [punctuation_iff, ((punctuation_iff _ _).mp other).2]
  split at opened
  · rename_i brace
    cases opened
    simp [brace]
  · cases opened

theorem closure_end_advance (inner left : List String) (t : Token)
    (step : advance (inner ++ ["\x7d"]) t = some left) :
    (left = [] ∧ ∀ rest, outcome (closureEnd (inner.count "\x7d") (t :: rest)) = some ((), rest)) ∨
    ∃ next, left = next ++ ["\x7d"] ∧ ∀ rest, outcome (closureEnd (inner.count "\x7d") (t :: rest)) =
      outcome (closureEnd (next.count "\x7d") rest) := by
  simp only [outcome_closure_end]
  cases opened : closerOf t with
  | some closer =>
      have noCloser : ¬ t.isPunctuation "\x7d" := fun closing => by
        rw [closer_of_closes t (by simp [closes, closing])] at opened
        cases opened
      rw [advance_opened _ t closer opened] at step
      cases step
      refine .inr ⟨closer :: inner, rfl, fun rest => ?_⟩
      rw [if_neg noCloser, List.count_cons]
      by_cases brace : closer = "\x7d"
      · rw [if_pos ((closer_of_brace t closer opened).mpr brace), if_pos (beq_iff_eq.mpr brace)]
      · rw [if_neg fun other => brace ((closer_of_brace t closer opened).mp other),
          if_neg fun other => brace (beq_iff_eq.mp other)]
        rfl
  | none =>
      have noOpener : ¬ t.isPunctuation "\x7b" := fun brace => by
        have opening := (opens_iff t).mp (by simp [opens, brace])
        rw [opened] at opening
        cases opening
      simp only [if_neg noOpener]
      by_cases closing : closes t
      · rw [advance_closing _ _ _ closing] at step
        have brace : t.isPunctuation "\x7d" ↔ t.value = "\x7d" := by
          rw [punctuation_iff]
          exact and_iff_right ((closes_iff t).mp closing).1
        cases inner with
        | nil =>
            obtain ⟨value, rfl⟩ := List.cons_eq_cons.mp step
            exact .inl ⟨rfl, fun rest => if_pos (brace.mpr value.symm)⟩
        | cons closer inner =>
            obtain ⟨value, rfl⟩ := List.cons_eq_cons.mp step
            refine .inr ⟨inner, rfl, fun rest => ?_⟩
            rw [List.count_cons, value]
            by_cases ending : t.value = "\x7d"
            · rw [if_pos (brace.mpr ending), if_pos (beq_iff_eq.mpr ending)]
            · rw [if_neg fun same => ending (brace.mp same), if_neg fun same => ending (beq_iff_eq.mp same)]
              rfl
      · rw [advance_plain _ t opened closing] at step
        cases step
        have noBrace : ¬ t.isPunctuation "\x7d" := fun brace => closing (by simp [closes, brace])
        exact .inr ⟨inner, rfl, fun rest => if_neg noBrace⟩

theorem advance_awaited {inner outer left : List String} {closer : String} {t : Token} {rest : List Token}
    (matched : awaited (inner ++ closer :: outer) (t :: rest) = some left) :
    ∃ next, advance (inner ++ [closer]) t = some next ∧ awaited (next ++ outer) rest = some left := by
  rw [awaited_cons] at matched
  obtain ⟨middle, step, more⟩ := Option.bind_eq_some_iff.mp matched
  have ⟨next, here⟩ : ∃ next, advance (inner ++ [closer]) t = some next := by
    cases inner with
    | nil => exact advance_inner _ [] _ _ t step
    | cons other inner => exact advance_inner _ (inner ++ [closer]) _ _ t (by simpa using step)
  have same := advance_outer _ outer next t here
  rw [List.append_assoc, List.singleton_append, step] at same
  cases same
  exact ⟨next, here, more⟩

theorem closure_end_nested (inner outer leftover : List String) (ts rest : List Token)
    (ended : outcome (closureEnd (inner.count "\x7d") ts) = some ((), rest))
    (matched : awaited (inner ++ "\x7d" :: outer) ts = some leftover) :
    ∃ xs, ts = xs ++ rest ∧ awaited (inner ++ ["\x7d"]) xs = some [] := by
  induction ts generalizing inner with
  | nil =>
      rw [closureEnd.eq_def] at ended
      cases ended
  | cons t after ih =>
      obtain ⟨left, here, more⟩ := advance_awaited matched
      obtain ⟨rfl, stop⟩ | ⟨next, rfl, same⟩ := closure_end_advance inner left t here
      · rw [stop] at ended
        cases ended
        refine ⟨[t], rfl, ?_⟩
        rw [awaited_cons, here]
        rfl
      · rw [same] at ended
        rw [List.append_assoc] at more
        obtain ⟨xs, whole, closed⟩ := ih next ended more
        refine ⟨t :: xs, by rw [whole]; rfl, ?_⟩
        rw [awaited_cons, here]
        exact closed

theorem skip_to_append (stops inner outer : List String) (closer : String) (ts more : List Token)
    (matched : awaited (inner ++ closer :: outer) ts = some []) :
    (skipTo stops inner.length (ts ++ more)).toOption =
      (skipTo stops inner.length ts).toOption.map (· ++ more) := by
  induction ts generalizing inner with
  | nil =>
      rw [awaited_nil] at matched
      simp at matched
  | cons t after ih =>
      obtain ⟨left, here, next⟩ := advance_awaited matched
      rw [List.cons_append, skipTo.eq_def, skipTo.eq_def stops inner.length (t :: after)]
      dsimp only
      split
      · split
        · rfl
        split
        · rename_i opening
          obtain ⟨other, opened⟩ := Option.isSome_iff_exists.mp ((opens_iff t).mp opening)
          rw [advance_opened _ t other opened] at here
          cases here
          exact ih (other :: inner) (by simpa using next)
        split
        · rename_i closing
          rw [advance_closing _ _ _ closing] at here
          cases inner with
          | nil => rfl
          | cons other inner =>
              obtain ⟨_, rfl⟩ := List.cons_eq_cons.mp here
              exact ih inner (by simpa using next)
        · rename_i notOpening notClosing
          rw [opens_iff, Bool.not_eq_true, Option.isSome_eq_false_iff, Option.isNone_iff_eq_none] at notOpening
          rw [advance_plain _ t notOpening notClosing] at here
          cases here
          exact ih inner (by simpa using next)
      · rename_i other
        rw [advance_of_kind _ t other] at here
        cases here
        exact ih inner (by simpa using next)

theorem closure_end_append (inner outer : List String) (ts more : List Token)
    (matched : awaited (inner ++ "\x7d" :: outer) ts = some []) :
    outcome (closureEnd (inner.count "\x7d") (ts ++ more)) =
      (outcome (closureEnd (inner.count "\x7d") ts)).map fun r => (r.1, r.2 ++ more) := by
  induction ts generalizing inner with
  | nil =>
      rw [awaited_nil] at matched
      simp at matched
  | cons t after ih =>
      obtain ⟨left, here, onward⟩ := advance_awaited matched
      obtain ⟨rfl, stop⟩ | ⟨next, rfl, same⟩ := closure_end_advance inner left t here
      · rw [List.cons_append, stop, stop]
        rfl
      · rw [List.cons_append, same, same]
        exact ih next (by simpa using onward)

end ScreenDispatch.Expr
