import Mathlib.Data.List.Basic
import ScreenDispatch.Token

/-!
A lexeme ends where its own characters say so: in a text that is cut behind it, it stays the same.
-/
set_option autoImplicit false

namespace ScreenDispatch.Token

open Text

theorem take_while_cut {α : Type} (p : α → Bool) (xs ys : List α)
    (fits : ((xs ++ ys).takeWhile p).length ≤ xs.length) : (xs ++ ys).takeWhile p = xs.takeWhile p := by
  induction xs with
  | nil => exact List.eq_nil_of_length_eq_zero (Nat.le_zero.mp fits)
  | cons x rest ih =>
      rw [List.cons_append, List.takeWhile_cons, List.takeWhile_cons] at *
      split at fits
      · rename_i passed
        rw [if_pos passed, if_pos passed, ih (Nat.le_of_succ_le_succ fits)]
      · rename_i failed
        rw [if_neg failed, if_neg failed]

theorem closing_quote_plain (c : Char) (rest : List Char) (noQuote : c ≠ '"') (noEscape : c ≠ '\\') :
    closingQuote (c :: rest) = if c = '\n' then none else (closingQuote rest).map (· + 1) := by
  rw [closingQuote.eq_def]
  split
  · contradiction
  · rename_i same
    cases same
    contradiction
  · rename_i same
    cases same
    contradiction
  · rename_i same
    cases same
    contradiction
  · rename_i same
    cases same
    rfl

theorem closing_quote_positive (cs : List Char) : closingQuote cs ≠ some 0 := by
  rw [closingQuote.eq_def]
  split
  · simp
  · simp
  · simp
  · split <;> simp
  · split <;> simp

theorem closing_quote_cut (xs ys : List Char) (n : Nat) :
    closingQuote xs = some n ↔ closingQuote (xs ++ ys) = some n ∧ n ≤ xs.length := by
  induction xs using closingQuote.induct generalizing n with
  | case1 =>
      refine ⟨fun closed => (by cases closed), fun ⟨closed, fits⟩ => ?_⟩
      rw [Nat.le_zero.mp fits] at closed
      exact absurd closed (closing_quote_positive _)
  | case2 rest =>
      rw [List.cons_append, closingQuote, closingQuote]
      refine ⟨fun closed => ?_, fun closed => closed.1⟩
      cases closed
      exact ⟨rfl, by simp⟩
  | case3 =>
      refine ⟨fun closed => (by cases closed), fun ⟨closed, fits⟩ => ?_⟩
      cases ys with
      | nil => cases closed
      | cons d more =>
          rw [List.singleton_append, closingQuote] at closed
          split at closed
          · cases closed
          · obtain ⟨m, _, rfl⟩ := Option.map_eq_some_iff.mp closed
            simp at fits
  | case4 rest =>
      rw [List.cons_append, List.cons_append, closingQuote, closingQuote]
      simp
  | case5 c rest other ih =>
      rw [List.cons_append, List.cons_append, closingQuote, closingQuote, if_neg other, if_neg other]
      refine ⟨fun closed => ?_, fun ⟨closed, fits⟩ => ?_⟩
      · obtain ⟨m, inner, rfl⟩ := Option.map_eq_some_iff.mp closed
        obtain ⟨whole, fits⟩ := (ih m).mp inner
        rw [whole]
        exact ⟨rfl, Nat.add_le_add_right fits 2⟩
      · obtain ⟨m, inner, rfl⟩ := Option.map_eq_some_iff.mp closed
        rw [(ih m).mpr ⟨inner, Nat.le_of_add_le_add_right fits⟩]
        rfl
  | case6 rest noQuote noEnd noEscape =>
      rw [List.cons_append, closing_quote_plain _ _ (by decide) (by decide),
        closing_quote_plain _ _ (by decide) (by decide)]
      simp
  | case7 c rest noQuote noEnd noEscape noLine ih =>
      have plain : c ≠ '\\' := fun escape => by
        cases rest with
        | nil => exact noEnd escape rfl
        | cons d more => exact noEscape d more escape rfl
      rw [List.cons_append, closing_quote_plain c _ noQuote plain, closing_quote_plain c _ noQuote plain,
        if_neg noLine, if_neg noLine]
      refine ⟨fun closed => ?_, fun ⟨closed, fits⟩ => ?_⟩
      · obtain ⟨m, inner, rfl⟩ := Option.map_eq_some_iff.mp closed
        obtain ⟨whole, fits⟩ := (ih m).mp inner
        rw [whole]
        exact ⟨rfl, Nat.succ_le_succ fits⟩
      · obtain ⟨m, inner, rfl⟩ := Option.map_eq_some_iff.mp closed
        rw [(ih m).mpr ⟨inner, Nat.le_of_succ_le_succ fits⟩]
        rfl

def fractionTail : List Char → Nat
  | '.' :: d :: more => if isDigit d then 2 + (more.takeWhile isNumberChar).length else 0
  | _ => 0

theorem number_tail_eq (cs : List Char) :
    numberTail cs = (cs.takeWhile isNumberChar).length +
      fractionTail (cs.drop (cs.takeWhile isNumberChar).length) := by
  unfold numberTail
  dsimp only
  generalize (cs.takeWhile isNumberChar).length = whole
  split
  · rename_i d more split
    rw [split, fractionTail]
    split <;> omega
  · rename_i plain
    rw [fractionTail]
    · rfl
    · exact plain

theorem fraction_tail_cut (xs ys : List Char) (fits : fractionTail (xs ++ ys) ≤ xs.length) :
    fractionTail xs = fractionTail (xs ++ ys) := by
  match xs with
  | [] => exact (Nat.le_zero.mp fits).symm
  | [c] =>
      by_cases dot : c = '.'
      · subst dot
        cases ys with
        | nil => rfl
        | cons d more =>
            rw [List.singleton_append, fractionTail] at fits ⊢
            split at fits
            · simp only [List.length_singleton] at fits
              omega
            · rename_i other
              rw [if_neg other]
              rfl
      · simp [fractionTail, dot]
  | c :: d :: rest =>
      by_cases dot : c = '.'
      · subst dot
        rw [List.cons_append, List.cons_append, fractionTail] at fits ⊢
        split at fits
        · rename_i digit
          rw [fractionTail, if_pos digit, if_pos digit, take_while_cut isNumberChar rest ys ?_]
          simp only [List.length_cons] at fits
          omega
        · rename_i other
          rw [fractionTail, if_neg other, if_neg other]
      · simp [fractionTail, dot]

theorem number_tail_cut (xs ys : List Char) (fits : numberTail (xs ++ ys) ≤ xs.length) :
    numberTail xs = numberTail (xs ++ ys) := by
  rw [number_tail_eq] at fits
  have whole := take_while_cut isNumberChar xs ys (by omega)
  have bound := (List.takeWhile_sublist (l := xs) isNumberChar).length_le
  rw [number_tail_eq, number_tail_eq, whole, List.drop_append_of_le_length bound]
  rw [whole, List.drop_append_of_le_length bound] at fits
  rw [fraction_tail_cut]
  rw [List.length_drop]
  omega

theorem backtick_tail_cons (c : Char) (rest : List Char) (n : Nat) :
    backtickTail (c :: rest) = some n ↔ isIdentifierStart c = true ∧
      (rest.drop (rest.takeWhile isIdentifierChar).length).head? = some '\x60' ∧
      n = (rest.takeWhile isIdentifierChar).length + 2 := by
  rw [backtickTail]
  split
  · rename_i both
    simp [both, eq_comm]
  · rename_i other
    simp only [reduceCtorEq, false_iff]
    exact fun parts => other ⟨parts.1, parts.2.1⟩

theorem backtick_tail_cut (xs ys : List Char) (n : Nat) :
    backtickTail xs = some n ↔ backtickTail (xs ++ ys) = some n ∧ n ≤ xs.length := by
  cases xs with
  | nil =>
      refine ⟨fun closed => (by cases closed), fun ⟨closed, fits⟩ => ?_⟩
      cases ys with
      | nil => exact closed
      | cons c rest =>
          rw [List.nil_append, backtick_tail_cons] at closed
          simp only [List.length_nil] at fits
          omega
  | cons c rest =>
      have bound := (List.takeWhile_sublist (l := rest) isIdentifierChar).length_le
      rw [List.cons_append, backtick_tail_cons, backtick_tail_cons, List.length_cons]
      by_cases inside : (rest.takeWhile isIdentifierChar).length < rest.length
      · have same : (rest ++ ys).takeWhile isIdentifierChar = rest.takeWhile isIdentifierChar := by
          rw [List.takeWhile_append, if_neg (by omega)]
        have nonempty : rest.drop (rest.takeWhile isIdentifierChar).length ≠ [] := by
          rw [Ne, List.drop_eq_nil_iff]
          omega
        rw [same, List.drop_append_of_le_length bound, List.head?_append_of_ne_nil _ nonempty]
        refine ⟨fun parts => ⟨parts, by omega⟩, fun parts => parts.1⟩
      · have whole : rest.drop (rest.takeWhile isIdentifierChar).length = [] :=
          List.drop_eq_nil_of_le (by omega)
        rw [whole]
        refine ⟨fun parts => (by cases parts.2.1), fun ⟨⟨_, _, length⟩, fits⟩ => ?_⟩
        rw [List.takeWhile_append, if_pos (by omega), List.length_append] at length
        omega

theorem lexeme_cut (c : Char) (xs ys : List Char) (fits : (lexeme c (xs ++ ys)).2 ≤ xs.length) :
    lexeme c xs = lexeme c (xs ++ ys) := by
  unfold lexeme at fits ⊢
  split at fits
  · rename_i blank
    rw [if_pos blank, if_pos blank, take_while_cut isBlank xs ys fits]
  rename_i notBlank
  rw [if_neg notBlank, if_neg notBlank]
  split at fits
  · rename_i quote
    rw [if_pos quote, if_pos quote]
    cases whole : closingQuote (xs ++ ys) with
    | none =>
        have unclosed : closingQuote xs = none := by
          rw [Option.eq_none_iff_forall_ne_some]
          intro n closed
          rw [((closing_quote_cut xs ys n).mp closed).1] at whole
          cases whole
        rw [unclosed]
    | some n =>
        rw [whole] at fits
        rw [(closing_quote_cut xs ys n).mpr ⟨whole, fits⟩]
  rename_i notQuote
  rw [if_neg notQuote, if_neg notQuote]
  split at fits
  · rename_i digit
    rw [if_pos digit, if_pos digit, number_tail_cut xs ys fits]
  rename_i notDigit
  rw [if_neg notDigit, if_neg notDigit]
  split at fits
  · rename_i tick
    rw [if_pos tick, if_pos tick]
    cases whole : backtickTail (xs ++ ys) with
    | none =>
        have unclosed : backtickTail xs = none := by
          rw [Option.eq_none_iff_forall_ne_some]
          intro n closed
          rw [((backtick_tail_cut xs ys n).mp closed).1] at whole
          cases whole
        rw [unclosed]
    | some n =>
        rw [whole] at fits
        rw [(backtick_tail_cut xs ys n).mpr ⟨whole, fits⟩]
  rename_i notTick
  rw [if_neg notTick, if_neg notTick]
  split at fits
  · rename_i start
    rw [if_pos start, if_pos start, take_while_cut isIdentifierChar xs ys fits]
  rename_i notStart
  rw [if_neg notStart, if_neg notStart]
  cases xs with
  | nil =>
      split at fits
      · simp only [List.length_nil] at fits
        omega
      · rename_i noArrow
        rw [if_neg (by simp), if_neg noArrow]
  | cons d rest => rfl

theorem punct_lexeme (c : Char) (rest : List Char) (mark : isPunct c) : lexeme c rest = (some .punct, 0) := by
  have plain : ¬ isBlank c ∧ c ≠ '"' ∧ ¬ isDigit c ∧ c ≠ '\x60' ∧
      ¬ (isIdentifierStart c || decide (c = '$')) ∧ c ≠ '-' := by
    simp only [isPunct, List.contains_eq_mem, decide_eq_true_eq, List.mem_cons, List.not_mem_nil, or_false] at mark
    obtain rfl | rfl | rfl | rfl | rfl | rfl | rfl | rfl | rfl | rfl | rfl | rfl | rfl | rfl := mark
    all_goals decide
  obtain ⟨blank, quote, digit, tick, start, minus⟩ := plain
  rw [lexeme, if_neg blank, if_neg quote, if_neg digit, if_neg tick, if_neg start,
    if_neg fun arrow => minus arrow.1, if_pos mark]

theorem fraction_tail_length (cs : List Char) : fractionTail cs ≤ cs.length := by
  unfold fractionTail
  split
  · rename_i d more
    have bound := (List.takeWhile_sublist (l := more) isNumberChar).length_le
    simp only [List.length_cons]
    split <;> omega
  · exact Nat.zero_le _

theorem lexeme_length (c : Char) (rest : List Char) : (lexeme c rest).2 ≤ rest.length := by
  unfold lexeme
  split
  · exact (List.takeWhile_sublist _).length_le
  split
  · cases closed : closingQuote rest with
    | none => exact Nat.zero_le _
    | some n => exact ((closing_quote_cut rest [] n).mp closed).2
  split
  · rw [number_tail_eq]
    have whole := (List.takeWhile_sublist (l := rest) isNumberChar).length_le
    have fraction := fraction_tail_length (rest.drop (rest.takeWhile isNumberChar).length)
    rw [List.length_drop] at fraction
    dsimp only
    omega
  split
  · cases closed : backtickTail rest with
    | none => exact Nat.zero_le _
    | some n => exact ((backtick_tail_cut rest [] n).mp closed).2
  split
  · exact (List.takeWhile_sublist _).length_le
  split
  · rename_i arrow
    cases rest with
    | nil => cases arrow.2
    | cons d more => simp
  split
  · exact Nat.zero_le _
  · exact Nat.zero_le _

end ScreenDispatch.Token
