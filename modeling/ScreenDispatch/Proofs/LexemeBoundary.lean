import ScreenDispatch.Proofs.ScannedPiece
import ScreenDispatch.Proofs.TrimmedText

/-!
Where a text may be cut. No lexeme reaches into white space or a dot behind it, unless it is white space
itself or the dot stands before a digit.
-/
set_option autoImplicit false

namespace ScreenDispatch.Token

open Text

theorem has_apart (a b : CharSet) (apart : ∀ x ∈ a, ∀ y ∈ b, x.last < y.first ∨ y.last < x.first) (c : Char)
    (inside : a.has c) : b.has c = false := by
  rw [← Bool.not_eq_true]
  intro other
  obtain ⟨x, inA, first⟩ := List.any_eq_true.mp inside
  obtain ⟨y, inB, second⟩ := List.any_eq_true.mp other
  have disjoint := apart x inA y inB
  simp only [CodeRange.has, Bool.and_eq_true, decide_eq_true_eq] at first second
  omega

def wordTable : CharSet := [⟨0x30, 0x39⟩, ⟨0x41, 0x5a⟩, ⟨0x5f, 0x5f⟩, ⟨0x61, 0x7a⟩]

theorem identifier_char_table (c : Char) (word : isIdentifierChar c) : wordTable.has c := by
  have bounds (a b : Char) : a ≤ b ↔ a.toNat ≤ b.toNat := Iff.rfl
  simp only [isIdentifierChar, isIdentifierStart, isAsciiLetter, Bool.or_eq_true, Bool.and_eq_true,
    decide_eq_true_eq, beq_iff_eq, bounds] at word
  simp only [wordTable, CharSet.has, List.any_cons, List.any_nil, Bool.or_eq_true, CodeRange.has,
    Bool.and_eq_true, decide_eq_true_eq]
  obtain ((low | high) | rfl) | digit := word
  · exact .inr (.inr (.inr (.inl low)))
  · exact .inr (.inl high)
  · exact .inr (.inr (.inl ⟨by decide, by decide⟩))
  · exact .inl digit

def parts (c : Char) : Bool := isBlank c || c == '.'

theorem parts_no_digit (c : Char) (part : parts c) : isDigit c = false := by
  obtain blank | dot := (Bool.or_eq_true _ _).mp part
  · exact has_apart blankTable digitTable (by decide) c blank
  · rw [beq_iff_eq.mp dot]
    decide

theorem parts_no_word (c : Char) (part : parts c) : isIdentifierChar c = false := by
  obtain blank | dot := (Bool.or_eq_true _ _).mp part
  · rw [← Bool.not_eq_true]
    intro word
    have apart := has_apart blankTable wordTable (by decide) c blank
    rw [identifier_char_table c word] at apart
    cases apart
  · rw [beq_iff_eq.mp dot]
    decide

theorem parts_no_number (c : Char) (part : parts c) : isNumberChar c = false := by
  have other : (c == '_') = false := by
    rw [beq_eq_false_iff_ne]
    rintro rfl
    cases part
  rw [isNumberChar, parts_no_digit c part, other]
  rfl

theorem no_blank (p : Char → Bool) (stops : ∀ c, parts c → p c = false) (c : Char) (passed : p c) :
    isBlank c = false := by
  rw [← Bool.not_eq_true]
  intro blank
  rw [stops c (by rw [parts, blank, Bool.true_or])] at passed
  cases passed

-- No lexeme in front of these characters goes on in them.
structure Apart (ys : List Char) : Prop where
  head : ∃ c rest, ys = c :: rest ∧ parts c
  noFraction : ∀ d rest, ys = '.' :: d :: rest → isDigit d = false
  noQuote : '"' ∉ ys
  noTick : '\x60' ∉ ys

theorem take_while_stop (p : Char → Bool) (xs ys : List Char) (stop : ∀ c, ys.head? = some c → p c = false) :
    ((xs ++ ys).takeWhile p).length ≤ xs.length := by
  rw [List.takeWhile_append]
  split
  · cases ys with
    | nil => simp
    | cons c rest =>
        rw [List.takeWhile_cons, stop c rfl]
        simp
  · exact (List.takeWhile_sublist _).length_le

theorem take_while_all (p : Char → Bool) (xs ys : List Char) (all : xs.all p)
    (stop : ∀ c, ys.head? = some c → p c = false) : (xs ++ ys).takeWhile p = xs := by
  rw [List.takeWhile_append_of_pos (List.all_eq_true.mp all)]
  cases ys with
  | nil => exact List.append_nil xs
  | cons c rest => rw [List.takeWhile_cons, stop c rfl, if_neg Bool.false_ne_true, List.append_nil]

theorem take_while_apart (p : Char → Bool) (xs ys : List Char) (apart : Apart ys)
    (stops : ∀ c, parts c → p c = false) : ((xs ++ ys).takeWhile p).length ≤ xs.length := by
  obtain ⟨c, rest, rfl, part⟩ := apart.head
  refine take_while_stop p xs _ fun d head => ?_
  cases head
  exact stops c part

inductive StringBody : List Char → Prop where
  | nil : StringBody []
  | plain (c : Char) {rest : List Char} (noQuote : c ≠ '"') (noEscape : c ≠ '\\') (noLine : c ≠ '\n')
      (onward : StringBody rest) : StringBody (c :: rest)
  | escape (c : Char) {rest : List Char} (noLine : c ≠ '\n') (onward : StringBody rest) : StringBody ('\\' :: c :: rest)

theorem closing_quote_body (cs : List Char) (n : Nat) (closed : closingQuote cs = some n) :
    ∃ body, cs.take n = body ++ ['"'] ∧ StringBody body := by
  induction cs using closingQuote.induct generalizing n with
  | case1 | case3 => cases closed
  | case2 rest =>
      rw [closingQuote] at closed
      cases closed
      exact ⟨[], rfl, .nil⟩
  | case4 rest =>
      rw [closingQuote, if_pos rfl] at closed
      cases closed
  | case5 c rest other ih =>
      rw [closingQuote, if_neg other] at closed
      obtain ⟨m, inner, rfl⟩ := Option.map_eq_some_iff.mp closed
      obtain ⟨body, text, inside⟩ := ih m inner
      exact ⟨'\\' :: c :: body, congrArg ('\\' :: c :: ·) text, .escape c other inside⟩
  | case6 rest noQuote noEnd noEscape =>
      rw [closing_quote_plain _ _ (by decide) (by decide), if_pos rfl] at closed
      cases closed
  | case7 c rest noQuote noEnd noEscape noLine ih =>
      have plain : c ≠ '\\' := fun escape => by
        cases rest with
        | nil => exact noEnd escape rfl
        | cons d more => exact noEscape d more escape rfl
      rw [closing_quote_plain c _ noQuote plain, if_neg noLine] at closed
      obtain ⟨m, inner, rfl⟩ := Option.map_eq_some_iff.mp closed
      obtain ⟨body, text, inside⟩ := ih m inner
      exact ⟨c :: body, congrArg (c :: ·) text, .plain c noQuote plain noLine inside⟩

theorem closing_quote_found (cs : List Char) (n : Nat) (closed : closingQuote cs = some n) :
    ∃ front back, cs = front ++ '"' :: back ∧ n = front.length + 1 := by
  obtain ⟨body, text, -⟩ := closing_quote_body cs n closed
  have length := ((closing_quote_cut cs [] n).mp closed).2
  refine ⟨body, cs.drop n, ?_, ?_⟩
  · have whole := List.take_append_drop n cs
    rw [text, List.append_assoc] at whole
    exact whole.symm
  · have size := congrArg List.length text
    rwa [List.length_take_of_le length, List.length_append] at size

theorem backtick_tail_found (cs : List Char) (n : Nat) (closed : backtickTail cs = some n) :
    ∃ front back, cs = front ++ '\x60' :: back ∧ n = front.length + 1 := by
  cases cs with
  | nil => cases closed
  | cons c rest =>
      obtain ⟨_, tick, rfl⟩ := (backtick_tail_cons c rest n).mp closed
      obtain ⟨back, behind⟩ := List.head?_eq_some_iff.mp tick
      have whole := List.prefix_iff_eq_append.mp (List.takeWhile_prefix (l := rest) isIdentifierChar)
      rw [behind] at whole
      exact ⟨c :: rest.takeWhile isIdentifierChar, back, congrArg (c :: ·) whole.symm, rfl⟩

theorem mark_before {mark : Char} {xs ys front back : List Char} (missing : mark ∉ ys)
    (whole : xs ++ ys = front ++ mark :: back) : front.length + 1 ≤ xs.length := by
  by_contra far
  have here : (xs ++ ys)[front.length]? = some mark := by
    rw [whole, List.getElem?_append_right (Nat.le_refl _), Nat.sub_self]
    rfl
  rw [List.getElem?_append_right (by omega)] at here
  exact missing (List.mem_of_getElem? here)

theorem fraction_apart (xs ys : List Char) (apart : Apart ys) : fractionTail (xs ++ ys) ≤ xs.length := by
  obtain ⟨c, rest, same, part⟩ := apart.head
  match xs with
  | [] =>
      unfold fractionTail
      split
      · rename_i d more dotted
        rw [if_neg (by rw [apart.noFraction d more dotted]; simp)]
        exact Nat.zero_le _
      · exact Nat.zero_le _
  | [x] =>
      rw [same, List.singleton_append]
      unfold fractionTail
      split
      · rename_i d more dotted
        obtain ⟨_, rfl, rfl⟩ : x = '.' ∧ c = d ∧ rest = more := by simpa using dotted
        rw [if_neg (by rw [parts_no_digit c part]; simp)]
        exact Nat.zero_le _
      · exact Nat.zero_le _
  | x :: d :: more =>
      by_cases dot : x = '.'
      · subst dot
        rw [List.cons_append, List.cons_append, fractionTail]
        have bound := take_while_apart isNumberChar more ys apart parts_no_number
        simp only [List.length_cons]
        split <;> omega
      · simp [fractionTail, dot]

theorem blank_run_ends (xs ys : List Char) (d : Char) (inside : d ∈ xs) (solid : isBlank d = false) :
    ((xs ++ ys).takeWhile isBlank).length ≤ xs.length := by
  rw [List.takeWhile_append, if_neg fun whole => ?_]
  · exact (List.takeWhile_sublist _).length_le
  · have all := List.all_takeWhile (p := isBlank) (l := xs)
    rw [(List.takeWhile_sublist (l := xs) isBlank).eq_of_length whole, List.all_eq_true] at all
    rw [all d inside] at solid
    cases solid

theorem lexeme_apart (c : Char) (xs ys : List Char) (apart : Apart ys)
    (ending : isBlank c → ∃ d ∈ xs, isBlank d = false) : (lexeme c (xs ++ ys)).2 ≤ xs.length := by
  unfold lexeme
  split
  · rename_i blank
    obtain ⟨d, inside, other⟩ := ending blank
    exact blank_run_ends xs ys d inside other
  split
  · cases closed : closingQuote (xs ++ ys) with
    | none => exact Nat.zero_le _
    | some n =>
        obtain ⟨front, back, whole, rfl⟩ := closing_quote_found _ n closed
        exact mark_before apart.noQuote whole
  split
  -- A number: its whole part ends before the cut, and so does its fraction.
  · have whole := take_while_apart isNumberChar xs ys apart parts_no_number
    have same := take_while_cut isNumberChar xs ys whole
    have bound := (List.takeWhile_sublist (l := xs) isNumberChar).length_le
    have fraction := fraction_apart (xs.drop (xs.takeWhile isNumberChar).length) ys apart
    rw [List.length_drop] at fraction
    dsimp only
    rw [number_tail_eq, same, List.drop_append_of_le_length bound]
    omega
  split
  · cases closed : backtickTail (xs ++ ys) with
    | none => exact Nat.zero_le _
    | some n =>
        obtain ⟨front, back, whole, rfl⟩ := backtick_tail_found _ n closed
        exact mark_before apart.noTick whole
  split
  · exact take_while_apart isIdentifierChar xs ys apart parts_no_word
  split
  · rename_i arrow
    cases xs with
    | nil =>
        obtain ⟨d, rest, rfl, part⟩ := apart.head
        cases Option.some.inj arrow.2
        cases part
    | cons d more => simp
  split
  · exact Nat.zero_le _
  · exact Nat.zero_le _

def Solid (cs : List Char) : Prop := ∀ c, cs.getLast? = some c → isBlank c = false

theorem solid_of_all (cs : List Char) (all : ∀ c ∈ cs, isBlank c = false) : Solid cs :=
  fun c last => all c (List.mem_of_getLast? last)

theorem solid_append (xs ys : List Char) (last : Solid ys) (first : ys = [] → Solid xs) : Solid (xs ++ ys) := by
  intro c ending
  rw [List.getLast?_append] at ending
  cases ys with
  | nil => exact first rfl c ending
  | cons d rest =>
      have same := List.getLast?_eq_some_getLast (List.cons_ne_nil d rest)
      rw [same] at ending
      cases ending
      exact last _ same

theorem Solid.rest {c : Char} {rest : List Char} (solid : Solid (c :: rest)) (n : Nat) : Solid (rest.drop n) := by
  intro last ending
  apply solid last
  rw [List.getLast?_drop] at ending
  split at ending
  · cases ending
  · rw [List.getLast?_cons, ending]
    rfl

theorem Solid.behind_blank {c : Char} {rest : List Char} (solid : Solid (c :: rest)) (blank : isBlank c) :
    ∃ d ∈ rest, isBlank d = false := by
  cases rest with
  | nil =>
      rw [solid c rfl] at blank
      cases blank
  | cons d more =>
      have last := List.getLast?_eq_some_getLast (List.cons_ne_nil d more)
      exact ⟨_, List.mem_of_getLast? last, solid _ (by rw [List.getLast?_cons_cons, last])⟩

inductive Ends (ys : List Char) : List Char → Prop where
  | nil : Ends ys []
  | cons (c : Char) (rest : List Char) (fits : (lexeme c (rest ++ ys)).2 ≤ rest.length)
      (onward : Ends ys (rest.drop (lexeme c rest).2)) : Ends ys (c :: rest)

theorem scan_ends (pos : Nat) (xs ys : List Char) (ends : Ends ys xs) :
    scanFrom pos (xs ++ ys) = scanFrom pos xs ++ scanFrom (pos + xs.length) ys := by
  induction ends generalizing pos with
  | nil => rw [List.nil_append, scanFrom, List.nil_append, List.length_nil, Nat.add_zero]
  | cons c rest fits onward ih =>
      have length := lexeme_length c rest
      have same := lexeme_cut c rest ys fits
      have place : pos + 1 + (lexeme c rest).2 + (rest.drop (lexeme c rest).2).length = pos + (c :: rest).length := by
        rw [List.length_drop, List.length_cons]
        omega
      cases found : (lexeme c rest).1 with
      | none =>
          rw [scan_from_blank _ _ _ found, List.cons_append, scan_from_blank _ _ _ (by rw [← same]; exact found),
            ← same, List.drop_append_of_le_length length, ih, place]
      | some kind =>
          rw [scan_from_token _ _ _ kind found, List.cons_append,
            scan_from_token _ _ _ kind (by rw [← same]; exact found), ← same, List.take_append_of_le_length length,
            List.drop_append_of_le_length length, ih, place]
          rfl

theorem ends_of_fits (ys : List Char)
    (fits : ∀ c xs, (isBlank c → ∃ d ∈ xs, isBlank d = false) → (lexeme c (xs ++ ys)).2 ≤ xs.length)
    (xs : List Char) (solid : Solid xs) : Ends ys xs := by
  induction size : xs.length using Nat.strongRecOn generalizing xs with
  | ind n shorter =>
      cases xs with
      | nil => exact .nil
      | cons c rest =>
          refine .cons c rest (fits c rest solid.behind_blank) (shorter _ ?_ _ (solid.rest _) rfl)
          rw [List.length_drop, ← size, List.length_cons]
          omega

theorem scan_apart (pos : Nat) (xs ys : List Char) (solid : Solid xs) (apart : Apart ys) :
    scanFrom pos (xs ++ ys) = scanFrom pos xs ++ scanFrom (pos + xs.length) ys :=
  scan_ends pos xs ys (ends_of_fits ys (fun c front => lexeme_apart c front ys apart) xs solid)

end ScreenDispatch.Token
