import ScreenDispatch.Expr.Argument
import ScreenDispatch.Proofs.Lexeme
import ScreenDispatch.Proofs.Nesting

/-!
Scanning a piece of a text. The text from one token to another has the tokens between them, at places
that count from the first one.
-/
set_option autoImplicit false

namespace ScreenDispatch.Token

open Text

theorem scan_from_blank (pos : Nat) (c : Char) (rest : List Char) (blank : (lexeme c rest).1 = none) :
    scanFrom pos (c :: rest) =
      scanFrom (pos + 1 + (lexeme c rest).2) (rest.drop (lexeme c rest).2) := by
  rw [scanFrom, blank]

theorem scan_from_token (pos : Nat) (c : Char) (rest : List Char) (kind : TokenKind)
    (found : (lexeme c rest).1 = some kind) :
    scanFrom pos (c :: rest) =
      ⟨kind, String.ofList (c :: rest.take (lexeme c rest).2), pos, pos + 1 + (lexeme c rest).2⟩ ::
        scanFrom (pos + 1 + (lexeme c rest).2) (rest.drop (lexeme c rest).2) := by
  rw [scanFrom, found]

theorem scan_induction {motive : Nat → List Char → Prop} (empty : ∀ pos, motive pos [])
    (blank : ∀ pos c rest, (lexeme c rest).1 = none →
      motive (pos + 1 + (lexeme c rest).2) (rest.drop (lexeme c rest).2) → motive pos (c :: rest))
    (token : ∀ pos c rest kind, (lexeme c rest).1 = some kind →
      motive (pos + 1 + (lexeme c rest).2) (rest.drop (lexeme c rest).2) → motive pos (c :: rest))
    (pos : Nat) (cs : List Char) : motive pos cs :=
  scanFrom.induct motive empty blank token pos cs

def shifted (offset : Nat) (t : Token) : Token :=
  { t with start := t.start + offset, stop := t.stop + offset }

theorem scan_shifted (offset pos : Nat) (cs : List Char) :
    scanFrom (pos + offset) cs = (scanFrom pos cs).map (shifted offset) := by
  induction pos, cs using scan_induction with
  | empty pos => simp [scanFrom]
  | blank pos c rest blank ih =>
      rw [scan_from_blank _ _ _ blank, scan_from_blank _ _ _ blank, ← ih]
      congr 1
      omega
  | token pos c rest kind found ih =>
      have same : pos + offset + 1 + (lexeme c rest).2 = pos + 1 + (lexeme c rest).2 + offset := by omega
      rw [scan_from_token _ _ _ kind found, scan_from_token _ _ _ kind found, List.map_cons, ← ih, same]
      rfl

theorem scan_bounds (pos : Nat) (cs : List Char) (t : Token) (present : t ∈ scanFrom pos cs) :
    pos ≤ t.start ∧ t.start < t.stop ∧ t.stop ≤ pos + cs.length := by
  induction pos, cs using scan_induction with
  | empty pos =>
      rw [scanFrom] at present
      cases present
  | blank pos c rest blank ih =>
      rw [scan_from_blank _ _ _ blank] at present
      have bounds := ih present
      have length := lexeme_length c rest
      rw [List.length_drop] at bounds
      simp only [List.length_cons]
      omega
  | token pos c rest kind found ih =>
      have length := lexeme_length c rest
      rw [scan_from_token _ _ _ kind found] at present
      simp only [List.length_cons]
      obtain rfl | later := List.mem_cons.mp present
      · dsimp only
        omega
      · have bounds := ih later
        rw [List.length_drop] at bounds
        omega

theorem drop_lexeme (c : Char) (rest : List Char) (pos size place : Nat) (behind : pos + 1 + size ≤ place) :
    (rest.drop size).drop (place - (pos + 1 + size)) = (c :: rest).drop (place - pos) := by
  have same : place - pos = size + (place - (pos + 1 + size)) + 1 := by omega
  rw [same, List.drop_succ_cons, List.drop_drop]

theorem scan_drop (pos : Nat) (cs : List Char) (before after : List Token) (t : Token)
    (whole : scanFrom pos cs = before ++ t :: after) :
    scanFrom t.start (cs.drop (t.start - pos)) = t :: after := by
  induction pos, cs using scan_induction generalizing before with
  | empty pos =>
      rw [scanFrom] at whole
      simp at whole
  | blank pos c rest blank ih =>
      rw [scan_from_blank _ _ _ blank] at whole
      have bounds := scan_bounds _ _ t (by rw [whole]; simp)
      rw [← drop_lexeme c rest pos _ t.start bounds.1]
      exact ih before whole
  | token pos c rest kind found ih =>
      have all := whole
      rw [scan_from_token _ _ _ kind found] at whole
      cases before with
      | nil =>
          rw [List.nil_append, List.cons_eq_cons] at whole
          rw [List.nil_append, ← whole.1] at all
          rw [← whole.1, Nat.sub_self, List.drop_zero, all]
      | cons first others =>
          rw [List.cons_append, List.cons_eq_cons] at whole
          have bounds := scan_bounds _ _ t (by rw [whole.2]; simp)
          rw [← drop_lexeme c rest pos _ t.start bounds.1]
          exact ih others whole.2

theorem take_lexeme (c : Char) (rest : List Char) (pos place : Nat)
    (behind : pos + 1 + (lexeme c rest).2 ≤ place) :
    ∃ cut, (c :: rest).take (place - pos) = c :: cut ∧ lexeme c cut = lexeme c rest ∧
      cut.take (lexeme c rest).2 = rest.take (lexeme c rest).2 ∧
      cut.drop (lexeme c rest).2 =
        (rest.drop (lexeme c rest).2).take (place - (pos + 1 + (lexeme c rest).2)) := by
  have size : place - pos = place - (pos + 1) + 1 := by omega
  refine ⟨rest.take (place - (pos + 1)), by rw [size, List.take_succ_cons], ?_, ?_, ?_⟩
  · have length := lexeme_length c rest
    have same := lexeme_cut c (rest.take (place - (pos + 1))) (rest.drop (place - (pos + 1)))
    rw [List.take_append_drop] at same
    refine same ?_
    rw [List.length_take]
    omega
  · rw [List.take_take, Nat.min_eq_left (by omega)]
  · rw [List.drop_take]
    congr 1
    omega

theorem scan_take (pos : Nat) (cs : List Char) (ts after : List Token) (last : Token)
    (whole : scanFrom pos cs = ts ++ last :: after) :
    scanFrom pos (cs.take (last.stop - pos)) = ts ++ [last] := by
  induction pos, cs using scan_induction generalizing ts with
  | empty pos =>
      rw [scanFrom] at whole
      simp at whole
  | blank pos c rest blank ih =>
      rw [scan_from_blank _ _ _ blank] at whole
      have bounds := scan_bounds _ _ last (by rw [whole]; simp)
      obtain ⟨cut, same, lexed, _, remaining⟩ := take_lexeme c rest pos last.stop (by omega)
      rw [same, scan_from_blank _ _ _ (by rw [lexed]; exact blank), lexed, remaining]
      exact ih ts whole
  | token pos c rest kind found ih =>
      rw [scan_from_token _ _ _ kind found] at whole
      have behind : pos + 1 + (lexeme c rest).2 ≤ last.stop := by
        cases ts with
        | nil =>
            rw [List.nil_append, List.cons_eq_cons] at whole
            exact whole.1 ▸ Nat.le_refl _
        | cons first others =>
            rw [List.cons_append, List.cons_eq_cons] at whole
            have bounds := scan_bounds _ _ last (by rw [whole.2]; simp)
            omega
      obtain ⟨cut, same, lexed, taken, remaining⟩ := take_lexeme c rest pos last.stop behind
      rw [same, scan_from_token _ _ _ kind (by rw [lexed]; exact found), lexed, taken, remaining]
      cases ts with
      | nil =>
          rw [List.nil_append, List.cons_eq_cons] at whole
          rw [← whole.1, Nat.sub_self, List.take_zero, scanFrom]
          rfl
      | cons first others =>
          rw [List.cons_append, List.cons_eq_cons] at whole
          rw [ih others whole.2, whole.1]
          rfl

theorem text_of_eq (source : List Char) (first last : Token) (ts : List Token) (head : ts.head? = some first)
    (ending : ts.getLast? = some last) :
    (Expr.textOf source ts).toList = (source.take last.stop).drop first.start := by
  rw [Expr.textOf, head, ending, String.toList_ofList]

theorem scan_piece (source : List Char) (before ts after : List Token) (first last : Token)
    (whole : scanFrom 0 source = before ++ ts ++ after) (head : ts.head? = some first)
    (ending : ts.getLast? = some last) :
    scanFrom first.start ((source.take last.stop).drop first.start) = ts := by
  obtain ⟨others, rfl⟩ := List.getLast?_eq_some_iff.mp ending
  have short : scanFrom 0 (source.take last.stop) = before ++ (others ++ [last]) := by
    rw [← List.append_assoc]
    exact scan_take 0 source (before ++ others) after last (by rw [whole]; simp)
  obtain ⟨more, same⟩ := List.head?_eq_some_iff.mp head
  rw [same] at short ⊢
  exact scan_drop 0 _ before more first short

theorem scan_text_of (source : List Char) (before ts after : List Token) (first : Token)
    (whole : scanFrom 0 source = before ++ ts ++ after) (head : ts.head? = some first) :
    (scan (Expr.textOf source ts)).map (shifted first.start) = ts := by
  have nonempty : ts ≠ [] := fun empty => by simp [empty] at head
  have ending := List.getLast?_eq_some_getLast nonempty
  rw [scan, text_of_eq source first _ ts head ending, ← scan_shifted, Nat.zero_add]
  exact scan_piece source before ts after first _ whole head ending

theorem text_of_stops (source : List Char) (ts : List Token) (first last : Token) (head : ts.head? = some first)
    (ending : ts.getLast? = some last) (t : Token) (present : t ∈ scan (Expr.textOf source ts)) :
    t.stop + first.start ≤ last.stop := by
  have size := congrArg List.length (text_of_eq source first last ts head ending)
  have bounds := scan_bounds 0 _ t present
  rw [List.length_drop, List.length_take] at size
  omega

theorem text_of_inner (source : List Char) (ts : List Token) (first last : Token) (run : List Token)
    (head : ts.head? = some first) (ending : ts.getLast? = some last)
    (fits : ∀ t ∈ run, t.stop + first.start ≤ last.stop) :
    Expr.textOf (Expr.textOf source ts).toList run = Expr.textOf source (run.map (shifted first.start)) := by
  rw [text_of_eq source first last ts head ending]
  unfold Expr.textOf
  rw [List.head?_map, List.getLast?_map]
  cases starting : run.head? with
  | none => rfl
  | some begin =>
      cases closing : run.getLast? with
      | none => rfl
      | some final =>
          have bound := fits final (List.mem_of_getLast? closing)
          dsimp only [Option.map_some, shifted]
          rw [List.take_drop, List.drop_drop, List.take_take, Nat.min_eq_left (by omega)]
          rw [Nat.add_comm first.start begin.start, Nat.add_comm first.start final.stop]

theorem scanned_of_lexeme (good : Token → Prop) (pos : Nat) (cs : List Char)
    (step : ∀ c rest kind start stop, c ∈ cs → (lexeme c rest).1 = some kind →
      good ⟨kind, String.ofList (c :: rest.take (lexeme c rest).2), start, stop⟩)
    (t : Token) (present : t ∈ scanFrom pos cs) : good t := by
  have inside {c : Char} {rest : List Char} (d : Char) (n : Nat) (member : d ∈ rest.drop n) : d ∈ c :: rest :=
    List.mem_cons_of_mem c (List.mem_of_mem_drop member)
  induction pos, cs using scan_induction with
  | empty pos =>
      rw [scanFrom] at present
      cases present
  | blank pos c rest blank ih =>
      rw [scan_from_blank _ _ _ blank] at present
      exact ih (fun d more kind start stop member => step d more kind start stop (inside d _ member)) present
  | token pos c rest kind found ih =>
      rw [scan_from_token _ _ _ kind found] at present
      obtain rfl | later := List.mem_cons.mp present
      · exact step c rest kind _ _ List.mem_cons_self found
      · exact ih (fun d more kind start stop member => step d more kind start stop (inside d _ member)) later

theorem scanned_mark (pos : Nat) (cs : List Char) (c : Char) (mark : isPunct c) (t : Token)
    (present : t ∈ scanFrom pos cs) (value : t.value = String.ofList [c]) : t.kind = .punct := by
  revert value
  refine scanned_of_lexeme (fun t => t.value = String.ofList [c] → t.kind = .punct) pos cs ?_ t present
  intro d rest kind start stop member found value
  obtain rfl : d = c := (List.cons_eq_cons.mp (String.ofList_injective value)).1
  rw [punct_lexeme d rest mark] at found
  exact (Option.some.inj found).symm

theorem scan_faithful (pos : Nat) (cs : List Char) (t : Token) (present : t ∈ scanFrom pos cs) :
    Expr.Faithful t := by
  intro other mark
  refine other ?_
  simp only [List.mem_cons, List.not_mem_nil, or_false] at mark
  obtain value | value | value | value | value | value | value | value := mark
  all_goals exact scanned_mark pos cs _ (by decide) t present value

end ScreenDispatch.Token
