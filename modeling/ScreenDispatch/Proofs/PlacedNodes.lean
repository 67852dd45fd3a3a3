import ScreenDispatch.Proofs.Relayout
import ScreenDispatch.Proofs.TokenRows

/-!
The places of the nodes in a source. Every node is the text of some of its tokens, from the first to the last, and the
nodes below it, its generic arguments and its operand are texts of tokens among these, one behind the other.
-/
set_option autoImplicit false

namespace ScreenDispatch.Expr

open Token Text

theorem no_blank_of_lexeme (c : Char) (rest : List Char) (kind : TokenKind) (found : (lexeme c rest).1 = some kind) :
    isBlank c = false := by
  cases blank : isBlank c with
  | false => rfl
  | true =>
      rw [lexeme, if_pos blank] at found
      cases found

theorem scan_front (pos : Nat) (cs : List Char) (first : Token) (more : List Token)
    (whole : scanFrom pos cs = first :: more) :
    (∀ c ∈ cs.take (first.start - pos), isBlank c) ∧
      ∀ c, (cs.drop (first.start - pos)).head? = some c → isBlank c = false := by
  induction pos, cs using scan_induction with
  | empty pos =>
      rw [scanFrom] at whole
      cases whole
  | blank pos c rest blank ih =>
      rw [scan_from_blank _ _ _ blank] at whole
      have bounds := scan_bounds _ _ first (by rw [whole]; simp)
      obtain ⟨before, solid⟩ := ih whole
      rw [drop_lexeme c rest pos _ first.start bounds.1] at solid
      refine ⟨?_, solid⟩
      have size : first.start - pos = (lexeme c rest).2 + (first.start - (pos + 1 + (lexeme c rest).2)) + 1 := by omega
      rw [size, List.take_succ_cons, List.take_add]
      refine List.forall_mem_cons.mpr ⟨blank_of_lexeme c rest blank, List.forall_mem_append.mpr ⟨?_, before⟩⟩
      intro d present
      rw [blank_lexeme c rest blank, take_while_taken] at present
      exact List.mem_takeWhile_imp present
  | token pos c rest kind found ih =>
      rw [scan_from_token _ _ _ kind found] at whole
      obtain ⟨rfl, _⟩ := List.cons.inj whole
      dsimp only
      rw [Nat.sub_self]
      refine ⟨by simp, fun d head => ?_⟩
      cases head
      exact no_blank_of_lexeme c rest kind found

theorem scan_behind (pos : Nat) (cs : List Char) (ts after : List Token) (t : Token)
    (whole : scanFrom pos cs = ts ++ t :: after) : scanFrom t.stop (cs.drop (t.stop - pos)) = after := by
  induction pos, cs using scan_induction generalizing ts with
  | empty pos =>
      rw [scanFrom] at whole
      simp at whole
  | blank pos c rest blank ih =>
      rw [scan_from_blank _ _ _ blank] at whole
      have bounds := scan_bounds _ _ t (by rw [whole]; simp)
      have behind : pos + 1 + (lexeme c rest).2 ≤ t.stop := by omega
      rw [← drop_lexeme c rest pos _ t.stop behind]
      exact ih ts whole
  | token pos c rest kind found ih =>
      rw [scan_from_token _ _ _ kind found] at whole
      cases ts with
      | nil =>
          obtain ⟨rfl, rfl⟩ := List.cons.inj whole
          dsimp only
          rw [← drop_lexeme c rest pos _ _ (Nat.le_refl _), Nat.sub_self, List.drop_zero]
      | cons first others =>
          obtain ⟨_, later⟩ := List.cons.inj whole
          have bounds := scan_bounds _ _ t (by rw [later]; simp)
          have behind : pos + 1 + (lexeme c rest).2 ≤ t.stop := by omega
          rw [← drop_lexeme c rest pos _ t.stop behind]
          exact ih others later

theorem no_token_of_blank (pos : Nat) (cs : List Char) (blanks : ∀ c ∈ cs, isBlank c) : scanFrom pos cs = [] := by
  have nothing := scan_blanks pos cs [] blanks nofun
  rwa [List.append_nil, scanFrom] at nothing

theorem apart_of_blank (cs : List Char) (some : cs ≠ []) (blanks : ∀ c ∈ cs, isBlank c) : Apart cs := by
  have missing (mark : Char) (solid : isBlank mark = false) : mark ∉ cs := fun inside => by
    rw [blanks mark inside] at solid
    cases solid
  refine ⟨?_, fun d rest same => ?_, missing _ (by decide), missing _ (by decide)⟩
  · obtain ⟨c, rest, rfl⟩ := List.exists_cons_of_ne_nil some
    exact ⟨c, rest, rfl, by simp [Token.parts, blanks c List.mem_cons_self]⟩
  · exact absurd (same ▸ List.mem_cons_self) (missing '.' (by decide))

-- A token does not end in white space: cut off, it would leave the token as it is, but shorter.
theorem scan_solid (cs : List Char) (ts after : List Token) (t : Token) (whole : scanFrom 0 cs = ts ++ t :: after) :
    Solid (cs.take t.stop) := by
  have short : scanFrom 0 (cs.take t.stop) = ts ++ [t] := scan_take 0 cs ts after t whole
  obtain ⟨front, blanks, split, solid, blank⟩ := solid_prefix (cs.take t.stop)
  cases blanks with
  | nil => rwa [split, List.append_nil]
  | cons c more =>
      have apart : Apart (c :: more) := apart_of_blank _ (List.cons_ne_nil _ _) blank
      rw [split, scan_apart 0 front _ solid apart, no_token_of_blank _ _ blank, List.append_nil] at short
      have bounds := scan_bounds 0 front t (by rw [short]; simp)
      have size := congrArg List.length split
      rw [List.length_take, List.length_append, List.length_cons] at size
      omega

theorem text_of_solid (source : String) (before run after : List Token) (filled : run ≠ [])
    (whole : scan source = before ++ run ++ after) : Solid (textOf source.toList run).toList := by
  obtain ⟨others, last, rfl⟩ : ∃ others last, run = others ++ [last] :=
    ⟨_, _, (List.dropLast_append_getLast filled).symm⟩
  have solid := scan_solid source.toList (before ++ others) after last (by rw [← scan, whole]; simp)
  have head := List.head?_eq_some_head filled
  rw [text_of_eq source.toList _ last _ head (by simp)]
  intro c final
  rw [List.getLast?_drop] at final
  split at final
  · cases final
  · exact solid c final

theorem text_of_scan (source : String) (some : scan source ≠ []) :
    textOf source.toList (scan source) = trimmed source := by
  obtain ⟨first, more, front⟩ := List.exists_cons_of_ne_nil some
  obtain ⟨others, last, back⟩ : ∃ others last, scan source = others ++ [last] :=
    ⟨_, _, (List.dropLast_append_getLast some).symm⟩
  have solid := text_of_solid source [] (scan source) [] some (by simp)
  have text := text_of_eq source.toList first last (scan source) (by rw [front]; rfl) (by rw [back]; simp)
  -- The text up to the last token has the same tokens, and nothing stands behind the last one.
  have upTo : scanFrom 0 (source.toList.take last.stop) = first :: more := by
    rw [← front, back]
    exact scan_take 0 source.toList others [] last back
  obtain ⟨blankFront, head⟩ := scan_front 0 _ first more upTo
  refine ((trimmed_iff source _).mpr ?_).symm
  rw [text] at solid ⊢
  refine ⟨⟨(source.toList.take last.stop).take first.start, source.toList.drop last.stop, ?_, blankFront, ?_⟩, head,
    solid⟩
  · rw [List.take_append_drop, List.take_append_drop]
  · exact blank_of_no_token _ _ (scan_behind 0 source.toList others [] last back)

structure Cut (source : String) (i j : Nat) (text : String) : Prop where
  filled : i < j
  slice : ∃ first last, (scan source)[i]? = some first ∧ (scan source)[j - 1]? = some last ∧
    text = String.ofList ((source.toList.take last.stop).drop first.start)

inductive InOrder {α : Type} (place : Nat → Nat → α → Prop) : Nat → Nat → List α → Prop where
  | nil {i j : Nat} (fits : i ≤ j) : InOrder place i j []
  | cons {i k l j : Nat} {x : α} {rest : List α} (gap : i ≤ k) (here : place k l x) (onward : InOrder place l j rest) :
      InOrder place i j (x :: rest)

-- A node is the text of the tokens from `i` up to `j`. The nodes below it stand in order among these, and its generic
-- arguments or its operand behind them.
inductive Placed (source : String) : Nat → Nat → Expr String → Prop where
  | node {i k j : Nat} {e : Expr String} (own : Cut source i j e.source)
      (below : InOrder (Placed source) i k e.children) (behind : InOrder (Cut source) k j e.extras) :
      Placed source i j e

theorem cut_of_run (source : String) (before run after : List Token) (filled : run ≠ [])
    (whole : scan source = before ++ run ++ after) :
    Cut source before.length (before.length + run.length) (textOf source.toList run) := by
  have length := List.length_pos_iff.mpr filled
  have inside (n : Nat) (bound : n < run.length) : (scan source)[before.length + n]? = run[n]? := by
    rw [whole, List.append_assoc, List.getElem?_append_right (Nat.le_add_right _ _), Nat.add_sub_cancel_left,
      List.getElem?_append_left bound]
  obtain ⟨first, head⟩ : ∃ first, run.head? = some first := ⟨_, List.head?_eq_some_head filled⟩
  have ending := List.getLast?_eq_some_getLast filled
  refine ⟨by omega, first, run.getLast filled, ?_, ?_, ?_⟩
  · rw [← head, List.head?_eq_getElem?]
    exact inside 0 length
  · rw [Nat.add_sub_assoc length, inside _ (by omega), ← List.getLast?_eq_getElem?]
    exact ending
  · rw [← text_of_eq source.toList first _ run head ending, String.ofList_toList]

theorem in_row_append (run : List Token) (xs ys : List (List Token)) (row : InRow run (xs ++ ys)) :
    ∃ front back, run = front ++ back ∧ InRow front xs ∧ InRow back ys := by
  induction xs generalizing run with
  | nil => exact ⟨[], run, rfl, .nil [], row⟩
  | cons x xs ih =>
      cases row with
      | cons gap filled onward =>
          obtain ⟨front, back, rfl, first, second⟩ := ih _ onward
          exact ⟨gap ++ (x ++ front), back, by simp, .cons gap filled first, second⟩

theorem in_order_of_row {α β : Type} (source : String) (place : Nat → Nat → β → Prop) (tokens : α → List Token) (f : α → β)
    (xs : List α) (placed : ∀ x ∈ xs, ∀ before after, tokens x ≠ [] → scan source = before ++ tokens x ++ after →
      place before.length (before.length + (tokens x).length) (f x))
    (before run after : List Token) (whole : scan source = before ++ run ++ after) (row : InRow run (xs.map tokens)) :
    InOrder place before.length (before.length + run.length) (xs.map f) := by
  induction xs generalizing before run with
  | nil => exact .nil (Nat.le_add_right _ _)
  | cons x xs ih =>
      obtain ⟨here, others⟩ := List.forall_mem_cons.mp placed
      cases row with
      | cons gap filled onward =>
          rename_i rest
          have own := here (before ++ gap) (rest ++ after) filled (by simp [whole])
          have later := ih others (before ++ gap ++ tokens x) rest (by simp [whole]) onward
          have begins : (before ++ gap ++ tokens x).length = (before ++ gap).length + (tokens x).length :=
            List.length_append
          have ends : (before ++ gap ++ tokens x).length + rest.length =
              before.length + (gap ++ (tokens x ++ rest)).length := by
            simp only [List.length_append]
            omega
          rw [ends, begins] at later
          exact .cons (List.length_append ▸ Nat.le_add_right _ _) own later

theorem placed_of_composed (source : String) (tree : Tree) (composed : Composed tree) (before after : List Token)
    (whole : scan source = before ++ tree.source ++ after) :
    Placed source before.length (before.length + tree.source.length) (tree.map (textOf source.toList)) := by
  induction composed generalizing before after with
  | node e filled row each ih =>
      obtain ⟨front, back, split, nodes, behind⟩ := in_row_append e.source _ _ row
      have own := cut_of_run source before e.source after filled whole
      have below := in_order_of_row source (Placed source) Expr.source (Expr.map (textOf source.toList)) e.children
        (fun c present before after _ whole => ih c present before after whole) before front (back ++ after)
        (by simp [whole, split]) nodes
      have parts := in_order_of_row source (Cut source) id (textOf source.toList) e.extras
        (fun run _ before after filled whole => cut_of_run source before run after filled whole) (before ++ front) back
        after (by simp [whole, split]) (by rwa [List.map_id])
      rw [← children_map] at below
      rw [← extras_map] at parts
      rw [← source_map (textOf source.toList)] at own
      have ends : (before ++ front).length + back.length = before.length + e.source.length := by
        rw [split, List.length_append, List.length_append, Nat.add_assoc]
      rw [ends, List.length_append] at parts
      exact .node own below parts

/-- An accepted source is, but for the white space around it, the text of the expression, and every node of it is
the text of some of its tokens, from the first to the last: the nodes below a node, its generic arguments and its
operand are texts of tokens among its own, one behind the other. -/
theorem accepted_nodes_placed (source : String) (e : Expr String) (accepted : read source = .ok e) :
    e.source = trimmed source ∧ Placed source 0 (scan source).length e := by
  obtain ⟨tree, parsed, rfl⟩ := (read_ok_iff source e).mp accepted
  obtain ⟨same, composed⟩ := expression_stands (scan source) tree parsed
  have filled := composed.filled
  rw [same] at filled
  constructor
  · rw [source_map, same, text_of_scan source filled]
  · have placed := placed_of_composed source tree composed [] [] (by simp [same])
    rwa [same, List.length_nil, Nat.zero_add] at placed

def spacedSource : String := "  [\"k\" : Box< Int, any P >.self, (a, .b): any  Q ] "

def spacedTree : Expr String :=
  .dictionary "[\"k\" : Box< Int, any P >.self, (a, .b): any  Q ]"
    [(.string "\"k\"" "k", .member "Box< Int, any P >.self"
        (.specialization "Box< Int, any P >" (.reference "Box" "Box") ["Int", "any P"]) "self"),
      (.tuple "(a, .b)" [.reference "a" "a", .implicitMember ".b" "b"], .prefixed "any  Q" "any" "Q")]

theorem spaced_nodes_placed :
    read spacedSource = .ok spacedTree ∧ spacedTree.source = trimmed spacedSource ∧ Placed spacedSource 0 23 spacedTree :=
  have accepted : read spacedSource = .ok spacedTree := by cbv
  have size : (scan spacedSource).length = 23 := by cbv
  ⟨accepted, size ▸ accepted_nodes_placed spacedSource spacedTree accepted⟩

end ScreenDispatch.Expr
