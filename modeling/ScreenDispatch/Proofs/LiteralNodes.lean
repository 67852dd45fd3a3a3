import ScreenDispatch.Proofs.StringLiterals
import ScreenDispatch.Proofs.TokenRuns

/-!
The string literals in an expression. Each of them, however deep it stands, was read from one string token of the source.
-/
set_option autoImplicit false

namespace ScreenDispatch.Expr

open Token Script

variable {α β : Type}

def AllLiteral (nodes : List Tree) : Prop := ∀ n ∈ nodes, OneString n.source n

theorem AllLiteral.both {xs ys : List Tree} (first : AllLiteral xs) (second : AllLiteral ys) : AllLiteral (xs ++ ys) :=
  List.forall_mem_append.mpr ⟨first, second⟩

theorem all_literal_plain (e : Tree) (plain : NoString e) (below : AllLiteral e.inner) : AllLiteral e.nodes :=
  List.forall_mem_cons.mpr ⟨.inl plain, below⟩

def literalConditions : Conditions where
  good
    | .suffixes _ node, _, e => AllLiteral node.nodes → AllLiteral e.nodes
    | .expression, _, e => AllLiteral e.nodes
    | .primary, _, e => AllLiteral e.nodes
    | .collection _, _, e => AllLiteral e.nodes
    | .parenthesized _, _, e => AllLiteral e.nodes
    | .entries, _, entries => AllLiteral (innerEntries entries)
    | .items, _, items => AllLiteral (innerItems items)
    | .tupleItems, _, items => AllLiteral (innerItems items)
    | _, _, _ => True
  whole _ _ e := AllLiteral e.nodes

theorem suffixes_literals (before : List Token) (node : Tree) :
    (suffixesScript before node).Ensures literalConditions (literalConditions.good (.suffixes before node)) [] := by
  have stopped : (Script.done node).Ensures literalConditions (literalConditions.good (.suffixes before node)) [] := id
  refine ⟨fun dot _ name => ?_, ?_⟩
  · dsimp only
    split
    · exact fun piece e onward nodes => onward (all_literal_plain _ nofun nodes)
    · trivial
  · split
    · exact ⟨fun opening _ => fun arguments runs _ piece e onward nodes => onward (all_literal_plain _ nofun nodes), stopped⟩
    · exact stopped

theorem expression_literals : expressionScript.Ensures literalConditions (literalConditions.good .expression) [] :=
  fun _ _ nodes _ _ onward => onward nodes

theorem tuple_item_literals (run : List Token) :
    tupleItem.Ensures literalConditions (literalConditions.good .tupleItems) run :=
  fun _ _ nodes => ⟨fun _ _ => fun _ _ others => nodes.both others, nodes.both nofun⟩

theorem entries_literals : entriesScript.Ensures literalConditions (literalConditions.good .entries) [] := by
  refine ⟨fun comma _ => ⟨fun closing _ => nofun, fun first key keys => ?_⟩,
    ensures_expect _ _ _ _ _ fun closing => nofun⟩
  exact ensures_expect _ _ _ _ _ fun colon => fun second value values piece others inside => keys.both (values.both inside)

theorem items_literals : itemsScript.Ensures literalConditions (literalConditions.good .items) [] :=
  ⟨fun _ _ => ⟨fun _ _ => nofun, fun _ _ nodes _ _ others => nodes.both others⟩,
    ensures_expect _ _ _ _ _ fun _ => nofun⟩

theorem collection_literals (before : List Token) :
    (collectionScript before).Ensures literalConditions (literalConditions.good (.collection before)) [] := by
  refine ⟨fun colon _ => ensures_expect _ _ _ _ _ fun closing => all_literal_plain _ nofun nofun,
    fun closing _ => all_literal_plain _ nofun nofun, fun first key keys => ⟨fun colon _ => ?_, ?_⟩⟩
  · exact fun second value values piece others inside => all_literal_plain _ nofun (keys.both (values.both inside))
  · exact fun piece others inside => all_literal_plain _ nofun (keys.both inside)

theorem tuple_end_literals (before run : List Token) (items : List Tree) (inside : AllLiteral (innerItems items)) :
    (tupleEnd before items).Ensures literalConditions (literalConditions.good (.parenthesized before)) run := by
  intro piece arrow _
  cases arrow with
  | true => exact all_literal_plain _ nofun nofun
  | false => exact all_literal_plain _ nofun inside

theorem parenthesized_literals (before : List Token) :
    (parenthesizedScript before).Ensures literalConditions (literalConditions.good (.parenthesized before)) [] :=
  ⟨fun _ _ => tuple_end_literals before _ [] nofun,
    fun _ items inside => ensures_expect _ _ _ _ _ fun _ => tuple_end_literals before _ items inside⟩

theorem plain_name_literals (t : Token) :
    (plainName t).Ensures literalConditions (literalConditions.good .primary) [t] := by
  unfold plainName
  split <;> exact all_literal_plain _ nofun nofun

theorem symbol_first_literals (t : Token) :
    (symbolFirst t).Ensures literalConditions (literalConditions.good .primary) [t] := by
  unfold symbolFirst
  split
  · exact ⟨fun digits _ => all_literal_plain _ nofun nofun, trivial⟩
  split
  · intro name
    dsimp only
    split
    · exact all_literal_plain _ nofun nofun
    · trivial
  split
  · exact fun piece e nodes => nodes
  split
  · exact fun piece e nodes => nodes
  split
  · exact fun piece => all_literal_plain _ nofun nofun
  · trivial

theorem primary_literals : primaryScript.Ensures literalConditions (literalConditions.good .primary) [] := by
  intro t
  dsimp only [List.nil_append]
  cases kind : t.kind with
  | ident =>
      dsimp only
      split
      · exact ⟨fun type => all_literal_plain _ nofun nofun, plain_name_literals t⟩
      · exact plain_name_literals t
  | string => exact List.forall_mem_singleton.mpr (.inr ⟨t, rfl, kind, rfl⟩)
  | number => exact all_literal_plain _ nofun nofun
  | arrow | punct | other => exact symbol_first_literals t

theorem element_literals (stops : List String) (ts : List Token) (e : Tree) (rest : List Token)
    (expression : ∀ e rest, reads .expression ts = some (e, rest) → AllLiteral e.nodes)
    (read : outcome (element stops ts) = some (e, rest)) : AllLiteral e.nodes := by
  obtain whole | ⟨rfl, -, -⟩ := element_cases stops ts e rest read
  · exact expression e rest whole
  · exact all_literal_plain _ nofun nofun

theorem reads_literals (p : Production) (ts : List Token) : ∀ value rest, reads p ts = some (value, rest) →
    literalConditions.good p (taken ts rest) value := by
  induction p, ts using production_induction with
  | step p ts calls =>
      have meets : (script p).Calls (Meets literalConditions) ts ts := by
        refine Script.Calls.imp (fun q us good => ⟨good, ?_⟩) ts (script p) ts calls
        rintro rfl stops e rest found
        exact element_literals stops us e rest good found
      have ensured := reads_ensure literalConditions p ts meets
      cases p with
      | suffixes before node => exact ensured (suffixes_literals before node)
      | expression => exact ensured expression_literals
      | primary => exact ensured primary_literals
      | collection before => exact ensured (collection_literals before)
      | parenthesized before => exact ensured (parenthesized_literals before)
      | entries => exact ensured entries_literals
      | items => exact ensured items_literals
      | tupleItems => exact ensured ⟨fun _ _ _ _ => tuple_item_literals _, tuple_item_literals _⟩
      | _ => exact fun _ _ _ => trivial

theorem node_part_of_inner (e : Expr α) (below : ∀ n ∈ e.inner, n.source ∈ e.parts) :
    ∀ n ∈ e.nodes, n.source ∈ e.parts := by
  refine List.forall_mem_cons.mpr ⟨?_, below⟩
  cases e <;> simp [Expr.source, parts]

mutual
theorem inner_part (e : Expr α) : ∀ n ∈ e.inner, n.source ∈ e.parts := by
  intro n inside
  cases e with
  | member source base name => exact List.mem_cons_of_mem _ (node_part_of_inner base (inner_part base) n inside)
  | specialization source base arguments =>
      have part := node_part_of_inner base (inner_part base) n inside
      exact List.mem_cons_of_mem _ (List.mem_append_left _ part)
  | dictionary source entries => exact List.mem_cons_of_mem _ (inner_entry_part entries n inside)
  | array source items | tuple source items => exact List.mem_cons_of_mem _ (inner_item_part items n inside)
  | _ => cases inside

theorem inner_item_part (items : List (Expr α)) : ∀ n ∈ innerItems items, n.source ∈ itemParts items := by
  intro n inside
  cases items with
  | nil => cases inside
  | cons e rest =>
      obtain own | behind := List.mem_append.mp inside
      · exact List.mem_append_left _ (node_part_of_inner e (inner_part e) n own)
      · exact List.mem_append_right _ (inner_item_part rest n behind)

theorem inner_entry_part (entries : List (Expr α × Expr α)) :
    ∀ n ∈ innerEntries entries, n.source ∈ entryParts entries := by
  intro n inside
  cases entries with
  | nil => cases inside
  | cons entry rest =>
      obtain ⟨key, value⟩ := entry
      obtain first | others := List.mem_append.mp inside
      · exact List.mem_append_left _ (node_part_of_inner key (inner_part key) n first)
      refine List.mem_append_right _ ?_
      obtain second | behind := List.mem_append.mp others
      · exact List.mem_append_left _ (node_part_of_inner value (inner_part value) n second)
      · exact List.mem_append_right _ (inner_entry_part rest n behind)
end

theorem string_of_map (f : α → β) (e : Expr α) (text : β) (value : String) (same : e.map f = .string text value) :
    ∃ source, e = .string source value ∧ f source = text := by
  cases e with
  | string source own =>
      obtain ⟨rfl, rfl⟩ := Expr.string.inj same
      exact ⟨source, rfl, rfl⟩
  | _ => cases same

theorem literal_token (ts : List Token) (tree : Tree) (read : reads .expression ts = some (tree, []))
    (source : List Token) (value : String) (inside : .string source value ∈ tree.nodes) :
    ∃ t ∈ ts, t.kind = .string ∧ source = [t] ∧ value = contents t.value := by
  obtain other | ⟨t, rfl, literal, same⟩ := reads_literals .expression ts tree [] read _ inside
  · exact absurd rfl (other source value)
  · have run := expression_runs_inside ts tree read _ (node_part_of_inner tree (inner_part tree) _ inside)
    exact ⟨t, run.subset List.mem_cons_self, literal, rfl, (Expr.string.inj same).2⟩

end ScreenDispatch.Expr
