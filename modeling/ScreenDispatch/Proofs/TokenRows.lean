import ScreenDispatch.Proofs.Nodes
import ScreenDispatch.Proofs.ScriptOutlook

/-!
Where the nodes of an expression stand. The tokens of a node are in a row, and those of the nodes below it, of its
generic arguments and of its operand are parts of that row, one behind the other.
-/
set_option autoImplicit false

namespace ScreenDispatch.Expr

open Token Script

variable {α β : Type}

def children : Expr α → List (Expr α)
  | .member _ base _ | .specialization _ base _ => [base]
  | .dictionary _ entries => entries.flatMap fun entry => [entry.1, entry.2]
  | .array _ items | .tuple _ items => items
  | _ => []

def extras : Expr α → List α
  | .specialization _ _ arguments => arguments
  | .prefixed _ _ operand => [operand]
  | _ => []

theorem children_map (f : α → β) (e : Expr α) : (e.map f).children = e.children.map (Expr.map f) := by
  cases e with
  | dictionary source entries =>
      rw [Expr.map, children, children, map_entries_eq, List.flatMap_map, List.map_flatMap]
      rfl
  | array source items | tuple source items => rw [Expr.map, children, children, map_items_eq]
  | _ => simp [Expr.map, children]

theorem extras_map (f : α → β) (e : Expr α) : (e.map f).extras = e.extras.map f := by
  cases e <;> simp [Expr.map, extras]

inductive InRow : List Token → List (List Token) → Prop where
  | nil (run : List Token) : InRow run []
  | cons (before : List Token) {piece rest : List Token} {pieces : List (List Token)} (filled : piece ≠ [])
      (onward : InRow rest pieces) : InRow (before ++ (piece ++ rest)) (piece :: pieces)

section InRow

variable {run other : List Token} {xs ys : List (List Token)}

theorem InRow.after (row : InRow run xs) (before : List Token) : InRow (before ++ run) xs := by
  cases row with
  | nil => exact .nil _
  | cons gap filled onward =>
      rw [← List.append_assoc]
      exact .cons (before ++ gap) filled onward

theorem InRow.both (first : InRow run xs) (second : InRow other ys) : InRow (run ++ other) (xs ++ ys) := by
  induction first with
  | nil run => exact second.after run
  | cons gap filled onward ih =>
      rw [List.append_assoc, List.append_assoc]
      exact .cons gap filled ih

theorem InRow.before (row : InRow run xs) (behind : List Token) : InRow (run ++ behind) xs := by
  have both := row.both (.nil behind)
  rwa [List.append_nil] at both

theorem in_row_one (run : List Token) (filled : run ≠ []) : InRow run [run] := by
  have row := InRow.cons [] filled (.nil [])
  rwa [List.nil_append, List.append_nil] at row

end InRow

inductive Composed : Tree → Prop where
  | node (e : Tree) (filled : e.source ≠ []) (row : InRow e.source (e.children.map source ++ e.extras))
      (each : ∀ c ∈ e.children, Composed c) : Composed e

structure Stands (run : List Token) (e : Tree) : Prop where
  source : e.source = run
  composed : Composed e

structure StandInRow (run : List Token) (es : List Tree) : Prop where
  row : InRow run (es.map source)
  each : ∀ e ∈ es, Composed e

theorem Composed.filled {e : Tree} (composed : Composed e) : e.source ≠ [] := by
  cases composed
  assumption

theorem stands_bare (run : List Token) (e : Tree) (source : e.source = run) (filled : run ≠ []) (nothing : e.children = [])
    (bare : e.extras = []) : Stands run e := by
  refine ⟨source, .node e (source ▸ filled) ?_ ?_⟩
  · rw [nothing, bare]
    exact .nil _
  · rw [nothing]
    nofun

section StandInRow

variable {run other : List Token} {es more : List Tree} {e : Tree}

theorem stand_none (run : List Token) : StandInRow run [] := ⟨.nil run, nofun⟩

theorem Stands.alone (stands : Stands run e) : StandInRow run [e] := by
  obtain ⟨rfl, composed⟩ := stands
  exact ⟨in_row_one _ composed.filled, List.forall_mem_singleton.mpr composed⟩

theorem StandInRow.after (row : StandInRow run es) (before : List Token) : StandInRow (before ++ run) es :=
  ⟨row.row.after before, row.each⟩

theorem StandInRow.before (row : StandInRow run es) (behind : List Token) : StandInRow (run ++ behind) es :=
  ⟨row.row.before behind, row.each⟩

theorem StandInRow.both (first : StandInRow run es) (second : StandInRow other more) :
    StandInRow (run ++ other) (es ++ more) :=
  ⟨by rw [List.map_append]; exact first.row.both second.row, List.forall_mem_append.mpr ⟨first.each, second.each⟩⟩

theorem StandInRow.stands (row : StandInRow run es) (e : Tree) (source : e.source = run) (filled : run ≠ [])
    (same : e.children = es) (bare : e.extras = []) : Stands run e := by
  refine ⟨source, .node e (source ▸ filled) ?_ (same ▸ row.each)⟩
  rw [bare, List.append_nil, same, source]
  exact row.row

end StandInRow

def rowOutlook : Outlook where
  good
    | .type, run, _, _ => run ≠ []
    | .typeOperand, run, _, _ => run ≠ []
    | .typeArguments, run, arguments, _ => InRow run arguments
    | .suffixes before node, run, e, _ => Stands before node → Stands (before ++ run) e
    | .expression, run, e, _ => Stands run e
    | .primary, run, e, _ => Stands run e
    | .collection before, run, e, _ => Stands (before ++ run) e
    | .parenthesized before, run, e, _ => Stands (before ++ run) e
    | .entries, run, entries, _ => StandInRow run (entries.flatMap fun entry => [entry.1, entry.2])
    | .items, run, items, _ => StandInRow run items
    | .tupleItems, run, items, _ => StandInRow run items
    | _, _, _, _ => True
  whole _ run e _ := Stands run e

section Scripts

variable (ts : List Token)

theorem type_filled : typeScript.Secures rowOutlook (rowOutlook.good .type) [] ts :=
  fun piece _ _ _ (filled : piece ≠ []) => secures_of_grown _ _ _ _ _ fun more _ _ =>
    List.append_ne_nil_of_left_ne_nil filled more

theorem type_operand_filled : typeOperandScript.Secures rowOutlook (rowOutlook.good .typeOperand) [] ts :=
  fun t _ _ => secures_of_grown _ _ _ _ _ fun more _ _ => List.cons_ne_nil t more

theorem type_arguments_rows : typeArgumentsScript.Secures rowOutlook (rowOutlook.good .typeArguments) [] ts := by
  intro first _ _ _ filled
  have own : InRow first [first] := in_row_one first filled
  refine ⟨fun comma _ _ _ piece others _ _ row => (own.before [comma]).both row, fun _ => ?_⟩
  exact secures_expect _ _ _ _ _ _ fun closing _ _ _ => own.before [closing]

theorem suffixes_rows (before : List Token) (node : Tree) :
    (suffixesScript before node).Secures rowOutlook (rowOutlook.good (.suffixes before node)) [] ts := by
  have stopped (us : List Token) :
      (Script.done node).Secures rowOutlook (rowOutlook.good (.suffixes before node)) [] us := by
    intro stands
    rwa [List.append_nil]
  refine ⟨fun dot _ _ _ name _ _ => ?_, fun _ => ?_⟩
  · dsimp only
    split
    · intro piece e _ _ onward stands
      rw [List.nil_append, ← List.append_assoc]
      refine onward ((stands.alone.before [dot, name]).stands _ rfl ?_ rfl rfl)
      simp
    · trivial
  · split
    · refine ⟨fun opening _ _ _ arguments runs _ _ inside piece e _ _ onward stands => ?_, fun _ => stopped _⟩
      rw [List.nil_append, ← List.append_assoc]
      refine onward ⟨rfl, .node _ ?_ ?_ (List.forall_mem_singleton.mpr stands.composed)⟩
      · change before ++ ([opening] ++ arguments) ≠ []
        simp
      · exact stands.alone.row.both (inside.after [opening])
    · exact stopped _

theorem expression_rows : expressionScript.Secures rowOutlook (rowOutlook.good .expression) [] ts :=
  fun _ _ _ _ stands _ _ _ _ onward => onward stands

theorem tuple_item_rows (run : List Token) :
    tupleItem.Secures rowOutlook (rowOutlook.good .tupleItems) run ts := by
  intro first item _ _ stands
  refine ⟨fun comma _ _ _ piece others _ _ row => ?_, fun _ => ?_⟩
  · exact ((stands.alone.after run).before [comma]).both row
  · exact stands.alone.after run

theorem entries_rows : entriesScript.Secures rowOutlook (rowOutlook.good .entries) [] ts := by
  refine ⟨fun comma _ _ _ => ⟨fun _ _ _ _ => stand_none _, fun _ first key _ _ keyStands => ?_⟩,
    fun _ => secures_expect _ _ _ _ _ _ fun _ _ _ _ => stand_none _⟩
  refine secures_expect _ _ _ _ _ _ fun colon _ _ _ => fun second value _ _ valueStands piece others _ _ row => ?_
  exact (((keyStands.alone.after _).before [colon]).both valueStands.alone).both row

theorem items_rows : itemsScript.Secures rowOutlook (rowOutlook.good .items) [] ts := by
  refine ⟨fun comma _ _ _ => ⟨fun _ _ _ _ => stand_none _, fun _ first item _ _ stands piece others _ _ row => ?_⟩,
    fun _ => secures_expect _ _ _ _ _ _ fun _ _ _ _ => stand_none _⟩
  exact (stands.alone.after _).both row

theorem collection_rows (before : List Token) :
    (collectionScript before).Secures rowOutlook (rowOutlook.good (.collection before)) [] ts := by
  refine ⟨fun colon _ _ _ => ?_, fun _ => ⟨fun closing _ _ _ => stands_bare _ _ rfl (by simp) rfl rfl,
    fun _ first key _ _ keyStands => ⟨fun colon _ _ _ => ?_, fun _ => ?_⟩⟩⟩
  · exact secures_expect _ _ _ _ _ _ fun closing _ _ _ => stands_bare _ _ rfl (by simp) rfl rfl
  · intro second value _ _ valueStands piece others _ _ row
    have inside := ((keyStands.alone.before [colon]).both valueStands.alone).both row
    exact (inside.after before).stands _ rfl (by simp) rfl rfl
  · intro piece others _ _ row
    have inside := keyStands.alone.both row
    have some : first ≠ [] := keyStands.source ▸ keyStands.composed.filled
    exact (inside.after before).stands _ rfl (by simp [some]) rfl rfl

theorem tuple_end_rows (before run : List Token) (filled : run ≠ []) (items : List Tree) (row : StandInRow run items) :
    (tupleEnd before items).Secures rowOutlook (rowOutlook.good (.parenthesized before)) run ts := by
  intro piece arrow _ _ _
  have some : before ++ (run ++ piece) ≠ [] := by simp [filled]
  cases arrow with
  | true => exact stands_bare _ _ rfl some rfl rfl
  | false => exact ((row.before piece).after before).stands _ rfl some rfl rfl

theorem parenthesized_rows (before : List Token) :
    (parenthesizedScript before).Secures rowOutlook (rowOutlook.good (.parenthesized before)) [] ts := by
  refine ⟨fun closing rest _ _ => tuple_end_rows rest before _ (by simp) [] (stand_none _),
    fun _ piece items _ _ row => ?_⟩
  refine secures_expect _ _ _ _ _ _ fun closing rest _ _ => ?_
  exact tuple_end_rows rest before _ (by simp) items ((row.after []).before [closing])

theorem plain_name_rows (t : Token) : (plainName t).Secures rowOutlook (rowOutlook.good .primary) [t] ts := by
  unfold plainName
  split <;> exact stands_bare _ _ rfl (by simp) rfl rfl

theorem symbol_first_rows (t : Token) :
    (symbolFirst t).Secures rowOutlook (rowOutlook.good .primary) [t] ts := by
  unfold symbolFirst
  split
  · exact ⟨fun digits _ _ _ => stands_bare _ _ rfl (by simp) rfl rfl, fun _ => trivial⟩
  split
  · intro name _ _
    dsimp only
    split
    · exact stands_bare _ _ rfl (by simp) rfl rfl
    · trivial
  split
  · exact fun piece e _ _ stands => stands
  split
  · exact fun piece e _ _ stands => stands
  split
  · exact fun inside closing _ _ _ => stands_bare _ _ rfl (by simp) rfl rfl
  · trivial

theorem primary_rows : primaryScript.Secures rowOutlook (rowOutlook.good .primary) [] ts := by
  intro t rest _
  dsimp only [List.nil_append]
  cases t.kind with
  | ident =>
      dsimp only
      split
      · refine ⟨fun type _ _ filled => ?_, plain_name_rows _ t⟩
        exact ⟨rfl, .node _ (List.cons_ne_nil _ _) ((in_row_one type filled).after [t]) nofun⟩
      · exact plain_name_rows _ t
  | string | number => exact stands_bare _ _ rfl (by simp) rfl rfl
  | arrow | punct | other => exact symbol_first_rows _ t

end Scripts

theorem element_rows (stops : List String) (ts : List Token) (e : Tree) (rest : List Token)
    (expression : ∀ e rest, reads .expression ts = some (e, rest) → Stands (taken ts rest) e)
    (read : outcome (element stops ts) = some (e, rest)) : Stands (taken ts rest) e := by
  obtain whole | ⟨rfl, shorter, -⟩ := element_cases stops ts e rest read
  · exact expression e rest whole
  · refine stands_bare _ _ rfl (fun empty => ?_) rfl rfl
    have length := congrArg List.length empty
    simp only [taken, List.length_take, List.length_nil] at length
    omega

theorem reads_rows (p : Production) (ts : List Token) : ∀ value rest, reads p ts = some (value, rest) →
    rowOutlook.good p (taken ts rest) value rest := by
  refine always_secured rowOutlook (fun p ts => ?_) element_rows p ts
  cases p with
  | type => exact type_filled ts
  | typeOperand => exact type_operand_filled ts
  | typeArguments => exact type_arguments_rows ts
  | suffixes before node => exact suffixes_rows ts before node
  | expression => exact expression_rows ts
  | primary => exact primary_rows ts
  | collection before => exact collection_rows ts before
  | parenthesized before => exact parenthesized_rows ts before
  | entries => exact entries_rows ts
  | items => exact items_rows ts
  | tupleItems => exact ⟨fun _ _ rest _ _ _ => tuple_item_rows rest _, tuple_item_rows ts []⟩
  | _ => exact secures_of_grown _ _ _ _ _ fun _ _ _ => trivial

theorem expression_stands (ts : List Token) (tree : Tree) (read : reads .expression ts = some (tree, [])) :
    Stands ts tree := by
  have stands := reads_rows .expression ts tree [] read
  rwa [taken_nil] at stands

end ScreenDispatch.Expr
