import ScreenDispatch.Proofs.Rereading

/-!
The runs of tokens that an expression holds: those its nodes were read from, the generic arguments and the operands.
Each of them stands in a row in what was read, so the text cut out for it has these tokens and no others.
-/
set_option autoImplicit false

namespace ScreenDispatch.Expr

open Token Script

variable {α β : Type}

mutual
def parts : Expr α → List α
  | .member source base _ => source :: base.parts
  | .specialization source base arguments => source :: (base.parts ++ arguments)
  | .dictionary source entries => source :: entryParts entries
  | .array source items | .tuple source items => source :: itemParts items
  | .prefixed source _ operand => [source, operand]
  | .reference source _ | .implicitMember source _ | .string source _ | .number source | .keyword source
  | .closure source | .functionType source | .unparsed source => [source]

def itemParts : List (Expr α) → List α
  | [] => []
  | e :: rest => e.parts ++ itemParts rest

def entryParts : List (Expr α × Expr α) → List α
  | [] => []
  | (key, value) :: rest => key.parts ++ (value.parts ++ entryParts rest)
end

mutual
theorem map_of_parts (f g : α → β) (e : Expr α) (same : ∀ x ∈ e.parts, f x = g x) : e.map f = e.map g := by
  cases e with
  | member source base name =>
      obtain ⟨first, others⟩ := List.forall_mem_cons.mp same
      rw [Expr.map, Expr.map, first, map_of_parts f g base others]
  | specialization source base arguments =>
      obtain ⟨first, others⟩ := List.forall_mem_cons.mp same
      obtain ⟨inside, behind⟩ := List.forall_mem_append.mp others
      rw [Expr.map, Expr.map, first, map_of_parts f g base inside, List.map_congr_left behind]
  | dictionary source entries =>
      obtain ⟨first, others⟩ := List.forall_mem_cons.mp same
      rw [Expr.map, Expr.map, first, entries_of_parts f g entries others]
  | array source items | tuple source items =>
      obtain ⟨first, others⟩ := List.forall_mem_cons.mp same
      rw [Expr.map, Expr.map, first, items_of_parts f g items others]
  | prefixed source word operand =>
      rw [Expr.map, Expr.map, same source (by simp [parts]), same operand (by simp [parts])]
  | reference source | implicitMember source | string source | number source | keyword source | closure source
  | functionType source | unparsed source => rw [Expr.map, Expr.map, same source (by simp [parts])]

theorem items_of_parts (f g : α → β) (items : List (Expr α)) (same : ∀ x ∈ itemParts items, f x = g x) :
    mapItems f items = mapItems g items := by
  cases items with
  | nil => rfl
  | cons e rest =>
      obtain ⟨first, others⟩ := List.forall_mem_append.mp same
      rw [mapItems, mapItems, map_of_parts f g e first, items_of_parts f g rest others]

theorem entries_of_parts (f g : α → β) (entries : List (Expr α × Expr α))
    (same : ∀ x ∈ entryParts entries, f x = g x) : mapEntries f entries = mapEntries g entries := by
  cases entries with
  | nil => rfl
  | cons entry rest =>
      obtain ⟨key, value⟩ := entry
      obtain ⟨first, others⟩ := List.forall_mem_append.mp same
      obtain ⟨second, behind⟩ := List.forall_mem_append.mp others
      rw [mapEntries, mapEntries, map_of_parts f g key first, map_of_parts f g value second,
        entries_of_parts f g rest behind]
end

def AllInfix (run : List Token) (runs : List (List Token)) : Prop := ∀ x ∈ runs, x <:+: run

section AllInfix

variable {run : List Token} {xs ys : List (List Token)}

theorem AllInfix.both (first : AllInfix run xs) (second : AllInfix run ys) : AllInfix run (xs ++ ys) :=
  List.forall_mem_append.mpr ⟨first, second⟩

theorem AllInfix.whole (others : AllInfix run xs) : AllInfix run (run :: xs) :=
  List.forall_mem_cons.mpr ⟨List.infix_refl run, others⟩

theorem AllInfix.after (all : AllInfix run xs) (before : List Token) : AllInfix (before ++ run) xs :=
  fun x present => (all x present).trans (List.suffix_append before run).isInfix

theorem AllInfix.before (all : AllInfix run xs) (after : List Token) : AllInfix (run ++ after) xs :=
  fun x present => (all x present).trans (List.prefix_append run after).isInfix

theorem all_infix_nil (run : List Token) : AllInfix run [] := List.forall_mem_nil _

end AllInfix

def runConditions : Conditions where
  good
    | .typeArguments, run, arguments => AllInfix run arguments
    | .suffixes before node, run, e => AllInfix before node.parts → AllInfix (before ++ run) e.parts
    | .expression, run, e => AllInfix run e.parts
    | .primary, run, e => AllInfix run e.parts
    | .collection before, run, e => AllInfix (before ++ run) e.parts
    | .parenthesized before, run, e => AllInfix (before ++ run) e.parts
    | .entries, run, entries => AllInfix run (entryParts entries)
    | .items, run, items => AllInfix run (itemParts items)
    | .tupleItems, run, items => AllInfix run (itemParts items)
    | _, _, _ => True
  whole _ run e := AllInfix run e.parts

theorem type_arguments_runs :
    typeArgumentsScript.Ensures runConditions (runConditions.good .typeArguments) [] := by
  intro first _ _
  have own : AllInfix first [first] := (all_infix_nil first).whole
  exact ⟨fun comma _ => fun piece others good => ((own.before _).before _).both (good.after _),
    ensures_expect _ _ _ _ _ fun closing => own.before _⟩

theorem longer_runs (before xs piece : List Token) (longer e : Tree)
    (good : runConditions.good (.suffixes (before ++ xs) longer) piece e) (held : AllInfix (before ++ xs) longer.parts) :
    AllInfix (before ++ (xs ++ piece)) e.parts := by
  rw [← List.append_assoc]
  exact good held

theorem suffixes_runs (before : List Token) (node : Tree) :
    (suffixesScript before node).Ensures runConditions (runConditions.good (.suffixes before node)) [] := by
  have stopped : (Script.done node).Ensures runConditions (runConditions.good (.suffixes before node)) [] :=
    fun held => held.before []
  refine ⟨fun dot _ name => ?_, ?_⟩
  · dsimp only
    split
    · exact fun piece e good held => longer_runs before _ piece _ e good (held.before _).whole
    · trivial
  · split
    · refine ⟨fun opening _ => fun arguments runs held piece e good below => ?_, stopped⟩
      have inside : AllInfix (before ++ ([opening] ++ arguments)) runs := (held.after _).after _
      exact longer_runs before _ piece _ e good ((below.before _).both inside).whole
    · exact stopped

theorem expression_runs : expressionScript.Ensures runConditions (runConditions.good .expression) [] := by
  intro first node held piece e good
  exact good held

theorem tuple_item_runs (run : List Token) :
    tupleItem.Ensures runConditions (runConditions.good .tupleItems) run := by
  intro first item held
  refine ⟨fun comma _ => fun piece others good => ?_, ?_⟩
  · exact (((held.after _).before _).before _).both (good.after _)
  · exact (held.after _).both (all_infix_nil _)

theorem entries_runs : entriesScript.Ensures runConditions (runConditions.good .entries) [] := by
  refine ⟨fun comma _ => ⟨fun closing _ => all_infix_nil _, fun first key keyHeld => ?_⟩,
    ensures_expect _ _ _ _ _ fun closing => all_infix_nil _⟩
  refine ensures_expect _ _ _ _ _ fun colon => fun second value valueHeld piece others good => ?_
  exact ((((keyHeld.after _).before _).before _).before _).both (((valueHeld.after _).before _).both (good.after _))

theorem items_runs : itemsScript.Ensures runConditions (runConditions.good .items) [] := by
  refine ⟨fun comma _ => ⟨fun closing _ => all_infix_nil _, fun first item held piece others good => ?_⟩,
    ensures_expect _ _ _ _ _ fun closing => all_infix_nil _⟩
  exact ((held.after _).before _).both (good.after _)

theorem collection_runs (before : List Token) :
    (collectionScript before).Ensures runConditions (runConditions.good (.collection before)) [] := by
  refine ⟨fun colon _ => ensures_expect _ _ _ _ _ fun closing => (all_infix_nil _).whole,
    fun closing _ => (all_infix_nil _).whole, fun first key keyHeld => ⟨fun colon _ => ?_, ?_⟩⟩
  · intro second value valueHeld piece others good
    refine AllInfix.whole (AllInfix.after ?_ before)
    exact ((((keyHeld.after _).before _).before _).before _).both (((valueHeld.after _).before _).both (good.after _))
  · intro piece others good
    exact AllInfix.whole (AllInfix.after (((keyHeld.after _).before _).both (good.after _)) before)

theorem tuple_end_runs (before run : List Token) (items : List Tree) (held : AllInfix run (itemParts items)) :
    (tupleEnd before items).Ensures runConditions (runConditions.good (.parenthesized before)) run := by
  intro piece arrow _
  cases arrow with
  | true => exact (all_infix_nil _).whole
  | false => exact ((held.before _).after before).whole

theorem parenthesized_runs (before : List Token) :
    (parenthesizedScript before).Ensures runConditions (runConditions.good (.parenthesized before)) [] := by
  refine ⟨fun closing _ => tuple_end_runs before _ [] (all_infix_nil _), fun piece items good => ?_⟩
  exact ensures_expect _ _ _ _ _ fun closing => tuple_end_runs before _ items ((good.after _).before _)

theorem plain_name_runs (t : Token) :
    (plainName t).Ensures runConditions (runConditions.good .primary) [t] := by
  unfold plainName
  split <;> exact (all_infix_nil _).whole

theorem symbol_first_runs (t : Token) :
    (symbolFirst t).Ensures runConditions (runConditions.good .primary) [t] := by
  unfold symbolFirst
  split
  · exact ⟨fun digits _ => (all_infix_nil _).whole, trivial⟩
  split
  · intro name
    dsimp only
    split
    · exact (all_infix_nil _).whole
    · trivial
  split
  · exact fun piece e held => held
  split
  · exact fun piece e held => held
  split
  · exact fun piece => (all_infix_nil _).whole
  · trivial

theorem primary_runs : primaryScript.Ensures runConditions (runConditions.good .primary) [] := by
  intro t
  dsimp only [List.nil_append]
  cases t.kind with
  | ident =>
      dsimp only
      split
      · refine ⟨fun type => ?_, plain_name_runs t⟩
        have operand : AllInfix ([t] ++ type) [type] := (all_infix_nil type).whole.after [t]
        exact operand.whole
      · exact plain_name_runs t
  | string | number => exact (all_infix_nil _).whole
  | arrow | punct | other => exact symbol_first_runs t

theorem element_runs (stops : List String) (ts : List Token) (e : Tree) (rest : List Token)
    (expression : ∀ e rest, reads .expression ts = some (e, rest) → AllInfix (taken ts rest) e.parts)
    (read : outcome (element stops ts) = some (e, rest)) : AllInfix (taken ts rest) e.parts := by
  obtain whole | ⟨rfl, -, -⟩ := element_cases stops ts e rest read
  · exact expression e rest whole
  · exact (all_infix_nil _).whole

theorem reads_runs (p : Production) (ts : List Token) : ∀ value rest, reads p ts = some (value, rest) →
    runConditions.good p (taken ts rest) value := by
  induction p, ts using production_induction with
  | step p ts calls =>
      have meets : (script p).Calls (Meets runConditions) ts ts := by
        refine Script.Calls.imp (fun q us good => ⟨good, ?_⟩) ts (script p) ts calls
        rintro rfl stops e rest found
        exact element_runs stops us e rest good found
      have ensured := reads_ensure runConditions p ts meets
      cases p with
      | typeArguments => exact ensured type_arguments_runs
      | suffixes before node => exact ensured (suffixes_runs before node)
      | expression => exact ensured expression_runs
      | primary => exact ensured primary_runs
      | collection before => exact ensured (collection_runs before)
      | parenthesized before => exact ensured (parenthesized_runs before)
      | entries => exact ensured entries_runs
      | items => exact ensured items_runs
      | tupleItems => exact ensured ⟨fun _ _ _ _ => tuple_item_runs _, tuple_item_runs _⟩
      | _ => exact fun _ _ _ => trivial

theorem expression_runs_inside (ts : List Token) (tree : Tree) (read : reads .expression ts = some (tree, [])) :
    AllInfix ts tree.parts := by
  have inside := reads_runs .expression ts tree [] read
  rwa [taken_nil] at inside

end ScreenDispatch.Expr
