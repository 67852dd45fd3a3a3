import ScreenDispatch.Proofs.ScriptConditions

/-!
The nodes of an expression, and what it means that one stands by itself: its own tokens are read to it
again, and those of an unparsed node are no expression. What is built from such nodes holds such nodes.
-/
set_option autoImplicit false

namespace ScreenDispatch.Expr

open Token Script

variable {α β : Type}

mutual
def inner : Expr α → List (Expr α)
  | .member _ base _ | .specialization _ base _ => base :: base.inner
  | .dictionary _ entries => innerEntries entries
  | .array _ items | .tuple _ items => innerItems items
  | _ => []

def innerItems : List (Expr α) → List (Expr α)
  | [] => []
  | e :: rest => e :: e.inner ++ innerItems rest

def innerEntries : List (Expr α × Expr α) → List (Expr α)
  | [] => []
  | (key, value) :: rest => key :: key.inner ++ (value :: value.inner ++ innerEntries rest)
end

def nodes (e : Expr α) : List (Expr α) := e :: e.inner

mutual
theorem inner_map (f : α → β) (e : Expr α) : (e.map f).inner = e.inner.map (Expr.map f) := by
  cases e with
  | member source base name | specialization source base name =>
      rw [Expr.map, inner, inner, inner_map f base]
      rfl
  | dictionary source entries => 
      rw [Expr.map, inner, inner]
      exact inner_entries_map f entries
  | array source items | tuple source items =>
      rw [Expr.map, inner, inner]
      exact inner_items_map f items
  | _ => simp [Expr.map, inner]

theorem inner_items_map (f : α → β) (items : List (Expr α)) :
    innerItems (mapItems f items) = (innerItems items).map (Expr.map f) := by
  cases items with
  | nil => simp [mapItems, innerItems]
  | cons e rest => simp [mapItems, innerItems, inner_map f e, inner_items_map f rest]

theorem inner_entries_map (f : α → β) (entries : List (Expr α × Expr α)) :
    innerEntries (mapEntries f entries) = (innerEntries entries).map (Expr.map f) := by
  cases entries with
  | nil => simp [mapEntries, innerEntries]
  | cons entry rest =>
      obtain ⟨key, value⟩ := entry
      simp [mapEntries, innerEntries, inner_map f key, inner_map f value, inner_entries_map f rest]
end

def isUnparsed : Expr α → Bool
  | .unparsed _ => true
  | _ => false

def Rereads (e : Tree) : Prop :=
  if e.isUnparsed then ∀ other, reads .expression e.source ≠ some (other, [])
  else reads .expression e.source = some (e, [])

structure Standalone (run : List Token) (e : Tree) : Prop where
  rereads : Rereads e
  nonempty : e.source ≠ []
  inside : e.source <:+: run

theorem Standalone.left {run : List Token} {e : Tree} (alone : Standalone run e) (more : List Token) :
    Standalone (run ++ more) e := by
  obtain ⟨rereads, nonempty, before, after, same⟩ := alone
  exact ⟨rereads, nonempty, before, after ++ more, by simp [← same]⟩

theorem Standalone.right {run : List Token} {e : Tree} (alone : Standalone run e) (before : List Token) :
    Standalone (before ++ run) e := by
  obtain ⟨rereads, nonempty, first, after, same⟩ := alone
  exact ⟨rereads, nonempty, before ++ first, after, by simp [← same]⟩

def AllStandalone (run : List Token) (nodes : List Tree) : Prop := ∀ n ∈ nodes, Standalone run n

structure Holds (run : List Token) (e : Tree) : Prop where
  source : e.source = run
  parsed : e.isUnparsed = false
  inner : AllStandalone run e.inner

def nodeConditions : Conditions where
  good
    | .primary, run, e => Holds run e
    | .collection before, run, e => Holds (before ++ run) e
    | .parenthesized before, run, e => Holds (before ++ run) e
    | .expression, run, e => e.source = run ∧ AllStandalone run e.nodes
    | .entries, run, entries => AllStandalone run (innerEntries entries)
    | .items, run, items => AllStandalone run (innerItems items)
    | .tupleItems, run, items => AllStandalone run (innerItems items)
    | _, _, _ => True
  whole stops run e := (∀ symbol ∈ stops, symbol ∈ [":", ",", "]"]) → e.source = run ∧ AllStandalone run e.nodes

theorem ensures_expect (c : Conditions) (post : List Token → α → Prop) (run : List Token) (symbol : String)
    (next : Script α) (onward : ∀ t, next.Ensures c post (run ++ [t])) :
    (Script.expect symbol next).Ensures c post run :=
  ⟨fun t _ => onward t, trivial⟩

theorem AllStandalone.both {run : List Token} {xs ys : List Tree} (first : AllStandalone run xs)
    (second : AllStandalone run ys) : AllStandalone run (xs ++ ys) := by
  intro n present
  obtain early | late := List.mem_append.mp present
  · exact first n early
  · exact second n late

theorem all_standalone_nil (run : List Token) : AllStandalone run [] := by
  intro n present
  cases present

theorem AllStandalone.after {run : List Token} {xs : List Tree} (all : AllStandalone run xs)
    (before : List Token) : AllStandalone (before ++ run) xs :=
  fun n present => (all n present).right before

theorem AllStandalone.before {run : List Token} {xs : List Tree} (all : AllStandalone run xs)
    (after : List Token) : AllStandalone (run ++ after) xs :=
  fun n present => (all n present).left after

theorem entries_conditions :
    entriesScript.Ensures nodeConditions (nodeConditions.good .entries) [] := by
  refine ⟨fun comma _ => ⟨fun closing _ => all_standalone_nil _, fun first key keyWhole => ?_⟩,
    ensures_expect _ _ _ _ _ fun closing => all_standalone_nil _⟩
  refine ensures_expect _ _ _ _ _ fun colon => fun second value valueWhole piece others good => ?_
  have keys := (keyWhole (by simp)).2
  have values := (valueWhole (by simp)).2
  exact ((((keys.after _).before _).before _).before _).both (((values.after _).before _).both (good.after _))

theorem items_conditions : itemsScript.Ensures nodeConditions (nodeConditions.good .items) [] := by
  refine ⟨fun comma _ => ⟨fun closing _ => all_standalone_nil _, fun first item itemWhole piece others good => ?_⟩,
    ensures_expect _ _ _ _ _ fun closing => all_standalone_nil _⟩
  have nodes := (itemWhole (by simp)).2
  exact ((nodes.after _).before _).both (good.after _)

theorem tuple_item_conditions (run : List Token) :
    tupleItem.Ensures nodeConditions (nodeConditions.good .tupleItems) run := by
  intro first item whole
  refine ⟨fun comma _ => fun piece others good => ?_, ?_⟩
  · exact (((whole.2.after _).before _).before _).both (good.after _)
  · exact (whole.2.after _).both (all_standalone_nil _)

theorem tuple_items_conditions :
    tupleItemsScript.Ensures nodeConditions (nodeConditions.good .tupleItems) [] :=
  ⟨fun _ _ _ _ => tuple_item_conditions _, tuple_item_conditions _⟩

theorem collection_conditions (before : List Token) :
    (collectionScript before).Ensures nodeConditions (nodeConditions.good (.collection before)) [] := by
  refine ⟨fun colon _ => ensures_expect _ _ _ _ _ fun closing => ⟨rfl, rfl, all_standalone_nil _⟩,
    fun closing _ => ⟨rfl, rfl, all_standalone_nil _⟩, fun first key keyWhole => ⟨fun colon _ => ?_, ?_⟩⟩
  · intro second value valueWhole piece others good
    have keys := (keyWhole (by simp)).2
    have values := (valueWhole (by simp)).2
    refine ⟨rfl, rfl, AllStandalone.after ?_ before⟩
    exact ((((keys.after _).before _).before _).before _).both (((values.after _).before _).both (good.after _))
  · intro piece others good
    have nodes := (keyWhole (by simp)).2
    refine ⟨rfl, rfl, AllStandalone.after ?_ before⟩
    exact ((nodes.after _).before _).both (good.after _)

theorem tuple_end_conditions (before run : List Token) (items : List Tree)
    (nodes : AllStandalone run (innerItems items)) :
    (tupleEnd before items).Ensures nodeConditions (nodeConditions.good (.parenthesized before)) run := by
  intro piece arrow _
  cases arrow with
  | true => exact ⟨rfl, rfl, all_standalone_nil _⟩
  | false => exact ⟨rfl, rfl, (nodes.before _).after before⟩

theorem parenthesized_conditions (before : List Token) :
    (parenthesizedScript before).Ensures nodeConditions (nodeConditions.good (.parenthesized before)) [] := by
  refine ⟨fun closing _ => tuple_end_conditions before _ [] (all_standalone_nil _), fun piece items good => ?_⟩
  refine ensures_expect _ _ _ _ _ fun closing => tuple_end_conditions before _ items ?_
  exact AllStandalone.before (AllStandalone.after good _) _

theorem symbol_first_conditions (t : Token) :
    (symbolFirst t).Ensures nodeConditions (nodeConditions.good .primary) [t] := by
  unfold symbolFirst
  split
  · exact ⟨fun digits _ => ⟨rfl, rfl, all_standalone_nil _⟩, trivial⟩
  split
  · intro name
    dsimp only
    split
    · exact ⟨rfl, rfl, all_standalone_nil _⟩
    · trivial
  split
  · exact fun piece e holds => holds
  split
  · exact fun piece e holds => holds
  split
  · exact fun piece => ⟨rfl, rfl, all_standalone_nil _⟩
  · trivial

theorem plain_name_conditions (t : Token) :
    (plainName t).Ensures nodeConditions (nodeConditions.good .primary) [t] := by
  unfold plainName
  split <;> exact ⟨rfl, rfl, all_standalone_nil _⟩

theorem primary_conditions :
    primaryScript.Ensures nodeConditions (nodeConditions.good .primary) [] := by
  intro t
  dsimp only [List.nil_append]
  cases t.kind with
  | ident =>
      dsimp only
      split
      · exact ⟨fun type => ⟨rfl, rfl, all_standalone_nil _⟩, plain_name_conditions t⟩
      · exact plain_name_conditions t
  | string | number => exact ⟨rfl, rfl, all_standalone_nil _⟩
  | arrow | punct | other => exact symbol_first_conditions t

end ScreenDispatch.Expr
