import ScreenDispatch.Proofs.ScriptOutlook
import ScreenDispatch.Proofs.TokenRows
import ScreenDispatch.Proofs.TypeHeads

/-!
The effects behind closing parentheses. Reading passes over all of them before it looks for an arrow, so what ends with
a parenthesis ends with the effects behind it, whether or not they belong to the type of a function.
-/
set_option autoImplicit false

namespace ScreenDispatch.Expr

open Token Script

def EndsClosed (run : List Token) : Prop :=
  ∃ before closing effects, run = before ++ closing :: effects ∧ closing.isSymbol ")" ∧ ∀ t ∈ effects, isEffect t

section EndsClosed

variable {xs ys : List Token} {t : Token}

theorem not_ends_closed_nil : ¬ EndsClosed [] := by
  rintro ⟨before, closing, effects, whole, -, -⟩
  cases before <;> cases whole

theorem EndsClosed.behind (closed : EndsClosed (xs ++ [t] ++ ys)) (other : t.isSymbol ")" = false)
    (noEffect : isEffect t = false) : EndsClosed ys := by
  obtain ⟨before, closing, effects, whole, parenthesis, all⟩ := closed
  rw [List.append_assoc, List.singleton_append] at whole
  obtain ⟨gap, -, same⟩ | ⟨gap, -, same⟩ := List.append_eq_append_iff.mp whole
  · cases gap with
    | nil =>
        obtain ⟨rfl, -⟩ := List.cons.inj same
        rw [parenthesis] at other
        cases other
    | cons u more =>
        obtain ⟨-, rfl⟩ := List.cons.inj same
        exact ⟨more, closing, effects, rfl, parenthesis, all⟩
  · cases gap with
    | nil =>
        obtain ⟨rfl, -⟩ := List.cons.inj same
        rw [parenthesis] at other
        cases other
    | cons u more =>
        obtain ⟨-, rfl⟩ := List.cons.inj same
        rw [all t (by simp)] at noEffect
        cases noEffect

theorem symbol_no_effect (symbol : String) (found : t.isSymbol symbol) : isEffect t = false := by
  simp [isEffect, symbol_no_word symbol found]

theorem EndsClosed.behind_symbol {symbol : String} (closed : EndsClosed (xs ++ [t] ++ ys)) (found : t.isSymbol symbol)
    (other : symbol ≠ ")") : EndsClosed ys :=
  closed.behind (symbol_alone symbol ")" found other) (symbol_no_effect symbol found)

theorem not_ends_closed_last (other : t.isSymbol ")" = false) (noEffect : isEffect t = false) :
    ¬ EndsClosed (xs ++ [t]) := by
  intro closed
  rw [← List.append_nil (xs ++ [t])] at closed
  exact not_ends_closed_nil (closed.behind other noEffect)

theorem not_ends_closed_symbol {symbol : String} (found : t.isSymbol symbol) (other : symbol ≠ ")") :
    ¬ EndsClosed (xs ++ [t]) :=
  not_ends_closed_last (symbol_alone symbol ")" found other) (symbol_no_effect symbol found)

theorem punctuation_symbol (symbol : String) (found : t.isPunctuation symbol) : t.isSymbol symbol := by
  obtain ⟨punct, value⟩ := (punctuation_iff symbol t).mp found
  simp [isSymbol, punct, value]

theorem EndsClosed.onward (closed : EndsClosed ys) (zs : List Token) (all : ∀ t ∈ zs, isEffect t) :
    EndsClosed (xs ++ (ys ++ zs)) := by
  obtain ⟨before, closing, effects, rfl, parenthesis, others⟩ := closed
  exact ⟨xs ++ before, closing, effects ++ zs, by simp, parenthesis, List.forall_mem_append.mpr ⟨others, all⟩⟩

theorem not_ends_closed_one (other : t.isSymbol ")" = false) : ¬ EndsClosed [t] := by
  rintro ⟨before, closing, effects, whole, parenthesis, -⟩
  cases before with
  | nil =>
      obtain ⟨rfl, -⟩ := List.cons.inj whole
      rw [parenthesis] at other
      cases other
  | cons u more =>
      obtain ⟨-, nothing⟩ := List.cons.inj whole
      exact absurd nothing (by simp)

theorem word_no_symbol (symbol : String) (word : t.kind = .ident) : t.isSymbol symbol = false := by
  simp [isSymbol, word]

theorem prefix_no_effect (word : isTypePrefix t) : isEffect t = false := by
  simp only [isTypePrefix, Bool.and_eq_true, Bool.or_eq_true, beq_iff_eq] at word
  obtain ⟨-, value | value⟩ := word
  all_goals simp [isEffect, value]

end EndsClosed

def NoResult (rest : List Token) : Prop := ∀ t, rest.head? = some t → isEffect t = false ∧ t.isSymbol "->" = false

-- Where the run ends with a parenthesis, it has all the effects behind it, and no arrow is left.
def Complete (run rest : List Token) : Prop := EndsClosed run → NoResult rest

def Unclosed (run : List Token) : Prop := ∀ xs, EndsClosed (xs ++ run) → run = []

def Sealed (run : List Token) : Prop := ∀ xs, ¬ EndsClosed (xs ++ run)

theorem Sealed.after {run : List Token} (sealed : Sealed run) (front : List Token) : Sealed (front ++ run) := by
  intro xs closed
  rw [← List.append_assoc] at closed
  exact sealed _ closed

theorem sealed_symbol {t : Token} {symbol : String} (front : List Token) (found : t.isSymbol symbol)
    (other : symbol ≠ ")") : Sealed (front ++ [t]) := by
  intro xs closed
  rw [← List.append_assoc] at closed
  exact not_ends_closed_symbol found other closed

theorem Sealed.complete {run : List Token} (sealed : Sealed run) (front rest : List Token) : Complete (front ++ run) rest :=
  fun closed => absurd closed (sealed front)

theorem Unclosed.front {xs run : List Token} (unclosed : Unclosed run) (closed : EndsClosed (xs ++ run)) :
    EndsClosed xs := by
  rwa [unclosed xs closed, List.append_nil] at closed

theorem Unclosed.not_closed {run : List Token} (unclosed : Unclosed run) : ¬ EndsClosed run :=
  fun closed => not_ends_closed_nil (unclosed.front closed)

def Rounded (whole part : List Token) : Prop := ∃ before after, whole = before ++ (part ++ after) ∧ Complete part after

def isTuple {α : Type} : Expr α → Bool
  | .tuple _ _ => true
  | _ => false

structure RoundedNode (whole : List Token) (n : Tree) : Prop where
  own : Rounded whole n.source
  extras : ∀ part ∈ n.extras, Rounded whole part
  tuple : n.isTuple → EndsClosed n.source

def AllRounded (whole : List Token) (nodes : List Tree) : Prop := ∀ n ∈ nodes, RoundedNode whole n

def effectOutlook : Outlook where
  good
    | .type, run, _, rest => Complete run rest
    | .typeOperand, run, _, rest => Complete run rest
    | .functionResult, run, arrow, rest => (∀ xs, Complete (xs ++ run) rest) ∧ (arrow = false → ∀ t ∈ run, isEffect t)
    | .memberTypes, run, _, _ => Unclosed run
    | .optionalArguments, run, _, _ => Unclosed run
    | .marks, run, _, _ => Unclosed run
    | .typeArguments, run, runs, rest => Sealed run ∧ ∀ part ∈ runs, Rounded (run ++ rest) part
    | .effects, run, _, rest => (∀ t ∈ run, isEffect t) ∧ ∀ t, rest.head? = some t → isEffect t = false
    | .suffixes before node, run, e, rest =>
      AllRounded (before ++ (run ++ rest)) node.nodes → AllRounded (before ++ (run ++ rest)) e.nodes
    | .expression, run, e, rest => AllRounded (run ++ rest) e.nodes
    | .primary, run, e, rest => AllRounded (run ++ rest) e.nodes
    | .collection before, run, e, rest => AllRounded (before ++ (run ++ rest)) e.nodes
    | .parenthesized before, run, e, rest => AllRounded (before ++ (run ++ rest)) e.nodes
    | .entries, run, entries, rest => Sealed run ∧ AllRounded (run ++ rest) (innerEntries entries)
    | .items, run, items, rest => Sealed run ∧ AllRounded (run ++ rest) (innerItems items)
    | .tupleItems, run, items, rest => AllRounded (run ++ rest) (innerItems items)
    | _, _, _, _ => True
  whole stops run e rest := (∀ symbol ∈ stops, symbol ∈ [":", ",", "]"]) → AllRounded (run ++ rest) e.nodes

section Types

variable (ts : List Token)

theorem type_complete : typeScript.Secures effectOutlook (effectOutlook.good .type) [] ts := by
  refine fun operand _ _ _ complete => ⟨fun and rest _ symbol more _ _ _ onward => ?_, fun _ => complete⟩
  exact fun closed => onward (closed.behind_symbol symbol (by decide))

theorem marks_unclosed : marksScript.Secures effectOutlook (effectOutlook.good .marks) [] ts := by
  refine ⟨fun mark rest _ found more _ _ _ others xs closed => ?_, fun _ _ _ => rfl⟩
  rw [List.nil_append, ← List.append_assoc] at closed
  obtain found | found := mark_symbol found
  · exact absurd (closed.behind_symbol found (by decide)) others.not_closed
  · exact absurd (closed.behind_symbol found (by decide)) others.not_closed

theorem effects_taken : effectsScript.Secures effectOutlook (effectOutlook.good .effects) [] ts :=
  ⟨fun _ _ _ effect _ _ _ _ others => ⟨List.forall_mem_cons.mpr ⟨effect, others.1⟩, others.2⟩,
    fun none => ⟨nofun, none⟩⟩

theorem function_result_complete :
    functionResultScript.Secures effectOutlook (effectOutlook.good .functionResult) [] ts := by
  rintro effects _ rest rfl ⟨all, noEffect⟩
  refine ⟨fun arrow more _ symbol type _ _ _ complete => ⟨fun xs closed => ?_, nofun⟩, fun noArrow => ⟨fun xs _ => ?_, ?_⟩⟩
  · rw [List.nil_append, ← List.append_assoc, ← List.append_assoc] at closed
    exact complete (closed.behind_symbol symbol (by decide))
  · exact fun t first => ⟨noEffect t first, noArrow t first⟩
  · exact fun _ => all

theorem member_types_unclosed :
    memberTypesScript.Secures effectOutlook (effectOutlook.good .memberTypes) [] ts := by
  refine ⟨fun dot name rest _ symbol ident arguments _ _ _ first more _ _ _ onward xs closed => ?_, fun _ _ => rfl⟩
  rw [List.nil_append, ← List.append_assoc, ← List.append_assoc] at closed
  have front := first.front (onward.front closed)
  rw [← List.singleton_append, ← List.append_assoc] at front
  have word : name.kind = .ident := by simpa using ident
  exact absurd (front.behind_symbol symbol (by decide)) (not_ends_closed_one (word_no_symbol ")" word))

theorem optional_arguments_unclosed :
    optionalArgumentsScript.Secures effectOutlook (effectOutlook.good .optionalArguments) [] ts := by
  refine ⟨fun opening rest _ symbol run _ _ _ list xs closed => ?_, fun _ _ _ => rfl⟩
  exact absurd closed (list.1.after _ xs)

theorem Rounded.after {whole part : List Token} (rounded : Rounded whole part) (front : List Token) :
    Rounded (front ++ whole) part := by
  obtain ⟨before, after, rfl, complete⟩ := rounded
  exact ⟨front ++ before, after, by simp, complete⟩

theorem type_arguments_rounded :
    typeArgumentsScript.Secures effectOutlook (effectOutlook.good .typeArguments) [] ts := by
  rintro first _ rest rfl complete
  refine ⟨?_, fun _ => secures_expect _ _ _ _ _ _ ?_⟩
  · rintro comma _ rfl separator run others rest rfl ⟨list, rounded⟩
    refine ⟨list.after _, List.forall_mem_cons.mpr ⟨?_, ?_⟩⟩
    · exact ⟨[], _, by simp, complete⟩
    · intro part present
      have inside := (rounded part present).after (first ++ [comma])
      simpa using inside
  · rintro closing rest rfl symbol
    exact ⟨sealed_symbol _ symbol (by decide), List.forall_mem_singleton.mpr ⟨[], _, by simp, complete⟩⟩

theorem result_marks_complete (before : List Token) :
    resultMarks.Secures effectOutlook (effectOutlook.good .typeOperand) before ts := by
  rintro result _ _ rfl ⟨complete, -⟩ marks _ rest rfl unclosed closed
  have nothing := unclosed _ closed
  subst nothing
  exact complete before (unclosed.front closed)

theorem type_operand_complete :
    typeOperandScript.Secures effectOutlook (effectOutlook.good .typeOperand) [] ts := by
  rintro t rest rfl
  dsimp only [List.nil_append]
  split
  · rename_i word
    rintro operand _ rest rfl complete closed
    have kind : t.kind = .ident := prefix_kind t word
    rw [← List.nil_append [t]] at closed
    exact complete (closed.behind (word_no_symbol ")" kind) (prefix_no_effect word))
  split
  · rename_i ident
    rintro arguments _ _ rfl first members _ _ rfl behind marks _ rest rfl marked closed
    have front := first.front (behind.front (marked.front closed))
    exact absurd front (not_ends_closed_one (word_no_symbol ")" ident))
  split
  · rintro key _ _ rfl - value _ _ rfl -
    refine secures_expect _ _ _ _ _ _ ?_
    rintro closing _ rfl symbol marks _ rest rfl marked closed
    exact absurd (marked.front closed) (not_ends_closed_symbol symbol (by decide))
  split
  · refine ⟨fun closing _ _ _ => result_marks_complete _ _, fun _ elements _ _ _ _ => ?_⟩
    exact secures_expect _ _ _ _ _ _ fun closing _ _ _ => result_marks_complete _ _
  · trivial

end Types

section AllRounded

variable {whole : List Token} {xs ys : List Tree}

theorem AllRounded.both (first : AllRounded whole xs) (second : AllRounded whole ys) : AllRounded whole (xs ++ ys) :=
  List.forall_mem_append.mpr ⟨first, second⟩

theorem AllRounded.after (all : AllRounded whole xs) (front : List Token) : AllRounded (front ++ whole) xs :=
  fun n present =>
    have rounded := all n present
    ⟨rounded.own.after front, fun part inside => (rounded.extras part inside).after front, rounded.tuple⟩

theorem all_rounded_nil (whole : List Token) : AllRounded whole [] := List.forall_mem_nil _

theorem AllRounded.of_eq (all : AllRounded whole xs) {other : List Token} (same : whole = other) : AllRounded other xs :=
  same ▸ all

theorem all_rounded_node (run rest : List Token) (e : Tree) (source : e.source = run) (complete : Complete run rest)
    (extras : ∀ part ∈ e.extras, Rounded (run ++ rest) part) (tuple : e.isTuple → EndsClosed run)
    (below : AllRounded (run ++ rest) e.inner) : AllRounded (run ++ rest) e.nodes := by
  refine List.forall_mem_cons.mpr ⟨⟨⟨[], rest, ?_, source ▸ complete⟩, extras, source ▸ tuple⟩, below⟩
  rw [source, List.nil_append]

theorem all_rounded_plain (run rest : List Token) (e : Tree) (source : e.source = run) (complete : Complete run rest)
    (extras : e.extras = []) (noTuple : e.isTuple = false) (below : AllRounded (run ++ rest) e.inner) :
    AllRounded (run ++ rest) e.nodes := by
  refine all_rounded_node run rest e source complete ?_ (fun tuple => ?_) below
  · rw [extras]
    exact List.forall_mem_nil _
  · rw [noTuple] at tuple
    cases tuple

theorem all_rounded_leaf (run rest : List Token) (e : Tree) (source : e.source = run) (unclosed : ¬ EndsClosed run)
    (extras : e.extras = []) (noTuple : e.isTuple = false) (leaf : e.inner = []) :
    AllRounded (run ++ rest) e.nodes := by
  refine all_rounded_plain run rest e source (fun closed => absurd closed unclosed) extras noTuple ?_
  rw [leaf]
  exact all_rounded_nil _

end AllRounded

section Nodes

variable (ts : List Token)

theorem suffixes_rounded (before : List Token) (node : Tree) :
    (suffixesScript before node).Secures effectOutlook (effectOutlook.good (.suffixes before node)) [] ts := by
  have stopped (us : List Token) :
      (Script.done node).Secures effectOutlook (effectOutlook.good (.suffixes before node)) [] us := id
  refine ⟨?_, fun _ => ?_⟩
  · rintro dot _ rfl symbol name rest rfl
    dsimp only
    split
    · rename_i word
      rintro piece e rest rfl onward rounded
      have complete : Complete (before ++ ([] ++ [dot] ++ [name])) (piece ++ rest) := by
        intro closed
        rw [List.nil_append, ← List.append_assoc] at closed
        refine absurd (closed.behind_symbol symbol (by decide)) (not_ends_closed_one ?_)
        obtain word | word := word
        all_goals simp [isSymbol, word]
      refine (onward ?_).of_eq (by simp)
      exact all_rounded_plain _ _ _ rfl complete rfl rfl (rounded.of_eq (by simp))
    · trivial
  · split
    · refine ⟨?_, fun _ => stopped _⟩
      rintro opening _ rfl symbol arguments runs _ rfl ⟨list, parts⟩ piece e rest rfl onward rounded
      refine (onward ?_).of_eq (by simp)
      refine all_rounded_node _ _ _ rfl ((list.after _).complete _ _) (fun part present => ?_)
        (fun tuple => absurd tuple Bool.false_ne_true) (rounded.of_eq (by simp))
      have inside := (parts part present).after (before ++ [opening])
      simpa using inside
    · exact stopped _

theorem expression_rounded : expressionScript.Secures effectOutlook (effectOutlook.good .expression) [] ts := by
  rintro first node _ rfl rounded piece e rest rfl onward
  exact (onward rounded).of_eq (List.append_assoc _ _ _).symm

theorem tuple_item_rounded (run : List Token) :
    tupleItem.Secures effectOutlook (effectOutlook.good .tupleItems) run ts := by
  rintro first item _ rfl rounded
  refine ⟨?_, fun _ => ?_⟩
  · rintro comma _ rfl - piece others rest rfl onward
    have later := (onward.after (run ++ first ++ [comma])).of_eq (List.append_assoc _ _ _).symm
    exact AllRounded.both ((rounded.after run).of_eq (by simp)) later
  · exact ((rounded.after run).of_eq (List.append_assoc _ _ _).symm).both (all_rounded_nil _)

theorem entries_rounded : entriesScript.Secures effectOutlook (effectOutlook.good .entries) [] ts := by
  refine ⟨?_, fun _ => secures_expect _ _ _ _ _ _ fun _ _ _ symbol =>
    ⟨sealed_symbol _ symbol (by decide), all_rounded_nil _⟩⟩
  rintro comma _ rfl -
  refine ⟨fun _ _ _ symbol => ⟨sealed_symbol _ symbol (by decide), all_rounded_nil _⟩, ?_⟩
  rintro - first key _ rfl keyRounded
  refine secures_expect _ _ _ _ _ _ ?_
  rintro colon _ rfl - second value _ rfl valueRounded piece others rest rfl ⟨sealed, onward⟩
  have keys := (keyRounded (by simp)).after [comma]
  have values := (valueRounded (by simp)).after ([comma] ++ first ++ [colon])
  have later := onward.after ([comma] ++ first ++ [colon] ++ second)
  refine ⟨sealed.after _, ?_⟩
  exact AllRounded.both (keys.of_eq (by simp)) (AllRounded.both (values.of_eq (by simp)) (later.of_eq (by simp)))

theorem items_rounded : itemsScript.Secures effectOutlook (effectOutlook.good .items) [] ts := by
  refine ⟨?_, fun _ => secures_expect _ _ _ _ _ _ fun _ _ _ symbol =>
    ⟨sealed_symbol _ symbol (by decide), all_rounded_nil _⟩⟩
  rintro comma _ rfl -
  refine ⟨fun _ _ _ symbol => ⟨sealed_symbol _ symbol (by decide), all_rounded_nil _⟩, ?_⟩
  rintro - first item _ rfl rounded piece others rest rfl ⟨sealed, onward⟩
  have own := (rounded (by simp)).after [comma]
  have later := onward.after ([comma] ++ first)
  exact ⟨sealed.after _, AllRounded.both (own.of_eq (by simp)) (later.of_eq (by simp))⟩

theorem collection_rounded (before : List Token) :
    (collectionScript before).Secures effectOutlook (effectOutlook.good (.collection before)) [] ts := by
  have empty (run rest : List Token) (e : Tree) (source : e.source = before ++ run) (sealed : Sealed run)
      (extras : e.extras = []) (noTuple : e.isTuple = false) (leaf : e.inner = []) :
      AllRounded (before ++ (run ++ rest)) e.nodes :=
    (all_rounded_leaf _ rest e source (sealed before) extras noTuple leaf).of_eq (List.append_assoc _ _ _)
  refine ⟨fun colon _ _ _ => ?_, fun _ => ⟨fun closing _ _ symbol => ?_, fun _ => ?_⟩⟩
  · exact secures_expect _ _ _ _ _ _ fun closing rest _ symbol =>
      empty _ _ _ rfl (sealed_symbol _ symbol (by decide)) rfl rfl rfl
  · exact empty _ _ _ rfl (sealed_symbol _ symbol (by decide)) rfl rfl rfl
  · rintro first key _ rfl keyRounded
    have keys := (keyRounded (by simp)).after before
    refine ⟨?_, fun _ => ?_⟩
    · rintro colon _ rfl - second value _ rfl valueRounded piece others rest rfl ⟨sealed, onward⟩
      have values := (valueRounded (by simp)).after (before ++ first ++ [colon])
      have later := onward.after (before ++ first ++ [colon] ++ second)
      refine AllRounded.of_eq ?_ (List.append_assoc _ _ _)
      refine all_rounded_plain _ _ _ rfl ((sealed.after _).complete _ _) rfl rfl ?_
      exact AllRounded.both (keys.of_eq (by simp)) (AllRounded.both (values.of_eq (by simp)) (later.of_eq (by simp)))
    · rintro piece others rest rfl ⟨sealed, onward⟩
      have later := onward.after (before ++ first)
      refine AllRounded.of_eq ?_ (List.append_assoc _ _ _)
      refine all_rounded_plain _ _ _ rfl ((sealed.after _).complete _ _) rfl rfl ?_
      exact AllRounded.both (keys.of_eq (by simp)) (later.of_eq (by simp))

theorem tuple_end_rounded (before run : List Token) (closed : EndsClosed run) (items : List Tree)
    (rounded : AllRounded (run ++ ts) (innerItems items)) :
    (tupleEnd before items).Secures effectOutlook (effectOutlook.good (.parenthesized before)) run ts := by
  rintro piece arrow rest rfl ⟨complete, effects⟩
  have own : Complete (before ++ (run ++ piece)) rest := by
    rw [← List.append_assoc]
    exact complete _
  refine AllRounded.of_eq ?_ (List.append_assoc _ _ _)
  cases arrow with
  | true => exact all_rounded_plain _ _ _ rfl own rfl rfl (all_rounded_nil _)
  | false =>
      refine all_rounded_node _ _ _ rfl own (List.forall_mem_nil _) (fun _ => closed.onward piece (effects rfl)) ?_
      exact (rounded.after before).of_eq (by simp)

theorem parenthesized_rounded (before : List Token) :
    (parenthesizedScript before).Secures effectOutlook (effectOutlook.good (.parenthesized before)) [] ts := by
  have ends (run : List Token) (closing : Token) (symbol : closing.isSymbol ")") : EndsClosed (run ++ [closing]) :=
    ⟨run, closing, [], rfl, symbol, nofun⟩
  refine ⟨fun closing rest _ symbol => tuple_end_rounded _ _ _ (ends _ closing symbol) [] (all_rounded_nil _), fun _ => ?_⟩
  rintro piece items _ rfl rounded
  refine secures_expect _ _ _ _ _ _ ?_
  rintro closing rest rfl symbol
  exact tuple_end_rounded _ _ _ (ends _ closing symbol) items (AllRounded.of_eq rounded (by simp))

theorem plain_name_rounded (t : Token) (word : t.kind = .ident) :
    (plainName t).Secures effectOutlook (effectOutlook.good .primary) [t] ts := by
  have unclosed := not_ends_closed_one (word_no_symbol ")" word)
  unfold plainName
  split <;> exact all_rounded_leaf [t] ts _ rfl unclosed rfl rfl rfl

theorem symbol_first_rounded (t : Token) :
    (symbolFirst t).Secures effectOutlook (effectOutlook.good .primary) [t] ts := by
  unfold symbolFirst
  split
  · refine ⟨?_, fun _ => trivial⟩
    rintro digits rest rfl number
    have kind : digits.kind = .number := by simpa using number
    have last : ¬ EndsClosed ([t] ++ [digits]) :=
      not_ends_closed_last (by simp [isSymbol, kind]) (by simp [isEffect, kind])
    exact all_rounded_leaf _ rest _ rfl last rfl rfl rfl
  split
  · rename_i dot
    rintro name rest rfl
    dsimp only
    split
    · rename_i word
      have last : ¬ EndsClosed ([t] ++ [name]) := fun closed =>
        have closed : EndsClosed ([] ++ [t] ++ [name]) := closed
        not_ends_closed_one (word_no_symbol ")" word) (closed.behind_symbol (punctuation_symbol "." dot) (by decide))
      exact all_rounded_leaf _ rest _ rfl last rfl rfl rfl
    · trivial
  split
  · rintro piece e rest rfl rounded
    exact AllRounded.of_eq rounded (List.append_assoc _ _ _).symm
  split
  · rintro piece e rest rfl rounded
    exact AllRounded.of_eq rounded (List.append_assoc _ _ _).symm
  split
  · rintro inside closing rest rfl brace
    have last := sealed_symbol inside (punctuation_symbol _ brace) (by decide) [t]
    exact all_rounded_leaf _ rest _ rfl last rfl rfl rfl
  · trivial

theorem primary_rounded : primaryScript.Secures effectOutlook (effectOutlook.good .primary) [] ts := by
  rintro t rest rfl
  dsimp only [List.nil_append]
  cases kind : t.kind with
  | ident =>
      dsimp only
      split
      · rename_i word
        refine ⟨?_, plain_name_rounded _ t kind⟩
        rintro type rest rfl complete
        have whole : Complete ([t] ++ type) rest := fun closed =>
          have closed : EndsClosed ([] ++ [t] ++ type) := closed
          complete (closed.behind (word_no_symbol ")" kind) (prefix_no_effect word))
        refine all_rounded_node ([t] ++ type) rest _ rfl whole ?_ (fun tuple => absurd tuple Bool.false_ne_true)
          (all_rounded_nil _)
        exact List.forall_mem_singleton.mpr ⟨[t], rest, by simp, complete⟩
      · exact plain_name_rounded _ t kind
  | string | number =>
      exact all_rounded_leaf [t] rest _ rfl (not_ends_closed_one (by simp [isSymbol, kind])) rfl rfl rfl
  | arrow | punct | other => exact symbol_first_rounded _ t

theorem element_rounded (stops : List String) (e : Tree) (rest : List Token)
    (expression : ∀ e rest, reads .expression ts = some (e, rest) → AllRounded (taken ts rest ++ rest) e.nodes)
    (read : outcome (element stops ts) = some (e, rest)) (marks : ∀ symbol ∈ stops, symbol ∈ [":", ",", "]"]) :
    AllRounded (taken ts rest ++ rest) e.nodes := by
  obtain whole | ⟨rfl, -, skip⟩ := element_cases stops ts e rest read
  · exact expression e rest whole
  · obtain ⟨t, more, rfl, punct, stop⟩ := skip_to_stop stops 0 ts rest skip
    have mark := marks t.value stop
    simp only [List.mem_cons, List.not_mem_nil, or_false] at mark
    have complete : Complete (taken ts (t :: more)) (t :: more) := by
      rintro - u first
      cases first
      refine ⟨by simp [isEffect, punct], ?_⟩
      obtain value | value | value := mark
      all_goals simp [isSymbol, value]
    exact all_rounded_plain _ _ _ rfl complete rfl rfl (all_rounded_nil _)

end Nodes

theorem reads_complete (p : Production) (ts : List Token) : ∀ value rest, reads p ts = some (value, rest) →
    effectOutlook.good p (taken ts rest) value rest := by
  refine always_secured effectOutlook (fun p ts => ?_)
    (fun stops ts e rest expression read marks => element_rounded ts stops e rest expression read marks) p ts
  cases p with
  | type => exact type_complete ts
  | typeOperand => exact type_operand_complete ts
  | functionResult => exact function_result_complete ts
  | memberTypes => exact member_types_unclosed ts
  | optionalArguments => exact optional_arguments_unclosed ts
  | typeArguments => exact type_arguments_rounded ts
  | marks => exact marks_unclosed ts
  | effects => exact effects_taken ts
  | suffixes before node => exact suffixes_rounded ts before node
  | expression => exact expression_rounded ts
  | primary => exact primary_rounded ts
  | collection before => exact collection_rounded ts before
  | parenthesized before => exact parenthesized_rounded ts before
  | entries => exact entries_rounded ts
  | items => exact items_rounded ts
  | tupleItems => exact ⟨fun _ _ rest _ _ _ => tuple_item_rounded rest _, tuple_item_rounded ts []⟩
  | valueType | typeElements => exact secures_of_grown _ _ _ _ _ fun _ _ _ => trivial

end ScreenDispatch.Expr
