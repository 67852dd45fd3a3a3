import ScreenDispatch.Proofs.ReadsSuffix

/-!
Reading looks at the kind and the text of a token and at nothing else, so tokens that stand
elsewhere in a text are read to the same expression with other tokens in it.
-/
set_option autoImplicit false

namespace ScreenDispatch.Expr

open Token Script

variable {α β : Type}

structure KeepsText (f : Token → Token) : Prop where
  kind : ∀ t, (f t).kind = t.kind
  value : ∀ t, (f t).value = t.value

abbrev Tree.move (f : Token → Token) (tree : Tree) : Tree := tree.map (List.map f)

@[reducible] def Production.move (f : Token → Token) : Production → Production
  | .suffixes before node => .suffixes (before.map f) (Tree.move f node)
  | .collection before => .collection (before.map f)
  | .parenthesized before => .parenthesized (before.map f)
  | p => p

def Production.Moved (f : Token → Token) : (p : Production) → p.Value → (p.move f).Value → Prop
  | .functionResult, value, other => other = value
  | .typeArguments, value, other => other = value.map (List.map f)
  | .suffixes _ _, value, other => other = Tree.move f value
  | .expression, value, other => other = Tree.move f value
  | .primary, value, other => other = Tree.move f value
  | .collection _, value, other => other = Tree.move f value
  | .parenthesized _, value, other => other = Tree.move f value
  | .entries, value, other => other = mapEntries (List.map f) value
  | .items, value, other => other = mapItems (List.map f) value
  | .tupleItems, value, other => other = mapItems (List.map f) value
  | _, _, _ => True

abbrev MovedOutcome (f : Token → Token) (same : α → β → Prop) : Outcome α → Outcome β → Prop :=
  Option.Rel fun x y => same x.1 y.1 ∧ y.2 = x.2.map f

def MovesAt (f : Token → Token) (p : Production) (ts : List Token) : Prop :=
  MovedOutcome f (p.Moved f) (reads p ts) (reads (p.move f) (ts.map f))

inductive Script.Alike (f : Token → Token) (same : α → β → Prop) : Script α → Script β → Prop
  | done (value : α) (other : β) (agree : same value other) : Alike f same (.done value) (.done other)
  | fail : Alike f same .fail .fail
  | here (next : List Token → Script α) (next' : List Token → Script β)
      (onward : ∀ ts, Alike f same (next ts) (next' (ts.map f))) : Alike f same (.here next) (.here next')
  | take (next : Token → Script α) (next' : Token → Script β)
      (onward : ∀ t, Alike f same (next t) (next' (f t))) : Alike f same (.take next) (.take next')
  | ifTake (test : Token → Bool) (yes : Token → Script α) (yes' : Token → Script β)
      (no : Script α) (no' : Script β) (agree : ∀ t, test (f t) = test t)
      (taken : ∀ t, Alike f same (yes t) (yes' (f t))) (other : Alike f same no no') :
      Alike f same (.ifTake test yes no) (.ifTake test yes' no')
  | ifTakeTwo (first second : Token → Bool) (yes : Token → Token → Script α)
      (yes' : Token → Token → Script β) (no : Script α) (no' : Script β)
      (agree : ∀ t, first (f t) = first t ∧ second (f t) = second t)
      (taken : ∀ t u, Alike f same (yes t u) (yes' (f t) (f u))) (other : Alike f same no no') :
      Alike f same (.ifTakeTwo first second yes no) (.ifTakeTwo first second yes' no')
  | ifType (yes no : Script α) (yes' no' : Script β) (operand : Alike f same yes yes')
      (other : Alike f same no no') : Alike f same (.ifType yes no) (.ifType yes' no')
  | element (stops : List String) (next : Tree → Script α) (next' : Tree → Script β)
      (onward : ∀ e, Alike f same (next e) (next' (Tree.move f e))) :
      Alike f same (.element stops next) (.element stops next')
  | closure (next : Script α) (next' : Script β) (onward : Alike f same next next') :
      Alike f same (.closure next) (.closure next')
  | call (p : Production) (next : p.Value → Script α) (next' : (p.move f).Value → Script β)
      (onward : ∀ value other, p.Moved f value other → Alike f same (next value) (next' other)) :
      Alike f same (.call p next) (.call (p.move f) next')

variable {f : Token → Token}

theorem symbol_moved (keeps : KeepsText f) (symbol : String) (t : Token) :
    (f t).isSymbol symbol = t.isSymbol symbol := by
  simp only [isSymbol, keeps.kind, keeps.value]

theorem punctuation_moved (keeps : KeepsText f) (symbol : String) (t : Token) :
    (f t).isPunctuation symbol = t.isPunctuation symbol := by
  simp only [isPunctuation, keeps.kind, keeps.value]

theorem taken_moved (start ts : List Token) : taken (start.map f) (ts.map f) = (taken start ts).map f := by
  rw [taken, taken, List.length_map, List.length_map, List.map_take]

theorem moved_bind {γ δ : Type} {same : α → β → Prop} {last : γ → δ → Prop} {x : Outcome α} {y : Outcome β}
    {g : α × List Token → Outcome γ} {h : β × List Token → Outcome δ} (agree : MovedOutcome f same x y)
    (onward : ∀ value other rest, x = some (value, rest) → same value other →
      MovedOutcome f last (g (value, rest)) (h (other, rest.map f))) :
    MovedOutcome f last (x.bind g) (y.bind h) := by
  cases agree with
  | none => exact .none
  | some both =>
      rename_i first second
      obtain ⟨value, rest⟩ := first
      obtain ⟨other, more⟩ := second
      obtain ⟨pair, rfl⟩ := both
      exact onward value other rest rfl pair

theorem opens_moved (keeps : KeepsText f) (t : Token) : opens (f t) = opens t := by
  simp only [opens, punctuation_moved keeps]

theorem closes_moved (keeps : KeepsText f) (t : Token) : closes (f t) = closes t := by
  simp only [closes, punctuation_moved keeps]

theorem skip_to_moved (keeps : KeepsText f) (stops : List String) (depth : Nat) (ts : List Token) :
    (skipTo stops depth (ts.map f)).toOption = (skipTo stops depth ts).toOption.map (List.map f) := by
  induction ts generalizing depth with
  | nil => rfl
  | cons t rest ih =>
      rw [List.map_cons, skipTo.eq_def, skipTo.eq_def stops depth (t :: rest)]
      dsimp only
      rw [keeps.kind, keeps.value, opens_moved keeps, closes_moved keeps]
      split
      · split
        · rfl
        split
        · exact ih _
        split
        · cases depth with
          | zero => rfl
          | succ depth => exact ih depth
        · exact ih _
      · exact ih _

theorem closure_end_moved (keeps : KeepsText f) (depth : Nat) (ts : List Token) :
    outcome (closureEnd depth (ts.map f)) = (outcome (closureEnd depth ts)).map fun r => (r.1, r.2.map f) := by
  induction ts generalizing depth with
  | nil =>
      rw [List.map_nil, closureEnd.eq_def]
      rfl
  | cons t rest ih =>
      rw [List.map_cons, outcome_closure_end, outcome_closure_end, punctuation_moved keeps,
        punctuation_moved keeps]
      split
      · exact ih _
      split
      · cases depth with
        | zero => rfl
        | succ depth => exact ih depth
      · exact ih _

theorem unreadable_moved (keeps : KeepsText f) (stops : List String) (ts : List Token) :
    outcome (unreadable stops (ts.map f)) =
      (outcome (unreadable stops ts)).map fun r => (Tree.move f r.1, r.2.map f) := by
  have same := skip_to_moved keeps stops 0 ts
  rw [outcome_unreadable, outcome_unreadable]
  cases short : skipTo stops 0 ts with
  | error fault =>
      cases long : skipTo stops 0 (ts.map f) with
      | error other => rfl
      | ok rest =>
          rw [short, long] at same
          cases same
  | ok rest =>
      cases long : skipTo stops 0 (ts.map f) with
      | error other =>
          rw [short, long] at same
          cases same
      | ok whole =>
          rw [short, long] at same
          cases same
          dsimp only
          rw [List.length_map, List.length_map, taken_moved]
          split <;> rfl

theorem element_moved (keeps : KeepsText f) (stops : List String) (ts : List Token)
    (expression : MovesAt f .expression ts) :
    MovedOutcome f (fun e other => other = Tree.move f e) (outcome (element stops ts))
      (outcome (element stops (ts.map f))) := by
  have skipped : MovedOutcome f (fun e other => other = Tree.move f e) (outcome (unreadable stops ts))
      (outcome (unreadable stops (ts.map f))) := by
    rw [unreadable_moved keeps]
    cases outcome (unreadable stops ts) with
    | none => exact .none
    | some read => exact .some ⟨rfl, rfl⟩
  rw [outcome_element, outcome_element]
  unfold MovesAt at expression
  generalize reads .expression ts = read at expression
  change MovedOutcome f _ read (reads .expression (ts.map f)) at expression
  generalize reads .expression (ts.map f) = other at expression
  cases expression with
  | none => exact skipped
  | some both =>
      rename_i first second
      obtain ⟨e, rest⟩ := first
      obtain ⟨moved, more⟩ := second
      obtain ⟨agree, rfl⟩ := both
      have stop : (stops.any (startsWith · (rest.map f))) = stops.any (startsWith · rest) := by
        cases rest with
        | nil => rfl
        | cons t after => simp only [List.map_cons, startsWith, symbol_moved keeps]
      dsimp only
      rw [stop]
      split
      · exact .some ⟨agree, rfl⟩
      · exact skipped

theorem run_moves (keeps : KeepsText f) (same : α → β → Prop) (start : List Token) (s : Script α)
    (s' : Script β) (alike : s.Alike f same s') (ts : List Token) (calls : s.Calls (MovesAt f) start ts) :
    MovedOutcome f same (s.run start ts) (s'.run (start.map f) (ts.map f)) := by
  -- Tests do not look at places, so both scripts branch alike.
  induction alike generalizing ts with
  | done value other agree => exact .some ⟨agree, rfl⟩
  | fail => exact .none
  | here next next' onward ih =>
      rw [run_here, run_here, taken_moved]
      exact ih _ ts calls
  | take next next' onward ih =>
      cases ts with
      | nil => exact .none
      | cons t rest => exact ih t rest calls
  | ifTake test yes yes' no no' agree taken other yesIh noIh =>
      cases ts with
      | nil => exact noIh [] calls
      | cons t rest =>
          rw [List.map_cons, run_if_take, run_if_take, agree]
          rw [calls_test] at calls
          split at calls
          · rename_i passed
            rw [if_pos passed, if_pos passed]
            exact yesIh t rest calls
          · rename_i failed
            rw [if_neg failed, if_neg failed]
            exact noIh _ calls
  | ifTakeTwo first second yes yes' no no' agree taken other yesIh noIh =>
      match ts with
      | [] => exact noIh [] calls
      | [t] => exact noIh [t] calls
      | t :: u :: rest =>
          rw [List.map_cons, List.map_cons, run_if_take_two, run_if_take_two, (agree t).1, (agree u).2]
          rw [calls_test_two] at calls
          split at calls
          · rename_i passed
            rw [if_pos passed, if_pos passed]
            exact yesIh t u rest calls
          · rename_i failed
            rw [if_neg failed, if_neg failed]
            exact noIh _ calls
  | ifType yes no yes' no' operand other yesIh noIh =>
      have starts : startsOperand (ts.map f) = startsOperand ts := by
        cases ts with
        | nil => rfl
        | cons t rest => simp only [List.map_cons, startsOperand, keeps.kind, punctuation_moved keeps]
      rw [run_if_type, run_if_type, starts]
      rw [calls_operand] at calls
      split at calls
      · rename_i passed
        rw [if_pos passed, if_pos passed]
        exact moved_bind calls.1 fun _ _ rest read _ => yesIh rest (calls.2 rest read)
      · rename_i failed
        rw [if_neg failed, if_neg failed]
        exact noIh ts calls
  | element stops next next' onward ih =>
      rw [run_element, run_element]
      refine moved_bind (element_moved keeps stops ts calls.1) fun e other rest read agree => ?_
      rw [agree]
      exact ih e rest (calls.2 e rest read)
  | closure next next' onward ih =>
      rw [run_closure, run_closure, closure_end_moved keeps]
      cases ended : outcome (closureEnd 0 ts) with
      | none => exact .none
      | some read => exact ih read.2 (calls read.2 ended)
  | call p next next' onward ih =>
      rw [run_call, run_call]
      exact moved_bind calls.1 fun value other rest read agree => ih value other agree rest (calls.2 value rest read)

theorem kind_moved (keeps : KeepsText f) (kind : TokenKind) (t : Token) :
    ((f t).kind == kind) = (t.kind == kind) := by
  rw [keeps.kind]

theorem prefix_moved (keeps : KeepsText f) (t : Token) : isTypePrefix (f t) = isTypePrefix t := by
  simp only [isTypePrefix, keeps.kind, keeps.value]

theorem alike_symbol (keeps : KeepsText f) (same : α → β → Prop) (symbol : String) (yes : Token → Script α)
    (yes' : Token → Script β) (no : Script α) (no' : Script β)
    (taken : ∀ t, (yes t).Alike f same (yes' (f t))) (other : no.Alike f same no') :
    (Script.ifTake (isSymbol symbol) yes no).Alike f same (.ifTake (isSymbol symbol) yes' no') :=
  .ifTake _ _ _ _ _ (symbol_moved keeps symbol) taken other

theorem alike_expect (keeps : KeepsText f) (same : α → β → Prop) (symbol : String) (next : Script α)
    (next' : Script β) (onward : next.Alike f same next') :
    (Script.expect symbol next).Alike f same (Script.expect symbol next') :=
  alike_symbol keeps same symbol _ _ _ _ (fun _ => onward) .fail

theorem alike_last (p : Production) :
    (Script.call p .done).Alike f (p.Moved f) (.call (p.move f) .done) :=
  .call p _ _ fun _ _ agree => .done _ _ agree

theorem alike_type (keeps : KeepsText f) : typeScript.Alike f (fun _ _ => True) typeScript :=
  .call .typeOperand _ _ fun _ _ _ => alike_symbol keeps _ "&" _ _ _ _
    (fun _ => alike_last .type) (.done _ _ trivial)

theorem alike_result_marks : resultMarks.Alike f (fun _ _ => True) resultMarks :=
  .call .functionResult _ _ fun _ _ _ => alike_last .marks

theorem alike_type_operand (keeps : KeepsText f) :
    typeOperandScript.Alike f (fun _ _ => True) typeOperandScript := by
  refine .take _ _ fun t => ?_
  rw [prefix_moved keeps, keeps.kind, punctuation_moved keeps, punctuation_moved keeps]
  split
  · exact alike_last .typeOperand
  split
  · refine .call .optionalArguments _ _ fun _ _ _ => .call .memberTypes _ _ fun _ _ _ => ?_
    exact alike_last .marks
  split
  · refine .call .type _ _ fun _ _ _ => .call .valueType _ _ fun _ _ _ => alike_expect keeps _ "]" _ _ ?_
    exact alike_last .marks
  split
  · refine alike_symbol keeps _ ")" _ _ _ _ (fun _ => alike_result_marks) ?_
    exact .call .typeElements _ _ fun _ _ _ => alike_expect keeps _ ")" _ _ alike_result_marks
  · exact .fail

theorem alike_value_type (keeps : KeepsText f) : valueTypeScript.Alike f (fun _ _ => True) valueTypeScript :=
  alike_symbol keeps _ ":" _ _ _ _ (fun _ => alike_last .type) (.done _ _ trivial)

theorem alike_label (keeps : KeepsText f) (same : α → β → Prop) (next : Script α) (next' : Script β)
    (onward : next.Alike f same next') :
    (Script.ifTakeTwo (·.kind == .ident) (isSymbol ":") (fun _ _ => next) next).Alike f same
      (.ifTakeTwo (·.kind == .ident) (isSymbol ":") (fun _ _ => next') next') :=
  .ifTakeTwo _ _ _ _ _ _ (fun t => ⟨kind_moved keeps .ident t, symbol_moved keeps ":" t⟩)
    (fun _ _ => onward) onward

theorem alike_type_elements (keeps : KeepsText f) :
    typeElementsScript.Alike f (fun _ _ => True) typeElementsScript :=
  alike_label keeps _ _ _ (.call .type _ _ fun _ _ _ =>
    alike_symbol keeps _ "," _ _ _ _ (fun _ => alike_last .typeElements) (.done _ _ trivial))

theorem alike_function_result (keeps : KeepsText f) :
    functionResultScript.Alike f (fun value other => other = value) functionResultScript :=
  .call .effects _ _ fun _ _ _ => alike_symbol keeps _ "->" _ _ _ _
    (fun _ => .call .type _ _ fun _ _ _ => .done _ _ rfl) (.done _ _ rfl)

theorem alike_member_types (keeps : KeepsText f) :
    memberTypesScript.Alike f (fun _ _ => True) memberTypesScript :=
  .ifTakeTwo _ _ _ _ _ _ (fun t => ⟨symbol_moved keeps "." t, kind_moved keeps .ident t⟩)
    (fun _ _ => .call .optionalArguments _ _ fun _ _ _ => alike_last .memberTypes) (.done _ _ trivial)

theorem alike_optional_arguments (keeps : KeepsText f) :
    optionalArgumentsScript.Alike f (fun _ _ => True) optionalArgumentsScript :=
  alike_symbol keeps _ "<" _ _ _ _ (fun _ => .call .typeArguments _ _ fun _ _ _ => .done _ _ trivial)
    (.done _ _ trivial)

theorem alike_type_arguments (keeps : KeepsText f) :
    typeArgumentsScript.Alike f (fun value other => other = value.map (List.map f)) typeArgumentsScript := by
  refine .call .type _ _ fun _ _ _ => .here _ _ fun first => ?_
  refine alike_symbol keeps _ "," _ _ _ _ (fun _ => ?_) (alike_expect keeps _ ">" _ _ (.done _ _ rfl))
  refine .call .typeArguments _ _ fun others moved agree => .done _ _ ?_
  rw [show moved = others.map (List.map f) from agree, List.map_cons]

theorem alike_marks (keeps : KeepsText f) : marksScript.Alike f (fun _ _ => True) marksScript := by
  have mark (t : Token) : isPostfixMark (f t) = isPostfixMark t := by
    simp only [isPostfixMark, symbol_moved keeps]
  exact .ifTake _ _ _ _ _ mark (fun _ => alike_last .marks) (.done _ _ trivial)

theorem alike_effects (keeps : KeepsText f) : effectsScript.Alike f (fun _ _ => True) effectsScript := by
  have effect (t : Token) : isEffect (f t) = isEffect t := by
    simp only [isEffect, keeps.kind, keeps.value]
  exact .ifTake _ _ _ _ _ effect (fun _ => alike_last .effects) (.done _ _ trivial)

theorem takes_arguments_moved (node : Tree) : takesArguments (Tree.move f node) = takesArguments node := by
  cases node <;> rfl

theorem alike_suffixes (keeps : KeepsText f) (before : List Token) (node : Tree) :
    (suffixesScript before node).Alike f (fun e other => other = Tree.move f e)
      (suffixesScript (before.map f) (Tree.move f node)) := by
  rw [suffixesScript, suffixesScript, takes_arguments_moved]
  refine alike_symbol keeps _ "." _ _ _ _ (fun _ => .take _ _ fun name => ?_) ?_
  · rw [keeps.kind, keeps.value]
    split
    · refine .here _ _ fun run => ?_
      rw [← List.map_append]
      exact alike_last (.suffixes (before ++ run) (.member (before ++ run) node (unticked name.value)))
    · exact .fail
  · split
    · refine alike_symbol keeps _ "<" _ _ _ _ (fun _ => ?_) (.done _ _ rfl)
      refine .call .typeArguments _ _ fun arguments moved agree => .here _ _ fun run => ?_
      rw [← List.map_append, show moved = arguments.map (List.map f) from agree]
      exact alike_last (.suffixes (before ++ run) (.specialization (before ++ run) node arguments))
    · exact .done _ _ rfl

theorem alike_expression : expressionScript.Alike f (fun e other => other = Tree.move f e) expressionScript := by
  refine .call .primary _ _ fun node moved agree => .here _ _ fun run => ?_
  rw [show moved = Tree.move f node from agree]
  exact alike_last (.suffixes run node)

theorem alike_plain_name (keeps : KeepsText f) (t : Token) :
    (plainName t).Alike f (fun e other => other = Tree.move f e) (plainName (f t)) := by
  rw [plainName, plainName, keeps.value]
  split
  · exact .done _ _ rfl
  · exact .done _ _ rfl

theorem alike_symbol_first (keeps : KeepsText f) (t : Token) :
    (symbolFirst t).Alike f (fun e other => other = Tree.move f e) (symbolFirst (f t)) := by
  rw [symbolFirst, symbolFirst, keeps.kind, keeps.value]
  simp only [punctuation_moved keeps]
  split
  · exact .ifTake _ _ _ _ _ (kind_moved keeps .number) (fun digits => .done _ _ rfl) .fail
  split
  · refine .take _ _ fun name => ?_
    rw [keeps.kind, keeps.value]
    split
    · exact .done _ _ rfl
    · exact .fail
  split
  · exact alike_last (.collection [t])
  split
  · exact alike_last (.parenthesized [t])
  split
  · exact .closure _ _ (.here _ _ fun run => .done _ _ rfl)
  · exact .fail

theorem alike_primary (keeps : KeepsText f) :
    primaryScript.Alike f (fun e other => other = Tree.move f e) primaryScript := by
  refine .take _ _ fun t => ?_
  rw [keeps.kind]
  cases t.kind with
  | ident =>
      dsimp only
      rw [prefix_moved keeps]
      split
      · refine .ifType _ _ _ _ (.here _ _ fun run => ?_) (alike_plain_name keeps t)
        rw [keeps.value, ← List.map_tail]
        exact .done _ _ rfl
      · exact alike_plain_name keeps t
  | string =>
      dsimp only
      rw [keeps.value]
      exact .done _ _ rfl
  | number => exact .done _ _ rfl
  | arrow | punct | other => exact alike_symbol_first keeps t

theorem alike_collection (keeps : KeepsText f) (before : List Token) :
    (collectionScript before).Alike f (fun e other => other = Tree.move f e)
      (collectionScript (before.map f)) := by
  refine alike_symbol keeps _ ":" _ _ _ _ (fun _ => alike_expect keeps _ "]" _ _ (.here _ _ fun run => ?_)) ?_
  · rw [← List.map_append]
    exact .done _ _ rfl
  refine alike_symbol keeps _ "]" _ _ _ _ (fun _ => .here _ _ fun run => ?_) ?_
  · rw [← List.map_append]
    exact .done _ _ rfl
  refine .element _ _ _ fun first => alike_symbol keeps _ ":" _ _ _ _ (fun _ => ?_) ?_
  · refine .element _ _ _ fun value => .call .entries _ _ fun others moved agree => .here _ _ fun run => ?_
    rw [← List.map_append, show moved = mapEntries (List.map f) others from agree]
    exact .done _ _ rfl
  · refine .call .items _ _ fun others moved agree => .here _ _ fun run => ?_
    rw [← List.map_append, show moved = mapItems (List.map f) others from agree]
    exact .done _ _ rfl

theorem alike_entries (keeps : KeepsText f) :
    entriesScript.Alike f (fun value other => other = mapEntries (List.map f) value) entriesScript := by
  refine alike_symbol keeps _ "," _ _ _ _ (fun _ => ?_) (alike_expect keeps _ "]" _ _ (.done _ _ rfl))
  refine alike_symbol keeps _ "]" _ _ _ _ (fun _ => .done _ _ rfl) ?_
  refine .element _ _ _ fun key => alike_expect keeps _ ":" _ _ (.element _ _ _ fun value => ?_)
  refine .call .entries _ _ fun others moved agree => ?_
  rw [show moved = mapEntries (List.map f) others from agree]
  exact .done _ _ rfl

theorem alike_items (keeps : KeepsText f) :
    itemsScript.Alike f (fun value other => other = mapItems (List.map f) value) itemsScript := by
  refine alike_symbol keeps _ "," _ _ _ _ (fun _ => ?_) (alike_expect keeps _ "]" _ _ (.done _ _ rfl))
  refine alike_symbol keeps _ "]" _ _ _ _ (fun _ => .done _ _ rfl) ?_
  refine .element _ _ _ fun item => .call .items _ _ fun others moved agree => ?_
  rw [show moved = mapItems (List.map f) others from agree]
  exact .done _ _ rfl

theorem alike_tuple_end (before : List Token) (items : List Tree) :
    (tupleEnd before items).Alike f (fun e other => other = Tree.move f e)
      (tupleEnd (before.map f) (mapItems (List.map f) items)) := by
  refine .call .functionResult _ _ fun arrow other agree => .here _ _ fun run => .done _ _ ?_
  rw [show other = arrow from agree, ← List.map_append]
  cases arrow <;> rfl

theorem alike_parenthesized (keeps : KeepsText f) (before : List Token) :
    (parenthesizedScript before).Alike f (fun e other => other = Tree.move f e)
      (parenthesizedScript (before.map f)) := by
  refine alike_symbol keeps _ ")" _ _ _ _ (fun _ => alike_tuple_end before []) ?_
  refine .call .tupleItems _ _ fun items moved agree => alike_expect keeps _ ")" _ _ ?_
  rw [show moved = mapItems (List.map f) items from agree]
  exact alike_tuple_end before items

theorem alike_tuple_items (keeps : KeepsText f) :
    tupleItemsScript.Alike f (fun value other => other = mapItems (List.map f) value) tupleItemsScript := by
  refine alike_label keeps _ _ _ (.call .expression _ _ fun item moved agree => ?_)
  rw [show moved = Tree.move f item from agree]
  refine alike_symbol keeps _ "," _ _ _ _ (fun _ => ?_) (.done _ _ rfl)
  refine .call .tupleItems _ _ fun others moved agree => ?_
  rw [show moved = mapItems (List.map f) others from agree]
  exact .done _ _ rfl

theorem alike (keeps : KeepsText f) (p : Production) :
    (script p).Alike f (p.Moved f) (script (p.move f)) := by
  cases p with
  | type => exact alike_type keeps
  | typeOperand => exact alike_type_operand keeps
  | valueType => exact alike_value_type keeps
  | typeElements => exact alike_type_elements keeps
  | functionResult => exact alike_function_result keeps
  | memberTypes => exact alike_member_types keeps
  | optionalArguments => exact alike_optional_arguments keeps
  | typeArguments => exact alike_type_arguments keeps
  | marks => exact alike_marks keeps
  | effects => exact alike_effects keeps
  | suffixes before node => exact alike_suffixes keeps before node
  | expression => exact alike_expression
  | primary => exact alike_primary keeps
  | collection before => exact alike_collection keeps before
  | entries => exact alike_entries keeps
  | items => exact alike_items keeps
  | parenthesized before => exact alike_parenthesized keeps before
  | tupleItems => exact alike_tuple_items keeps

theorem reads_move (keeps : KeepsText f) (p : Production) (ts : List Token) : MovesAt f p ts := by
  induction p, ts using production_induction with
  | step p ts calls =>
      unfold MovesAt
      rw [reads_eq, reads_eq]
      exact run_moves keeps _ ts (script p) _ (alike keeps p) ts calls

theorem expression_moved (keeps : KeepsText f) (ts : List Token) :
    reads .expression (ts.map f) = (reads .expression ts).map fun r => (Tree.move f r.1, r.2.map f) := by
  have agree := reads_move keeps .expression ts
  unfold MovesAt at agree
  change MovedOutcome f _ _ (reads .expression (ts.map f)) at agree
  generalize reads .expression (ts.map f) = other at agree ⊢
  generalize reads .expression ts = read at agree ⊢
  cases agree with
  | none => rfl
  | some both =>
      rename_i first second
      obtain ⟨moved, more⟩ := second
      obtain ⟨same, rfl⟩ := both
      rw [show moved = Tree.move f first.1 from same]
      rfl

end ScreenDispatch.Expr
