import ScreenDispatch.Proofs.Script

/-!
Every production reads what its script reads.
-/
set_option autoImplicit false

namespace ScreenDispatch.Expr

open Token Script

variable {α β : Type} {m n : Nat}

theorem outcome_bind (x : Read α m) (f : Parsed Token α m → Read β n)
    (next : α × List Token → Outcome β)
    (same : ∀ value rest shorter, x = .ok ⟨value, rest, shorter⟩ →
      outcome (f ⟨value, rest, shorter⟩) = next (value, rest)) :
    outcome (x >>= f) = (outcome x).bind next := by
  cases x with
  | error fault => rfl
  | ok p => exact same p.value p.rest p.shorter rfl

theorem after_cons (symbol : String) (t : Token) (rest : List Token) :
    after? symbol (t :: rest) = if t.isSymbol symbol then some ⟨(), rest, Parsed.length_tail t rest⟩ else none := rfl

theorem run_after_some {symbol : String} {ts start : List Token} {p : Parsed Token Unit ts.length}
    {yes no : Script β} (found : after? symbol ts = some p) :
    (Script.ifTake (isSymbol symbol) (fun _ => yes) no).run start ts = yes.run start p.rest := by
  cases ts with
  | nil => cases found
  | cons t rest =>
      rw [after_cons] at found
      rw [run_if_take]
      split at found
      · rename_i symbolic
        cases found
        rw [if_pos symbolic]
      · cases found

theorem run_after_none {symbol : String} {ts start : List Token} {yes : Token → Script β} {no : Script β}
    (missing : after? symbol ts = none) :
    (Script.ifTake (isSymbol symbol) yes no).run start ts = no.run start ts := by
  cases ts with
  | nil => rfl
  | cons t rest =>
      rw [after_cons] at missing
      rw [run_if_take]
      split at missing
      · cases missing
      · rename_i symbolic
        rw [if_neg symbolic]

theorem outcome_expect (symbol : String) (ts start : List Token)
    (f : Parsed Token Unit ts.length → Read β n) (next : Script β)
    (same : ∀ rest shorter, outcome (f ⟨(), rest, shorter⟩) = next.run start rest) :
    outcome (Expr.expect symbol ts >>= f) = (Script.expect symbol next).run start ts := by
  cases found : after? symbol ts with
  | none =>
      have missing : Expr.expect symbol ts = failAt (.expected symbol) ts := by rw [Expr.expect, found]
      rw [missing, Script.expect, run_after_none found]
      rfl
  | some p =>
      have present : Expr.expect symbol ts = .ok p := by rw [Expr.expect, found]
      rw [present, Script.expect, run_after_some found]
      exact same p.rest p.shorter

theorem run_closed_or (symbol : String) (p : Production) (empty : p.Value)
    (next : p.Value → Script β) (start ts : List Token) :
    ((if startsWith symbol ts then some (empty, ts) else reads p ts).bind fun r =>
      (Script.expect symbol (next r.1)).run start r.2) =
    (Script.ifTake (isSymbol symbol) (fun _ => next empty)
      (.call p fun value => .expect symbol (next value))).run start ts := by
  cases ts with
  | nil => rfl
  | cons t rest =>
      have starts : startsWith symbol (t :: rest) = t.isSymbol symbol := rfl
      rw [run_if_take, starts]
      split
      · rename_i closed
        exact (if_pos closed : (Script.expect symbol (next empty)).run start (t :: rest) = _)
      · rfl

theorem outcome_type_elements (ts : List Token) :
    outcome (typeElements ts) = if startsWith ")" ts then some ((), ts) else reads .typeElements ts := by
  rw [typeElements]
  split
  · rfl
  · refine (outcome_bind _ _ some fun _ _ _ _ => rfl).trans ?_
    exact Option.bind_fun_some _

theorem outcome_tuple_items (ts : List Token) :
    outcome (tupleItems ts) = if startsWith ")" ts then some ([], ts) else reads .tupleItems ts := by
  rw [tupleItems]
  split
  · rfl
  · refine (outcome_bind _ _ some fun _ _ _ _ => rfl).trans ?_
    exact Option.bind_fun_some _

theorem run_label (next : Script β) (start ts : List Token) :
    (Script.ifTakeTwo (·.kind == .ident) (isSymbol ":") (fun _ _ => next) next).run start ts =
      next.run start (skipLabel ts) := by
  match ts with
  | [] => rfl
  | [_] => rfl
  | name :: colon :: rest =>
      simp only [run_if_take_two, skipLabel, Bool.and_eq_true, beq_iff_eq]
      split <;> rfl

theorem reads_type (ts : List Token) : reads .type ts = typeScript.run ts ts := by
  change outcome (type ts) = _
  rw [type, typeScript, run_call]
  refine outcome_bind _ _ _ fun _ rest _ _ => ?_
  split
  · rename_i p another
    rw [run_after_some another]
    exact outcome_bind _ _ _ fun _ _ _ _ => rfl
  · rename_i missing
    rw [run_after_none missing]
    rfl

theorem reads_type_operand (ts : List Token) : reads .typeOperand ts = typeOperandScript.run ts ts := by
  change outcome (typeOperand ts) = _
  rw [typeOperandScript]
  cases ts with
  | nil =>
      rw [typeOperand]
      rfl
  | cons t rest =>
      rw [typeOperand, run_take]
      split
      · exact outcome_bind _ _ _ fun _ _ _ _ => rfl
      split
      · refine outcome_bind _ _ _ fun _ _ _ _ => ?_
        refine outcome_bind _ _ _ fun _ _ _ _ => ?_
        rfl
      split
      · refine outcome_bind _ _ _ fun _ _ _ _ => ?_
        refine outcome_bind _ _ _ fun _ _ _ _ => ?_
        exact outcome_expect _ _ _ _ _ fun _ _ => rfl
      split
      · rw [← run_closed_or ")" .typeElements () fun _ => resultMarks, ← outcome_type_elements]
        refine outcome_bind _ _ _ fun _ _ _ _ => ?_
        refine outcome_expect _ _ _ _ _ fun _ _ => ?_
        exact outcome_bind _ _ _ fun _ _ _ _ => rfl
      · rfl

theorem reads_value_type (ts : List Token) : reads .valueType ts = valueTypeScript.run ts ts := by
  change outcome (valueType ts) = _
  rw [valueType, valueTypeScript]
  split
  · rename_i p colon
    rw [run_after_some colon]
    exact outcome_bind _ _ _ fun _ _ _ _ => rfl
  · rename_i missing
    rw [run_after_none missing]
    rfl

theorem reads_type_elements (ts : List Token) : reads .typeElements ts = typeElementsScript.run ts ts := by
  change outcome (typeElementsFrom ts) = _
  rw [typeElementsFrom, typeElementsScript, run_label, typeElement, run_call]
  refine outcome_bind _ _ _ fun _ rest _ _ => ?_
  split
  · rename_i p comma
    rw [run_after_some comma]
    exact outcome_bind _ _ _ fun _ _ _ _ => rfl
  · rename_i missing
    rw [run_after_none missing]
    rfl

theorem reads_function_result (ts : List Token) :
    reads .functionResult ts = functionResultScript.run ts ts := by
  change outcome (functionResult ts) =
    (Script.ifTake (isSymbol "->") (fun _ => .call .type fun _ => .done true) (.done false)).run ts
      (skipEffects ts)
  rw [functionResult]
  split
  · rename_i p arrow
    rw [run_after_some arrow]
    exact outcome_bind _ _ _ fun _ _ _ _ => rfl
  · rename_i missing
    rw [run_after_none missing]
    rfl

theorem reads_member_types (ts : List Token) : reads .memberTypes ts = memberTypesScript.run ts ts := by
  change outcome (memberTypes ts) = _
  match ts with
  | [] =>
      rw [memberTypes.eq_def]
      rfl
  | [_] =>
      rw [memberTypes.eq_def]
      rfl
  | dot :: name :: rest =>
      rw [memberTypes, memberTypesScript, run_if_take_two]
      simp only [Bool.and_eq_true, beq_iff_eq]
      split
      · refine outcome_bind _ _ _ fun _ _ _ _ => ?_
        exact outcome_bind _ _ _ fun _ _ _ _ => rfl
      · rfl

theorem reads_optional_arguments (ts : List Token) :
    reads .optionalArguments ts = optionalArgumentsScript.run ts ts := by
  change outcome (optionalArguments ts) = _
  rw [optionalArguments, optionalArgumentsScript]
  split
  · rename_i p opened
    rw [run_after_some opened]
    exact outcome_bind _ _ _ fun _ _ _ _ => rfl
  · rename_i missing
    rw [run_after_none missing]
    rfl

theorem reads_type_arguments (ts : List Token) :
    reads .typeArguments ts = typeArgumentsScript.run ts ts := by
  change outcome (typeArguments ts) = _
  rw [typeArguments, typeArgumentsScript, run_call]
  refine outcome_bind _ _ _ fun _ rest _ _ => ?_
  rw [run_here]
  split
  · rename_i p comma
    rw [run_after_some comma]
    exact outcome_bind _ _ _ fun _ _ _ _ => rfl
  · rename_i missing
    rw [run_after_none missing]
    exact outcome_expect _ _ _ _ _ fun _ _ => rfl

theorem reads_marks (ts : List Token) : reads .marks ts = marksScript.run ts ts := by
  change some ((), skipMarks ts) = _
  cases ts with
  | nil => rfl
  | cons t rest =>
      rw [marksScript, run_if_take, skipMarks, List.dropWhile_cons]
      split <;> rfl

theorem reads_effects (ts : List Token) : reads .effects ts = effectsScript.run ts ts := by
  change some ((), skipEffects ts) = _
  cases ts with
  | nil => rfl
  | cons t rest =>
      rw [effectsScript, run_if_take, skipEffects, List.dropWhile_cons]
      split <;> rfl

theorem taken_append_left (before ts rest : List Token) (bound : rest.length ≤ ts.length) :
    taken (before ++ ts) rest = before ++ taken ts rest := by
  unfold taken
  have left : before.length + ts.length - rest.length - before.length = ts.length - rest.length := by
    omega
  rw [List.length_append, List.take_append, left, List.take_of_length_le (by omega)]

theorem taken_cons (t : Token) (ts rest : List Token) (bound : rest.length ≤ ts.length) :
    taken (t :: ts) rest = t :: taken ts rest :=
  taken_append_left [t] ts rest bound

theorem taken_self (ts : List Token) : taken ts ts = [] := by
  simp [taken]

theorem taken_two (t u : Token) (rest : List Token) : taken (t :: u :: rest) rest = [t, u] := by
  rw [taken_cons t _ rest (by simp), taken_cons u _ rest (Nat.le_refl _), taken_self]

theorem taken_append (ts rest : List Token) (suffix : rest <:+ ts) : taken ts rest ++ rest = ts := by
  obtain ⟨before, rfl⟩ := suffix
  rw [taken_append_left before rest rest (Nat.le_refl _), taken_self, List.append_nil]

def LeavesSuffix (p : Production) (ts : List Token) : Prop :=
  ∀ value rest, reads p ts = some (value, rest) → rest <:+ ts

theorem taken_trans (start ts rest : List Token) (outer : ts <:+ start) (inner : rest <:+ ts) :
    taken start rest = taken start ts ++ taken ts rest := by
  have all : taken start rest ++ rest = taken start ts ++ taken ts rest ++ rest := by
    rw [taken_append start rest (inner.trans outer), List.append_assoc, taken_append ts rest inner,
      taken_append start ts outer]
  exact List.append_cancel_right all

theorem taken_from (xs rest : List Token) : taken (xs ++ rest) rest = xs := by
  rw [taken_append_left xs rest rest (Nat.le_refl _), taken_self, List.append_nil]

theorem taken_nil (ts : List Token) : taken ts [] = ts :=
  (List.append_nil _).symm.trans (taken_append ts [] (List.nil_suffix))

theorem taken_more (start xs rest : List Token) (outer : xs ++ rest <:+ start) :
    taken start rest = taken start (xs ++ rest) ++ xs := by
  rw [taken_trans start (xs ++ rest) rest outer (List.suffix_append _ _), taken_from]

theorem reads_suffixes_member (before : List Token) (node : Tree) (dot : Token) (after : List Token)
    (symbol : dot.isSymbol "." = true) :
    outcome (suffixes (before ++ dot :: after) node (dot :: after)) =
      (suffixesScript before node).run (dot :: after) (dot :: after) := by
  rw [suffixes.eq_def, suffixesScript, run_if_take]
  dsimp only
  rw [if_pos symbol, if_pos symbol]
  cases after with
  | nil => rfl
  | cons name more =>
      have source : taken (before ++ dot :: name :: more) more = before ++ [dot, name] := by
        rw [taken_append_left before _ more (by simp; omega), taken_two]
      have joined : before ++ [dot, name] ++ more = before ++ dot :: name :: more := by simp
      rw [run_take]
      dsimp only
      split
      · rw [run_here, taken_two, run_call, source, ← joined]
        exact outcome_bind _ _ _ fun _ _ _ _ => rfl
      · rfl

theorem reads_suffixes (before : List Token) (node : Tree) (ts : List Token)
    (arguments : takesArguments node → startsWith "<" ts → LeavesSuffix .typeArguments ts.tail) :
    reads (.suffixes before node) ts = (suffixesScript before node).run ts ts := by
  change outcome (suffixes (before ++ ts) node ts) = _
  cases ts with
  | nil =>
      rw [suffixes.eq_def, suffixesScript]
      cases takesArguments node <;> rfl
  | cons t after =>
      by_cases dot : t.isSymbol "."
      · exact reads_suffixes_member before node t after dot
      rw [suffixes.eq_def, suffixesScript, run_if_take]
      dsimp only
      rw [if_neg dot, if_neg dot]
      by_cases generic : takesArguments node
      · rw [if_pos generic, run_if_take]
        simp only [generic, and_true]
        split
        · rename_i opened
          refine outcome_bind _ _ _ fun read rest shorter found => ?_
          have suffix : rest <:+ after :=
            arguments generic opened read rest (by rw [reads, List.tail_cons, found]; rfl)
          have source : taken (before ++ t :: after) rest = before ++ taken (t :: after) rest :=
            taken_append_left before _ rest (by grind)
          have joined : before ++ taken (t :: after) rest ++ rest = before ++ t :: after := by
            rw [List.append_assoc, taken_append _ _ (suffix.trans (List.suffix_cons _ _))]
          rw [run_here, run_call, source, ← joined]
          exact outcome_bind _ _ _ fun _ _ _ _ => rfl
        · rfl
      · rw [if_neg generic, if_neg fun opened => generic opened.2]
        rfl

theorem reads_expression (ts : List Token) (primary : LeavesSuffix .primary ts) :
    reads .expression ts = expressionScript.run ts ts := by
  change outcome (expression ts) = _
  rw [expression, expressionScript, run_call]
  refine outcome_bind _ _ _ fun node rest _ found => ?_
  have suffix : rest <:+ ts := primary node rest (by rw [reads, found]; rfl)
  rw [run_here, run_call, reads, taken_append _ _ suffix]
  exact outcome_bind _ _ _ fun _ _ _ _ => rfl

theorem outcome_symbol_first (t : Token) (rest : List Token) (notName : t.kind ≠ .ident)
    (notString : t.kind ≠ .string) (notNumber : t.kind ≠ .number) :
    outcome (primary (t :: rest)) = (symbolFirst t).run (t :: rest) rest := by
  rw [primary, symbolFirst]
  split
  · contradiction
  · contradiction
  · contradiction
  · by_cases sign : t.kind = .other ∧ t.value = "-"
    · have notPunct (symbol : String) : t.isPunctuation symbol = false := by
        simp [isPunctuation, sign.1]
      rw [if_pos sign, signedNumber]
      cases rest with
      | nil => simp [notPunct, run_if_take_nil, run_fail, outcome, failAt]
      | cons digits rest =>
          by_cases number : digits.kind = .number
          · simp [sign, number, run_if_take, run_done, outcome, pure, Except.pure]
          · simp [number, notPunct, run_if_take, run_fail, outcome, failAt]
    rw [if_neg sign, if_neg fun signed => sign ⟨signed.1, signed.2.1⟩]
    split
    · cases rest with
      | nil => rfl
      | cons name rest =>
          rw [leadingDot, run_take, implicitMemberName]
          split
          · simp [outcome, bind, Except.bind, pure, Except.pure, taken_two, run_done]
          · rfl
    split
    · exact outcome_bind _ _ _ fun _ _ _ _ => rfl
    split
    · exact outcome_bind _ _ _ fun _ _ _ _ => rfl
    split
    · exact outcome_bind _ _ _ fun _ _ _ _ => rfl
    · rfl

theorem reads_primary (ts : List Token) : reads .primary ts = primaryScript.run ts ts := by
  change outcome (primary ts) = _
  rw [primaryScript]
  cases ts with
  | nil =>
      rw [primary]
      rfl
  | cons t rest =>
      rw [run_take]
      cases kind : t.kind with
      | ident =>
          have plain : outcome (if isLiteralKeyword t.value then
              return ⟨.keyword [t], rest, by simp⟩ else
              return ⟨.reference [t] (unticked t.value), rest, by simp⟩ : Read Tree (t :: rest).length) =
              (plainName t).run (t :: rest) rest := by
            unfold plainName
            split <;> rfl
          rw [primary, kind]
          dsimp only
          by_cases typed : isTypePrefix t ∧ startsOperand rest
          · rw [if_pos typed, if_pos typed.1, run_if_type, if_pos typed.2]
            refine outcome_bind _ _ _ fun _ more shorter _ => ?_
            rw [run_here, taken_cons t rest more (Nat.le_of_lt shorter)]
            rfl
          · rw [if_neg typed, plain]
            split
            · rename_i isPrefix
              rw [run_if_type, if_neg fun operand => typed ⟨isPrefix, operand⟩]
            · rfl
      | string =>
          rw [primary, kind]
          rfl
      | number =>
          rw [primary, kind]
          rfl
      | arrow | punct | other =>
          exact outcome_symbol_first t rest (by simp [kind]) (by simp [kind]) (by simp [kind])

theorem reads_collection (before ts : List Token) :
    reads (.collection before) ts = (collectionScript before).run ts ts := by
  change outcome (collection (before ++ ts) ts) = _
  have source (rest : List Token) (bound : rest.length ≤ ts.length) :
      taken (before ++ ts) rest = before ++ taken ts rest := taken_append_left before ts rest bound
  rw [collection, collectionScript]
  split
  · rename_i p colon
    rw [run_after_some colon]
    refine outcome_expect _ _ _ _ _ fun rest shorter => ?_
    rw [run_here, ← source rest (by grind)]
    rfl
  rename_i noColon
  rw [run_after_none noColon]
  split
  · rename_i p closing
    rw [run_after_some closing, run_here, ← source p.rest (by grind)]
    rfl
  rename_i noClosing
  rw [run_after_none noClosing, run_element]
  refine outcome_bind _ _ _ fun first rest _ _ => ?_
  split
  · rename_i p colon
    rw [run_after_some colon, run_element]
    refine outcome_bind _ _ _ fun value more _ _ => ?_
    rw [run_call]
    refine outcome_bind _ _ _ fun others rest _ _ => ?_
    rw [run_here, ← source rest (by grind)]
    rfl
  · rename_i missing
    rw [run_after_none missing, run_call]
    refine outcome_bind _ _ _ fun others rest _ _ => ?_
    rw [run_here, ← source rest (by grind)]
    rfl

theorem reads_entries (ts : List Token) : reads .entries ts = entriesScript.run ts ts := by
  change outcome (entries ts) = _
  rw [entries, entriesScript]
  split
  · rename_i missing
    rw [run_after_none missing]
    exact outcome_expect _ _ _ _ _ fun _ _ => rfl
  rename_i p comma
  rw [run_after_some comma]
  split
  · rename_i q closing
    rw [run_after_some closing]
    rfl
  · rename_i missing
    rw [run_after_none missing, run_element]
    refine outcome_bind _ _ _ fun key _ _ _ => ?_
    refine outcome_expect _ _ _ _ _ fun _ _ => ?_
    refine outcome_bind _ _ _ fun value _ _ _ => ?_
    exact outcome_bind _ _ _ fun _ _ _ _ => rfl

theorem reads_items (ts : List Token) : reads .items ts = itemsScript.run ts ts := by
  change outcome (items ts) = _
  rw [items, itemsScript]
  split
  · rename_i missing
    rw [run_after_none missing]
    exact outcome_expect _ _ _ _ _ fun _ _ => rfl
  rename_i p comma
  rw [run_after_some comma]
  split
  · rename_i q closing
    rw [run_after_some closing]
    rfl
  · rename_i missing
    rw [run_after_none missing, run_element]
    refine outcome_bind _ _ _ fun item _ _ _ => ?_
    exact outcome_bind _ _ _ fun _ _ _ _ => rfl

theorem reads_parenthesized (before ts : List Token) :
    reads (.parenthesized before) ts = (parenthesizedScript before).run ts ts := by
  change outcome (parenthesized (before ++ ts) ts) = _
  rw [parenthesized, parenthesizedScript, ← run_closed_or ")" .tupleItems [] (tupleEnd before),
    ← outcome_tuple_items]
  refine outcome_bind _ _ _ fun items _ _ _ => ?_
  refine outcome_expect _ _ _ _ _ fun _ _ => ?_
  rw [tupleEnd, run_call]
  refine outcome_bind _ _ _ fun arrow rest _ _ => ?_
  rw [run_here, ← taken_append_left before ts rest (by grind)]
  rfl

theorem reads_tuple_items (ts : List Token) : reads .tupleItems ts = tupleItemsScript.run ts ts := by
  change outcome (tupleItemsFrom ts) = _
  rw [tupleItemsFrom, tupleItemsScript, run_label, tupleItem, run_call]
  refine outcome_bind _ _ _ fun item rest _ _ => ?_
  split
  · rename_i p comma
    rw [run_after_some comma]
    exact outcome_bind _ _ _ fun _ _ _ _ => rfl
  · rename_i missing
    rw [run_after_none missing]
    rfl

end ScreenDispatch.Expr
