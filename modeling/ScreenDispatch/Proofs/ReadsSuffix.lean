import ScreenDispatch.Proofs.ProductionInduction

/-!
What a production leaves is the end of what it was given, so every production reads what its
script reads.
-/
set_option autoImplicit false

namespace ScreenDispatch.Expr

open Token Script

variable {α : Type} {n : Nat}

theorem skip_to_suffix (stops : List String) (depth : Nat) (ts rest : List Token)
    (skipped : skipTo stops depth ts = .ok rest) : rest <:+ ts := by
  induction ts generalizing depth with
  | nil => cases skipped
  | cons t more ih =>
      have onward (d : Nat) (same : skipTo stops d more = .ok rest) : rest <:+ t :: more :=
        (ih d same).trans (List.suffix_cons _ _)
      rw [skipTo.eq_def] at skipped
      dsimp only at skipped
      split at skipped
      · split at skipped
        · cases skipped
          exact List.suffix_refl _
        split at skipped
        · exact onward _ skipped
        split at skipped
        · split at skipped
          · cases skipped
          · exact onward _ skipped
        · exact onward _ skipped
      · exact onward _ skipped

theorem outcome_unreadable (stops : List String) (ts : List Token) :
    outcome (unreadable stops ts) =
      match skipTo stops 0 ts with
      | .ok rest => if rest.length < ts.length then some (.unparsed (taken ts rest), rest) else none
      | .error _ => none := by
  unfold unreadable
  cases skipTo stops 0 ts with
  | error fault => rfl
  | ok rest =>
      dsimp only [bind, Except.bind]
      split <;> rfl

theorem outcome_element (stops : List String) (ts : List Token) :
    outcome (element stops ts) =
      match reads .expression ts with
      | some (e, rest) =>
        if stops.any (startsWith · rest) then some (e, rest) else outcome (unreadable stops ts)
      | none => outcome (unreadable stops ts) := by
  change _ = match outcome (expression ts) with
      | some (e, rest) =>
        if stops.any (startsWith · rest) then some (e, rest) else outcome (unreadable stops ts)
      | none => outcome (unreadable stops ts)
  rw [element]
  cases expression ts with
  | error fault => rfl
  | ok p =>
      change outcome (if stops.any (startsWith · p.rest) then _ else _) =
        if stops.any (startsWith · p.rest) then _ else _
      split <;> rfl

theorem unreadable_some (stops : List String) (ts : List Token) (e : Tree) (rest : List Token)
    (kept : outcome (unreadable stops ts) = some (e, rest)) :
    e = .unparsed (taken ts rest) ∧ rest.length < ts.length ∧ skipTo stops 0 ts = .ok rest := by
  rw [outcome_unreadable] at kept
  split at kept
  · rename_i left skip
    split at kept
    · rename_i shorter
      cases kept
      exact ⟨rfl, shorter, skip⟩
    · cases kept
  · cases kept

theorem element_cases (stops : List String) (ts : List Token) (e : Tree) (rest : List Token)
    (read : outcome (element stops ts) = some (e, rest)) :
    reads .expression ts = some (e, rest) ∨
      e = .unparsed (taken ts rest) ∧ rest.length < ts.length ∧ skipTo stops 0 ts = .ok rest := by
  rw [outcome_element] at read
  split at read
  · rename_i value left whole
    split at read
    · cases read
      exact .inl whole
    · exact .inr (unreadable_some stops ts e rest read)
  · exact .inr (unreadable_some stops ts e rest read)

theorem element_suffix (stops : List String) (ts : List Token) (value : Tree) (rest : List Token)
    (expression : LeavesSuffix .expression ts)
    (read : outcome (element stops ts) = some (value, rest)) : rest <:+ ts := by
  obtain whole | ⟨-, -, skip⟩ := element_cases stops ts value rest read
  · exact expression value rest whole
  · exact skip_to_suffix stops 0 ts rest skip

theorem outcome_widen {m : Nat} (x : Read α m) (bound : m ≤ n) :
    outcome (do return (← x).widen bound) = outcome x :=
  (outcome_bind x _ some fun _ _ _ _ => rfl).trans (Option.bind_fun_some _)

theorem outcome_closure_end (depth : Nat) (t : Token) (rest : List Token) :
    outcome (closureEnd depth (t :: rest)) =
      if t.isPunctuation "\x7b" then outcome (closureEnd (depth + 1) rest)
      else if t.isPunctuation "\x7d" then
        match depth with
        | 0 => some ((), rest)
        | depth + 1 => outcome (closureEnd depth rest)
      else outcome (closureEnd depth rest) := by
  rw [closureEnd.eq_def]
  dsimp only
  split
  · exact outcome_widen _ _
  split
  · cases depth with
    | zero => rfl
    | succ depth => exact outcome_widen _ _
  · exact outcome_widen _ _

theorem closure_end_suffix (depth : Nat) (ts rest : List Token)
    (read : outcome (closureEnd depth ts) = some ((), rest)) : rest <:+ ts := by
  induction ts generalizing depth with
  | nil =>
      rw [closureEnd.eq_def] at read
      cases read
  | cons t more ih =>
      have onward (d : Nat) (inner : outcome (closureEnd d more) = some ((), rest)) : rest <:+ t :: more :=
        (ih d inner).trans (List.suffix_cons _ _)
      rw [outcome_closure_end] at read
      split at read
      · exact onward _ read
      split at read
      · cases depth with
        | zero =>
            cases read
            exact List.suffix_cons _ _
        | succ depth => exact onward _ read
      · exact onward _ read

theorem run_suffix (start : List Token) (s : Script α) (ts : List Token)
    (calls : s.Calls LeavesSuffix start ts) (value : α) (rest : List Token)
    (read : s.run start ts = some (value, rest)) : rest <:+ ts := by
  induction s generalizing ts with
  | done found =>
      cases read
      exact List.suffix_refl _
  | fail => cases read
  | here next ih => exact ih _ ts calls read
  | take next ih =>
      cases ts with
      | nil => cases read
      | cons t more => exact (ih t more calls read).trans (List.suffix_cons _ _)
  | ifTake test yes no yesIh noIh =>
      cases ts with
      | nil => exact noIh [] calls read
      | cons t more =>
          rw [run_if_take] at read
          rw [calls_test] at calls
          split at read
          · rename_i passed
            rw [if_pos passed] at calls
            exact (yesIh t more calls read).trans (List.suffix_cons _ _)
          · rename_i other
            rw [if_neg other] at calls
            exact noIh _ calls read
  | ifTakeTwo first second yes no yesIh noIh =>
      match ts with
      | [] => exact noIh [] calls read
      | [t] => exact noIh [t] calls read
      | t :: u :: more =>
          rw [run_if_take_two] at read
          rw [calls_test_two] at calls
          split at read
          · rename_i passed
            rw [if_pos passed] at calls
            exact (yesIh t u more calls read).trans ((List.suffix_cons _ _).trans (List.suffix_cons _ _))
          · rename_i other
            rw [if_neg other] at calls
            exact noIh _ calls read
  | ifType yes no yesIh noIh =>
      rw [run_if_type] at read
      rw [calls_operand] at calls
      split at read
      · rename_i operand
        rw [if_pos operand] at calls
        obtain ⟨⟨_, more⟩, type, read⟩ := Option.bind_eq_some_iff.mp read
        exact (yesIh more (calls.2 more type) read).trans (calls.1 () more type)
      · rename_i other
        rw [if_neg other] at calls
        exact noIh ts calls read
  | element stops next ih =>
      obtain ⟨⟨e, more⟩, found, read⟩ := Option.bind_eq_some_iff.mp read
      exact (ih e more (calls.2 e more found) read).trans (element_suffix stops ts e more calls.1 found)
  | closure next ih =>
      obtain ⟨⟨_, more⟩, found, read⟩ := Option.bind_eq_some_iff.mp read
      exact (ih more (calls more found) read).trans (closure_end_suffix 0 ts more found)
  | call p next ih =>
      obtain ⟨⟨v, more⟩, found, read⟩ := Option.bind_eq_some_iff.mp read
      exact (ih v more (calls.2 v more found) read).trans (calls.1 v more found)

theorem symbol_value (symbol : String) (t : Token) (found : t.isSymbol symbol) : t.value = symbol := by
  simp only [isSymbol, Bool.and_eq_true, beq_iff_eq] at found
  exact found.2

theorem reads_eq_of_calls (p : Production) (ts : List Token)
    (calls : (script p).Calls LeavesSuffix ts ts) : reads p ts = (script p).run ts ts := by
  cases p with
  | type => exact reads_type ts
  | typeOperand => exact reads_type_operand ts
  | valueType => exact reads_value_type ts
  | typeElements => exact reads_type_elements ts
  | functionResult => exact reads_function_result ts
  | memberTypes => exact reads_member_types ts
  | optionalArguments => exact reads_optional_arguments ts
  | typeArguments => exact reads_type_arguments ts
  | marks => exact reads_marks ts
  | effects => exact reads_effects ts
  | suffixes before node =>
      refine reads_suffixes before node ts fun generic opened => ?_
      cases ts with
      | nil => cases opened
      | cons t after =>
          have noDot : ¬ t.isSymbol "." := fun dot => by
            have other := symbol_value "." t dot
            rw [symbol_value "<" t opened] at other
            exact absurd other (by decide)
          change (Script.ifTake _ _ (if takesArguments node then _ else _)).Calls _ _ _ at calls
          rw [calls_test] at calls
          rw [if_neg noDot, if_pos generic] at calls
          rw [calls_test] at calls
          rw [if_pos (show t.isSymbol "<" from opened)] at calls
          exact calls.1
  | expression => exact reads_expression ts calls.1
  | primary => exact reads_primary ts
  | collection before => exact reads_collection before ts
  | entries => exact reads_entries ts
  | items => exact reads_items ts
  | parenthesized before => exact reads_parenthesized before ts
  | tupleItems => exact reads_tuple_items ts

theorem reads_suffix (p : Production) (ts : List Token) : LeavesSuffix p ts := by
  induction p, ts using production_induction with
  | step p ts calls =>
      intro value rest read
      rw [reads_eq_of_calls p ts calls] at read
      exact run_suffix ts (script p) ts calls value rest read

theorem Script.Calls.of_forall {ok : Production → List Token → Prop} (all : ∀ p ts, ok p ts)
    (start : List Token) (s : Script α) (ts : List Token) : s.Calls ok start ts := by
  induction s generalizing ts with
  | done | fail => trivial
  | here next ih => exact ih _ ts
  | take next ih =>
      cases ts with
      | nil => trivial
      | cons t rest => exact ih t rest
  | ifTake test yes no yesIh noIh =>
      cases ts with
      | nil => exact noIh []
      | cons t rest =>
          rw [calls_test]
          split
          · exact yesIh t rest
          · exact noIh _
  | ifTakeTwo first second yes no yesIh noIh =>
      match ts with
      | [] => exact noIh []
      | [t] => exact noIh [t]
      | t :: u :: rest =>
          rw [calls_test_two]
          split
          · exact yesIh t u rest
          · exact noIh _
  | ifType yes no yesIh noIh =>
      rw [calls_operand]
      split
      · exact ⟨all _ _, fun rest _ => yesIh rest⟩
      · exact noIh ts
  | element stops next ih | call p next ih => exact ⟨all _ _, fun value rest _ => ih value rest⟩
  | closure next ih => exact fun rest _ => ih rest

theorem run_leaves_suffix (start : List Token) (s : Script α) (ts : List Token) (value : α)
    (rest : List Token) (read : s.run start ts = some (value, rest)) : rest <:+ ts :=
  run_suffix start s ts (Script.Calls.of_forall reads_suffix start s ts) value rest read

theorem reads_eq (p : Production) (ts : List Token) : reads p ts = (script p).run ts ts :=
  reads_eq_of_calls p ts (Script.Calls.of_forall reads_suffix ts (script p) ts)

end ScreenDispatch.Expr
