import ScreenDispatch.Proofs.Stretch
import ScreenDispatch.Proofs.SuffixChain

/-!
Every production stretches to a member `self` behind its input, and an expression takes the member.
-/
set_option autoImplicit false

namespace ScreenDispatch.Expr

open Token Script

variable {α : Type} {dot name : Token}

theorem ends_done (value : α) : (Script.done value).Ends := fun _ => ⟨value, rfl⟩

theorem ends_here {next : List Token → Script α} (ends : ∀ ts, (next ts).Ends) : (Script.here next).Ends :=
  fun start => ends _ start

theorem ends_call {p : Production} {next : p.Value → Script α} {value : p.Value}
    (empty : reads p [] = some (value, [])) (ends : (next value).Ends) : (Script.call p next).Ends := by
  intro start
  rw [run_call, empty]
  exact ends start

theorem stuck_call {p : Production} {next : p.Value → Script α} (stuck : ∀ value, (next value).Stuck) :
    (Script.call p next).Stuck := by
  intro start
  rw [run_call]
  cases found : reads p [] with
  | none => rfl
  | some result =>
      obtain ⟨value, rest⟩ := result
      cases List.suffix_nil.mp (reads_suffix p [] value rest found)
      exact stuck value start

theorem member_types_nil : reads .memberTypes [] = some ((), []) := by
  rw [reads_member_types]
  rfl

theorem optional_arguments_nil : reads .optionalArguments [] = some ((), []) := by
  rw [reads_optional_arguments]
  rfl

theorem ends_suffixes (before : List Token) (node : Tree) :
    (Script.call (.suffixes before node) Script.done).Ends :=
  ends_call (suffixes_nil before node) (ends_done node)

theorem stretchy_if (test : Token → Bool) (yes : Token → Script α) (no : Script α) (plain : ¬ test dot)
    (taken : ∀ t, (yes t).Stretchy dot name) (other : no.Stretchy dot name) :
    (Script.ifTake test yes no).Stretchy dot name :=
  ⟨taken, other, fun found => absurd found plain⟩

theorem stretchy_symbol (self : SelfTokens dot name) (symbol : String) (yes : Token → Script α) (no : Script α)
    (plain : symbol ≠ ".") (taken : ∀ t, (yes t).Stretchy dot name) (other : no.Stretchy dot name) :
    (Script.ifTake (isSymbol symbol) yes no).Stretchy dot name :=
  stretchy_if _ yes no (mt (dot_symbol self symbol).mp plain) taken other

theorem stretchy_last (p : Production) : (Script.call p Script.done).Stretchy dot name :=
  ⟨fun _ => trivial, .inl ends_done⟩

theorem stretchy_type (self : SelfTokens dot name) : typeScript.Stretchy dot name :=
  ⟨fun _ => stretchy_symbol self "&" _ _ (by decide) (fun _ => stretchy_last .type) trivial,
    .inl fun _ => ends_done ()⟩

theorem stretchy_result_marks : resultMarks.Stretchy dot name :=
  ⟨fun _ => stretchy_last .marks, .inl fun _ => ends_call rfl (ends_done ())⟩

theorem stretchy_type_operand (self : SelfTokens dot name) : typeOperandScript.Stretchy dot name := by
  refine ⟨fun t => ?_, fun start value rest read => ?_⟩
  · dsimp only
    split
    · exact stretchy_last .typeOperand
    split
    · refine ⟨fun _ => ⟨fun _ => stretchy_last .marks, .inl fun _ => ends_call rfl (ends_done ())⟩, .inl fun _ => ?_⟩
      exact ends_call member_types_nil (ends_call rfl (ends_done ()))
    split
    · refine ⟨fun _ => ⟨fun _ => ?_, .inr fun _ _ => rfl⟩, .inr fun _ => stuck_call fun _ _ => rfl⟩
      exact stretchy_symbol self "]" _ _ (by decide) (fun _ => stretchy_last .marks) trivial
    split
    · refine stretchy_symbol self ")" _ _ (by decide) (fun _ => stretchy_result_marks) ?_
      refine ⟨fun _ => ?_, .inr fun _ _ => rfl⟩
      exact stretchy_symbol self ")" _ _ (by decide) (fun _ => stretchy_result_marks) trivial
    · trivial
  · have word : ¬ isTypePrefix dot := by simp [isTypePrefix, self.dotKind]
    have bracket := mt (dot_punctuation self "[").mp (by decide)
    have parenthesis := mt (dot_punctuation self "(").mp (by decide)
    dsimp only at read
    rw [if_neg word, if_neg (by simp [self.dotKind]), if_neg bracket, if_neg parenthesis] at read
    cases read

theorem stretchy_label (self : SelfTokens dot name) (next : Script α) (onward : next.Stretchy dot name) :
    (Script.ifTakeTwo (·.kind == .ident) (isSymbol ":") (fun _ _ => next) next).Stretchy dot name :=
  ⟨fun _ _ => onward, onward, mt (dot_symbol self ":").mp (by decide), fun found => by simp [self.dotKind] at found⟩

theorem stretchy_type_elements (self : SelfTokens dot name) : typeElementsScript.Stretchy dot name :=
  stretchy_label self _ ⟨fun _ => stretchy_symbol self "," _ _ (by decide)
    (fun _ => stretchy_last .typeElements) trivial, .inl fun _ => ends_done ()⟩

theorem stretchy_function_result (self : SelfTokens dot name) : functionResultScript.Stretchy dot name :=
  ⟨fun _ => stretchy_symbol self "->" _ _ (by decide)
    (fun _ => ⟨fun _ => trivial, .inl fun _ => ends_done true⟩) trivial, .inl fun _ => ends_done false⟩

theorem stretchy_member_types (self : SelfTokens dot name) : memberTypesScript.Stretchy dot name := by
  refine ⟨fun _ _ => ⟨fun _ => stretchy_last .memberTypes, .inl fun _ => ?_⟩, trivial, ?_, fun _ _ => ?_⟩
  · exact ends_call member_types_nil (ends_done ())
  · simp [self.dotKind]
  · exact ends_call optional_arguments_nil (ends_call member_types_nil (ends_done ()))

theorem stretchy_optional_arguments (self : SelfTokens dot name) : optionalArgumentsScript.Stretchy dot name :=
  stretchy_symbol self "<" _ _ (by decide) (fun _ => ⟨fun _ => trivial, .inl fun _ => ends_done ()⟩) trivial

theorem stretchy_type_arguments (self : SelfTokens dot name) : typeArgumentsScript.Stretchy dot name := by
  refine ⟨fun _ first => ?_, .inr fun _ _ => rfl⟩
  refine stretchy_symbol self "," _ _ (by decide) (fun _ => ⟨fun _ => trivial, .inl fun _ => ends_done _⟩) ?_
  exact stretchy_symbol self ">" _ _ (by decide) (fun _ => trivial) trivial

theorem stretchy_marks (self : SelfTokens dot name) : marksScript.Stretchy dot name := by
  refine stretchy_if _ _ _ ?_ (fun _ => stretchy_last .marks) trivial
  have question := mt (dot_symbol self "?").mp (by decide)
  have exclamation := mt (dot_symbol self "!").mp (by decide)
  simp [isPostfixMark, question, exclamation]

theorem stretchy_effects (self : SelfTokens dot name) : effectsScript.Stretchy dot name :=
  stretchy_if _ _ _ (by simp [isEffect, self.dotKind]) (fun _ => stretchy_last .effects) trivial

theorem stretchy_suffixes (self : SelfTokens dot name) (before : List Token) (node : Tree) :
    (suffixesScript before node).Stretchy dot name := by
  refine ⟨fun _ => ⟨fun t => ?_, fun start value rest read => ?_⟩, ?_, fun _ start => ?_⟩
  · dsimp only
    split
    · exact fun _ => stretchy_last (.suffixes _ _)
    · trivial
  · dsimp only at read
    rw [if_neg (by simp [self.dotKind])] at read
    cases read
  · split
    · refine stretchy_symbol self "<" _ _ (by decide) (fun _ => ?_) trivial
      exact ⟨fun _ _ => stretchy_last (.suffixes _ _), .inl fun _ => ends_here fun _ => ends_suffixes _ _⟩
    · trivial
  · rw [run_take, if_pos (.inl self.nameKind)]
    exact ends_here (fun _ => ends_suffixes _ _) start

theorem stretchy_expression : expressionScript.Stretchy dot name :=
  ⟨fun _ _ => stretchy_last (.suffixes _ _), .inl fun _ => ends_here fun _ => ends_suffixes _ _⟩

theorem stretchy_plain_name (t : Token) : (plainName t).Stretchy dot name := by
  unfold plainName
  split <;> trivial

theorem stretchy_symbol_first (self : SelfTokens dot name) (t : Token) : (symbolFirst t).Stretchy dot name := by
  unfold symbolFirst
  split
  · exact stretchy_if _ _ _ (by simp [self.dotKind]) (fun _ => trivial) trivial
  split
  · refine ⟨fun u => ?_, fun start value rest read => ?_⟩
    · dsimp only
      split <;> trivial
    · dsimp only at read
      rw [if_neg (by simp [self.dotKind])] at read
      cases read
  split
  · exact stretchy_last (.collection _)
  split
  · exact stretchy_last (.parenthesized _)
  split
  · exact fun _ => trivial
  · trivial

theorem stretchy_primary (self : SelfTokens dot name) : primaryScript.Stretchy dot name := by
  refine ⟨fun t => ?_, fun start value rest read => ?_⟩
  all_goals dsimp only at *
  · cases kind : t.kind with
    | ident =>
        dsimp only
        split
        · exact ⟨fun _ => trivial, stretchy_plain_name t, ends_here fun _ => ends_done _⟩
        · exact stretchy_plain_name t
    | string | number => trivial
    | arrow | punct | other => exact stretchy_symbol_first self t
  · rw [self.dotKind] at read
    dsimp only at read
    rw [symbolFirst, if_neg (by simp [self.dotKind]), if_pos ((dot_punctuation self ".").mpr rfl), leadingDot,
      run_take, if_pos self.nameKind] at read
    cases read
    rfl

theorem stretchy_collection (self : SelfTokens dot name) (before : List Token) :
    (collectionScript before).Stretchy dot name := by
  refine stretchy_symbol self ":" _ _ (by decide) (fun _ => ?_) ?_
  · exact stretchy_symbol self "]" _ _ (by decide) (fun _ _ => trivial) trivial
  refine stretchy_symbol self "]" _ _ (by decide) (fun _ _ => trivial) ⟨by decide, fun first => ?_⟩
  refine stretchy_symbol self ":" _ _ (by decide) (fun _ => ⟨by decide, fun value => ?_⟩) ?_
  all_goals exact ⟨fun _ _ => trivial, .inl fun _ => ends_here fun _ => ends_done _⟩

theorem stretchy_entries (self : SelfTokens dot name) : entriesScript.Stretchy dot name := by
  refine stretchy_symbol self "," _ _ (by decide) (fun _ => ?_) ?_
  · refine stretchy_symbol self "]" _ _ (by decide) (fun _ => trivial) ⟨by decide, fun key => ?_⟩
    refine stretchy_symbol self ":" _ _ (by decide) (fun _ => ⟨by decide, fun value => ?_⟩) trivial
    exact ⟨fun _ => trivial, .inl fun _ => ends_done _⟩
  · exact stretchy_symbol self "]" _ _ (by decide) (fun _ => trivial) trivial

theorem stretchy_items (self : SelfTokens dot name) : itemsScript.Stretchy dot name := by
  refine stretchy_symbol self "," _ _ (by decide) (fun _ => ?_) ?_
  · refine stretchy_symbol self "]" _ _ (by decide) (fun _ => trivial) ⟨by decide, fun item => ?_⟩
    exact ⟨fun _ => trivial, .inl fun _ => ends_done _⟩
  · exact stretchy_symbol self "]" _ _ (by decide) (fun _ => trivial) trivial

theorem stretchy_tuple_end (before : List Token) (items : List Tree) :
    (tupleEnd before items).Stretchy dot name :=
  ⟨fun _ _ => trivial, .inl fun _ => ends_here fun _ => ends_done _⟩

theorem stretchy_parenthesized (self : SelfTokens dot name) (before : List Token) :
    (parenthesizedScript before).Stretchy dot name := by
  refine stretchy_symbol self ")" _ _ (by decide) (fun _ => stretchy_tuple_end before []) ?_
  refine ⟨fun items => ?_, .inr fun _ _ => rfl⟩
  exact stretchy_symbol self ")" _ _ (by decide) (fun _ => stretchy_tuple_end before items) trivial

theorem stretchy_tuple_items (self : SelfTokens dot name) : tupleItemsScript.Stretchy dot name := by
  refine stretchy_label self _ ⟨fun item => ?_, .inl fun _ => ends_done _⟩
  refine stretchy_symbol self "," _ _ (by decide) (fun _ => ?_) trivial
  exact ⟨fun _ => trivial, .inl fun _ => ends_done _⟩

theorem stretchy (self : SelfTokens dot name) (p : Production) : (script p).Stretchy dot name := by
  cases p with
  | type => exact stretchy_type self
  | typeOperand => exact stretchy_type_operand self
  | valueType => exact stretchy_symbol self ":" _ _ (by decide) (fun _ => stretchy_last .type) trivial
  | typeElements => exact stretchy_type_elements self
  | functionResult => exact stretchy_function_result self
  | memberTypes => exact stretchy_member_types self
  | optionalArguments => exact stretchy_optional_arguments self
  | typeArguments => exact stretchy_type_arguments self
  | marks => exact stretchy_marks self
  | effects => exact stretchy_effects self
  | suffixes before node => exact stretchy_suffixes self before node
  | expression => exact stretchy_expression
  | primary => exact stretchy_primary self
  | collection before => exact stretchy_collection self before
  | entries => exact stretchy_entries self
  | items => exact stretchy_items self
  | parenthesized before => exact stretchy_parenthesized self before
  | tupleItems => exact stretchy_tuple_items self

theorem reads_stretch (self : SelfTokens dot name) (p : Production) (ts : List Token) :
    StretchAt dot name p ts := by
  induction p, ts using production_induction with
  | step p ts calls =>
      unfold StretchAt
      rw [reads_eq, reads_eq]
      exact run_stretch self ts (script p) ts (stretchy self p) calls (Nat.le_refl _)

theorem expression_self (self : SelfTokens dot name) (ts : List Token) (e : Tree)
    (read : reads .expression ts = some (e, [])) :
    ∃ other, reads .expression (ts ++ [dot, name]) = some (other, []) := by
  obtain early | longer := (reads_stretch self .expression ts).ending e read
  · obtain ⟨node, more, _, chain⟩ := expression_chain _ e _ early
    exact absurd ((dot_symbol self ".").mpr rfl) chain.no_dot
  · exact longer

end ScreenDispatch.Expr
