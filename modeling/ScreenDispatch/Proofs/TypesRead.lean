import ScreenDispatch.Proofs.TypeHeads

/-!
What the grammar derives is read. A type behind an arrow takes the marks and the `&` that a derivation may leave to what
stands around it, so where reading ends is told by all that follows.
-/
set_option autoImplicit false

namespace ScreenDispatch.Expr

open Token Script

def IsRead : Category → List Token → Prop
  | .type, xs => ∀ ts rest, Follows ts → Finishes ts rest → reads .type (xs ++ ts) = some ((), rest)
  | .operand, xs => ∀ ts rest, Follows ts → Finishes ts rest →
    ∃ after, reads .typeOperand (xs ++ ts) = some ((), after) ∧ (after = skipMarks ts ∨ after = rest)
  | .element, xs => ∀ stop ts, stop.isSymbol "," ∨ stop.isSymbol ")" →
    reads .typeElements (xs ++ stop :: ts) =
      if stop.isSymbol "," then reads .typeElements ts else some ((), stop :: ts)
  | .elements, xs => ∀ closing ts, closing.isSymbol ")" →
    reads .typeElements (xs ++ closing :: ts) = some ((), closing :: ts)
  | .result, xs => ∀ ts rest, Follows ts → Finishes ts rest →
    ∃ arrow after, reads .functionResult (xs ++ ts) = some (arrow, after) ∧ (after = ts ∨ after = rest)
  | .members, xs => ∀ ts, startsWith "." ts = false → startsWith "<" ts = false →
    reads .memberTypes (xs ++ ts) = some ((), ts)
  | .optionalArguments, xs => ∀ ts, startsWith "<" ts = false → reads .optionalArguments (xs ++ ts) = some ((), ts)
  | .arguments runs, xs => ∀ closing ts, closing.isSymbol ">" →
    reads .typeArguments (xs ++ closing :: ts) = some (runs, ts)

theorem type_behind_operand (whole ts after rest : List Token) (finishes : Finishes ts rest)
    (operand : reads .typeOperand whole = some ((), after)) (ended : after = skipMarks ts ∨ after = rest) :
    reads .type whole = some ((), rest) := by
  rw [reads_type, typeScript, run_call, operand, Option.bind_some]
  have alone (same : after = rest) :
      (Script.ifTake (isSymbol "&") (fun _ => .call .type .done) (.done ())).run whole after = some ((), rest) := by
    rw [same, run_symbol_missed _ _ _ _ finishes.alone, run_done]
  obtain same | same := ended
  · cases finishes with
    | stop marks noAnd => exact alone (same.trans marks)
    | joined and more marks symbol onward unmarked noAnd =>
        rw [same, marks, run_symbol _ _ _ _ symbol, run_call, onward]
        rfl
  · exact alone same

theorem IsRead.stopped {xs : List Token} (type : IsRead .type xs) (t : Token) (ts : List Token) (symbol : String)
    (found : t.isSymbol symbol) (closes : symbol ∈ [",", ">", ":", "]", ")"]) :
    reads .type (xs ++ t :: ts) = some ((), t :: ts) := by
  refine type _ _ (follows_symbol t ts symbol found ?_) (finishes_symbol t ts symbol found ?_)
  · simp only [followers, List.mem_cons, List.not_mem_nil, or_false] at closes ⊢
    tauto
  · rintro other
    simp only [List.mem_cons, List.not_mem_nil, or_false] at closes other
    grind

theorem joined_read (xs more : List Token) (and : Token) (symbol : and.isSymbol "&") (operand : IsRead .operand xs)
    (onward : IsRead .type more) : IsRead .type (xs ++ and :: more) := by
  intro ts rest follows finishes
  have behind := onward ts rest follows finishes
  have longer : Finishes (and :: (more ++ ts)) rest :=
    .joined and (more ++ ts) (skip_marks_symbol "&" symbol (by decide)) symbol behind finishes.unmarked finishes.alone
  obtain ⟨after, read, ended⟩ := operand _ rest (follows_symbol and _ "&" symbol (by decide)) longer
  rw [List.append_assoc]
  exact type_behind_operand _ _ after rest longer read ended

theorem prefixed_read (xs : List Token) (word : Token) (isPrefix : isTypePrefix word) (operand : IsRead .operand xs) :
    IsRead .operand (word :: xs) := by
  intro ts rest follows finishes
  obtain ⟨after, read, ended⟩ := operand ts rest follows finishes
  refine ⟨after, ?_, ended⟩
  rw [List.cons_append, reads_type_operand, typeOperandScript, run_take, if_pos isPrefix, run_call, read]
  rfl

theorem marks_read (marks ts : List Token) (marked : ∀ t ∈ marks, isPostfixMark t) :
    reads .marks (marks ++ ts) = some ((), skipMarks ts) := by
  change some ((), skipMarks (marks ++ ts)) = _
  rw [skip_marks_append ts marked]

theorem named_read (arguments members marks : List Token) (name : Token) (ident : name.kind = .ident)
    (noPrefix : ¬ isTypePrefix name) (first : IsRead .optionalArguments arguments) (behind : IsRead .members members)
    (derived : Derives .members members) (marked : ∀ t ∈ marks, isPostfixMark t) :
    IsRead .operand (name :: (arguments ++ (members ++ marks))) := by
  intro ts rest follows finishes
  have noDot := (follows.marks marked).no_symbol "." (by decide)
  have noAngle := (follows.marks marked).no_symbol "<" (by decide)
  refine ⟨skipMarks ts, ?_, .inl rfl⟩
  rw [List.cons_append, List.append_assoc, List.append_assoc, reads_type_operand, typeOperandScript, run_take,
    if_neg noPrefix, if_pos ident, run_call, first _ (members_head "<" (by decide) _ _ derived noAngle),
    Option.bind_some, run_call, behind _ noDot noAngle, Option.bind_some, run_call, marks_read marks ts marked]
  rfl

theorem bracket_operand (opening : Token) (opens : opening.isPunctuation "[") (ts : List Token) :
    reads .typeOperand (opening :: ts) =
      (Script.call .type fun _ => .call .valueType fun _ => .expect "]" (.call .marks .done)).run (opening :: ts) ts := by
  obtain ⟨kind, -⟩ := (punctuation_iff "[" opening).mp opens
  rw [reads_type_operand, typeOperandScript, run_take, if_neg, if_neg, if_pos opens]
  · simp [kind]
  · simp [isTypePrefix, kind]

theorem parenthesis_operand (opening : Token) (opens : opening.isPunctuation "(") (ts : List Token) :
    reads .typeOperand (opening :: ts) =
      (Script.ifTake (isSymbol ")") (fun _ => resultMarks)
        (.call .typeElements fun _ => .expect ")" resultMarks)).run (opening :: ts) ts := by
  obtain ⟨kind, value⟩ := (punctuation_iff "(" opening).mp opens
  rw [reads_type_operand, typeOperandScript, run_take, if_neg, if_neg, if_neg, if_pos opens]
  · simp [isPunctuation, value]
  · simp [kind]
  · simp [isTypePrefix, kind]

theorem array_read (xs marks : List Token) (opening closing : Token) (opens : opening.isPunctuation "[")
    (closes : closing.isSymbol "]") (item : IsRead .type xs) (marked : ∀ t ∈ marks, isPostfixMark t) :
    IsRead .operand (opening :: (xs ++ closing :: marks)) := by
  intro ts rest follows finishes
  refine ⟨skipMarks ts, ?_, .inl rfl⟩
  have noColon : startsWith ":" (closing :: (marks ++ ts)) = false := symbol_alone "]" ":" closes (by decide)
  have single : reads .valueType (closing :: (marks ++ ts)) = some ((), closing :: (marks ++ ts)) := by
    rw [reads_value_type, valueTypeScript, run_symbol_missed _ _ _ _ noColon, run_done]
  rw [List.cons_append, List.append_assoc, List.cons_append, bracket_operand opening opens, run_call,
    item.stopped closing _ "]" closes (by decide), Option.bind_some, run_call, single, Option.bind_some, Script.expect,
    run_symbol _ _ _ _ closes, run_call, marks_read marks ts marked]
  rfl

theorem dictionary_read (xs ys marks : List Token) (opening colon closing : Token) (opens : opening.isPunctuation "[")
    (divider : colon.isSymbol ":") (closes : closing.isSymbol "]") (key : IsRead .type xs) (value : IsRead .type ys)
    (marked : ∀ t ∈ marks, isPostfixMark t) :
    IsRead .operand (opening :: (xs ++ colon :: (ys ++ closing :: marks))) := by
  intro ts rest follows finishes
  refine ⟨skipMarks ts, ?_, .inl rfl⟩
  have second : reads .valueType (colon :: (ys ++ closing :: (marks ++ ts))) = some ((), closing :: (marks ++ ts)) := by
    rw [reads_value_type, valueTypeScript, run_symbol _ _ _ _ divider, run_call,
      value.stopped closing _ "]" closes (by decide)]
    rfl
  rw [List.cons_append, List.append_assoc, List.cons_append, List.append_assoc, List.cons_append,
    bracket_operand opening opens, run_call, key.stopped colon _ ":" divider (by decide), Option.bind_some, run_call,
    second, Option.bind_some, Script.expect, run_symbol _ _ _ _ closes, run_call, marks_read marks ts marked]
  rfl

theorem result_marks_read (start result marks ts rest : List Token) (returned : IsRead .result result)
    (marked : ∀ t ∈ marks, isPostfixMark t) (follows : Follows ts) (finishes : Finishes ts rest) :
    ∃ after, resultMarks.run start (result ++ (marks ++ ts)) = some ((), after) ∧
      (after = skipMarks ts ∨ after = rest) := by
  obtain ⟨arrow, after, read, ended⟩ := returned _ rest (follows.marks marked) (finishes.marks marked)
  refine ⟨skipMarks after, ?_, ?_⟩
  · rw [resultMarks, run_call, read]
    rfl
  · obtain rfl | rfl := ended
    · exact .inl (skip_marks_append ts marked)
    · exact .inr finishes.unmarked

theorem unit_read (result marks : List Token) (opening closing : Token) (opens : opening.isPunctuation "(")
    (closes : closing.isSymbol ")") (returned : IsRead .result result) (marked : ∀ t ∈ marks, isPostfixMark t) :
    IsRead .operand (opening :: closing :: (result ++ marks)) := by
  intro ts rest follows finishes
  rw [List.cons_append, List.cons_append, List.append_assoc, parenthesis_operand opening opens, run_symbol _ _ _ _ closes]
  exact result_marks_read _ result marks ts rest returned marked follows finishes

theorem tuple_read (xs result marks : List Token) (opening closing : Token) (opens : opening.isPunctuation "(")
    (closes : closing.isSymbol ")") (inside : IsRead .elements xs) (derived : Derives .elements xs)
    (returned : IsRead .result result) (marked : ∀ t ∈ marks, isPostfixMark t) :
    IsRead .operand (opening :: (xs ++ closing :: (result ++ marks))) := by
  intro ts rest follows finishes
  have begun := operand_no_symbol ")" (by decide) xs (closing :: (result ++ (marks ++ ts)))
    (derived_starts _ xs derived rfl)
  rw [List.cons_append, List.append_assoc, List.cons_append, List.append_assoc, parenthesis_operand opening opens,
    run_symbol_missed _ _ _ _ begun, run_call, inside closing _ closes, Option.bind_some, Script.expect,
    run_symbol _ _ _ _ closes]
  exact result_marks_read _ result marks ts rest returned marked follows finishes

theorem no_result_read : IsRead .result [] := by
  intro ts rest follows finishes
  refine ⟨false, ts, ?_, .inl rfl⟩
  have effects : reads .effects ts = some ((), ts) := congrArg (fun left => some ((), left)) follows.no_effects
  rw [List.nil_append, reads_function_result, functionResultScript, run_call, effects, Option.bind_some,
    run_symbol_missed _ _ _ _ (follows.no_symbol "->" (by decide)), run_done]

theorem result_read (xs : List Token) (arrow : Token) (symbol : arrow.isSymbol "->") (returned : IsRead .type xs) :
    IsRead .result (arrow :: xs) := by
  intro ts rest follows finishes
  refine ⟨true, rest, ?_, .inr rfl⟩
  have effects : reads .effects (arrow :: (xs ++ ts)) = some ((), arrow :: (xs ++ ts)) := by
    change some ((), skipEffects _) = _
    rw [skipEffects, List.dropWhile_cons_of_neg (by simp [isEffect, symbol_no_word "->" symbol])]
  rw [List.cons_append, reads_function_result, functionResultScript, run_call, effects, Option.bind_some,
    run_symbol _ _ _ _ symbol, run_call, returned ts rest follows finishes]
  rfl

theorem element_behind_label (start xs ts : List Token) (item : IsRead .type xs) (stop : Token)
    (ends : stop.isSymbol "," ∨ stop.isSymbol ")") :
    typeElement.run start (xs ++ stop :: ts) =
      if stop.isSymbol "," then reads .typeElements ts else some ((), stop :: ts) := by
  have type : reads .type (xs ++ stop :: ts) = some ((), stop :: ts) := by
    obtain comma | closing := ends
    · exact item.stopped stop ts "," comma (by decide)
    · exact item.stopped stop ts ")" closing (by decide)
  rw [typeElement, run_call, type, Option.bind_some, run_if_take]
  split
  · exact Option.bind_fun_some _
  · rfl

theorem plain_read (xs : List Token) (item : IsRead .type xs) (derived : Derives .type xs) : IsRead .element xs := by
  intro stop ts ends
  have behind : startsWith ":" (stop :: ts) = false := by
    obtain comma | closing := ends
    · exact symbol_alone "," ":" comma (by decide)
    · exact symbol_alone ")" ":" closing (by decide)
  have plain := type_no_label _ xs derived (.inl rfl) (stop :: ts) behind
  rw [reads_type_elements, typeElementsScript, run_pair_missed, element_behind_label _ xs ts item stop ends]
  rintro t u rest whole label
  rw [whole] at plain
  exact Bool.false_ne_true (plain.symm.trans label)

theorem labelled_read (xs : List Token) (label colon : Token) (ident : label.kind = .ident)
    (divider : colon.isSymbol ":") (item : IsRead .type xs) : IsRead .element (label :: colon :: xs) := by
  intro stop ts ends
  rw [List.cons_append, List.cons_append, reads_type_elements, typeElementsScript, run_if_take_two,
    if_pos (by simp [ident, divider]), element_behind_label _ xs ts item stop ends]

theorem members_read (arguments more : List Token) (dot name : Token) (symbol : dot.isSymbol ".")
    (ident : name.kind = .ident) (first : IsRead .optionalArguments arguments) (onward : IsRead .members more)
    (derived : Derives .members more) : IsRead .members (dot :: name :: (arguments ++ more)) := by
  intro ts noDot noAngle
  rw [List.cons_append, List.cons_append, List.append_assoc, reads_member_types, memberTypesScript, run_if_take_two,
    if_pos (by simp [symbol, ident]), run_call, first _ (members_head "<" (by decide) _ _ derived noAngle),
    Option.bind_some, run_call, onward ts noDot noAngle]
  rfl

theorem no_member_read : IsRead .members [] := by
  intro ts noDot noAngle
  rw [List.nil_append, reads_member_types, memberTypesScript, run_pair_missed, run_done]
  rintro t u rest rfl both
  rw [Bool.and_eq_true] at both
  exact Bool.false_ne_true (noDot.symm.trans both.1)

theorem bracketed_read (xs : List Token) (runs : List (List Token)) (opening closing : Token)
    (opens : opening.isSymbol "<") (closes : closing.isSymbol ">") (inside : IsRead (.arguments runs) xs) :
    IsRead .optionalArguments (opening :: (xs ++ [closing])) := by
  intro ts noAngle
  rw [List.cons_append, List.append_assoc, reads_optional_arguments, optionalArgumentsScript, run_symbol _ _ _ _ opens,
    run_call, List.singleton_append, inside closing ts closes]
  rfl

theorem derived_read (category : Category) (xs : List Token) (derived : Derives category xs) : IsRead category xs := by
  induction derived with
  | single operand ih =>
      intro ts rest follows finishes
      obtain ⟨after, read, ended⟩ := ih ts rest follows finishes
      exact type_behind_operand _ ts after rest finishes read ended
  | joined and symbol operand onward first second => exact joined_read _ _ and symbol first second
  | prefixed word isPrefix operand ih => exact prefixed_read _ word isPrefix ih
  | named name ident noPrefix first members marked firstIh membersIh =>
      exact named_read _ _ _ name ident noPrefix firstIh membersIh members marked
  | array opening closing opens closes item marked ih => exact array_read _ _ opening closing opens closes ih marked
  | dictionary opening colon closing opens divider closes key value marked keyIh valueIh =>
      exact dictionary_read _ _ _ opening colon closing opens divider closes keyIh valueIh marked
  | unit opening closing opens closes returned marked ih =>
      exact unit_read _ _ opening closing opens closes ih marked
  | tuple opening closing opens closes inside returned marked insideIh returnedIh =>
      exact tuple_read _ _ _ opening closing opens closes insideIh inside returnedIh marked
  | noResult => exact no_result_read
  | result arrow symbol returned ih => exact result_read _ arrow symbol ih
  | plain item ih => exact plain_read _ ih item
  | labelled label colon ident divider item ih => exact labelled_read _ label colon ident divider ih
  | lastElement item ih =>
      intro closing ts closes
      rw [ih closing ts (.inr closes), if_neg (by simp [symbol_alone ")" "," closes])]
  | nextElement comma separator item onward ih others =>
      intro closing ts closes
      rw [List.append_assoc, List.cons_append, ih comma _ (.inl separator), if_pos separator, others closing ts closes]
  | noMember => exact no_member_read
  | member dot name symbol ident first onward firstIh onwardIh =>
      exact members_read _ _ dot name symbol ident firstIh onwardIh onward
  | noArguments =>
      intro ts noAngle
      rw [List.nil_append, reads_optional_arguments, optionalArgumentsScript, run_symbol_missed _ _ _ _ noAngle, run_done]
  | bracketed opening closing opens closes inside ih => exact bracketed_read _ _ opening closing opens closes ih
  | lastArgument item ih =>
      intro closing ts closes
      rw [type_arguments_stop _ closing ts (ih.stopped closing ts ">" closes (by decide)),
        if_neg (by simp [symbol_alone ">" "," closes]), if_pos closes]
  | nextArgument comma separator item onward ih others =>
      intro closing ts closes
      rw [List.append_assoc, List.cons_append,
        type_arguments_stop _ comma _ (ih.stopped comma _ "," separator (by decide)), if_pos separator,
        others closing ts closes]
      rfl

end ScreenDispatch.Expr
