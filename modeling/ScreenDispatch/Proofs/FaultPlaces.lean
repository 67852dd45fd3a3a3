import ScreenDispatch.Proofs.ReadsSuffix

/-!
Where reading fails. The place of a fault is the end of the input or one of the tokens that were to be read, whichever
production comes across it.
-/
set_option autoImplicit false

namespace ScreenDispatch.Expr

open Token

variable {α β : Type} {m n : Nat}

-- What is left are some of these tokens, and the place of a fault is one of them or the end of the input.
def Stays (ts : List Token) : Read α n → Prop
  | .ok p => p.rest ⊆ ts
  | .error fault => ∀ t, fault.place = some t → t ∈ ts

theorem stays_fail (ts us : List Token) (cause : FaultCause) (inside : us ⊆ ts) :
    Stays ts (failAt cause us : Read α n) :=
  fun _ head => inside (List.mem_of_head? head)

theorem Stays.bind {ts : List Token} {x : Read α m} {f : Parsed Token α m → Read β n} (first : Stays ts x)
    (next : ∀ p, p.rest ⊆ ts → Stays ts (f p)) : Stays ts (x >>= f) := by
  cases x with
  | error fault => exact first
  | ok p => exact next p first

theorem Stays.among {ts us : List Token} {x : Read α n} (stays : Stays us x) (inside : us ⊆ ts) : Stays ts x := by
  cases x with
  | error fault => exact fun t place => inside (stays t place)
  | ok p => exact List.Subset.trans stays inside

theorem Stays.kept {ts : List Token} {x : Read α m} {f : Parsed Token α m → Parsed Token β n} (stays : Stays ts x)
    (same : ∀ p, (f p).rest = p.rest) : Stays ts (do return f (← x)) :=
  stays.bind fun p inside => by
    change (f p).rest ⊆ ts
    rwa [same]

theorem after_among {symbol : String} {ts : List Token} {p : Parsed Token Unit ts.length}
    (found : after? symbol ts = some p) : p.rest ⊆ ts := by
  cases ts with
  | nil => cases found
  | cons t rest =>
      rw [after?] at found
      split at found
      · cases found
        exact List.subset_cons_self t rest
      · cases found

theorem expect_stays (symbol : String) (ts : List Token) : Stays ts (expect symbol ts) := by
  unfold expect
  split
  · rename_i p found
    exact after_among found
  · exact stays_fail ts ts _ (List.Subset.refl ts)

theorem skip_label_among (ts : List Token) : skipLabel ts ⊆ ts := by
  unfold skipLabel
  split
  · rename_i name colon rest
    split
    · exact List.Subset.trans (List.subset_cons_self colon rest) (List.subset_cons_self name _)
    · exact List.Subset.refl _
  · exact List.Subset.refl _

theorem skip_label_cases (ts : List Token) : skipLabel ts = ts ∨ (skipLabel ts).length < ts.length := by
  unfold skipLabel
  split
  · split
    · exact .inr (Nat.lt_trans (Nat.lt_succ_self _) (Nat.lt_succ_self _))
    · exact .inl rfl
  · exact .inl rfl

section Types

structure TypesStay (ts : List Token) : Prop where
  type : Stays ts (type ts)
  operand : Stays ts (typeOperand ts)
  valueType : Stays ts (valueType ts)
  elements : Stays ts (typeElements ts)
  elementsFrom : Stays ts (typeElementsFrom ts)
  result : Stays ts (functionResult ts)
  members : Stays ts (memberTypes ts)
  optional : Stays ts (optionalArguments ts)
  arguments : Stays ts (typeArguments ts)

variable (ts : List Token) (shorter : ∀ us : List Token, us.length < ts.length → TypesStay us)

include shorter

theorem type_operand_stays : Stays ts (typeOperand ts) := by
  cases ts with
  | nil =>
      rw [typeOperand]
      exact stays_fail [] [] _ (List.Subset.refl [])
  | cons t rest =>
      have behind : rest ⊆ t :: rest := List.subset_cons_self t rest
      have marks (us : List Token) (inside : us ⊆ t :: rest) : skipMarks us ⊆ t :: rest :=
        fun u present => inside ((List.dropWhile_sublist _).subset present)
      rw [typeOperand]
      split
      · exact ((shorter rest (Nat.lt_succ_self _)).operand.among behind).kept fun _ => rfl
      split
      · refine ((shorter rest (Nat.lt_succ_self _)).optional.among behind).bind fun p first => ?_
        refine ((shorter p.rest p.shorter).members.among first).bind fun q second => ?_
        exact marks q.rest second
      split
      · refine ((shorter rest (Nat.lt_succ_self _)).type.among behind).bind fun p first => ?_
        refine ((shorter p.rest (Nat.lt_succ_of_lt p.shorter)).valueType.among first).bind fun q second => ?_
        refine ((expect_stays "]" q.rest).among second).bind fun r third => ?_
        exact marks r.rest third
      split
      · refine ((shorter rest (Nat.lt_succ_self _)).elements.among behind).bind fun p first => ?_
        refine ((expect_stays ")" p.rest).among first).bind fun q second => ?_
        refine ((shorter q.rest (by grind)).result.among second).bind fun r third => ?_
        exact marks r.rest third
      · exact stays_fail _ _ _ (List.Subset.refl _)

theorem type_stays (operand : Stays ts (typeOperand ts)) : Stays ts (type ts) := by
  rw [type]
  refine operand.bind fun p first => ?_
  split
  · rename_i q another
    exact ((shorter q.rest (by grind)).type.among (List.Subset.trans (after_among another) first)).kept fun _ => rfl
  · exact first

theorem value_type_stays : Stays ts (valueType ts) := by
  rw [valueType]
  split
  · rename_i p colon
    exact ((shorter p.rest p.shorter).type.among (after_among colon)).kept fun _ => rfl
  · exact List.Subset.refl ts

theorem type_elements_from_stays (type : Stays ts (type ts)) : Stays ts (typeElementsFrom ts) := by
  have first : Stays (skipLabel ts) (Expr.type (skipLabel ts)) := by
    obtain same | less := skip_label_cases ts
    · rwa [same]
    · exact (shorter _ less).type
  rw [typeElementsFrom]
  refine (first.among (skip_label_among ts)).bind fun p inside => ?_
  split
  · rename_i q comma
    exact ((shorter q.rest (by grind)).elementsFrom.among (List.Subset.trans (after_among comma) inside)).kept fun _ => rfl
  · exact inside

omit shorter in
theorem type_elements_stays (elements : Stays ts (typeElementsFrom ts)) : Stays ts (typeElements ts) := by
  rw [typeElements]
  split
  · exact List.Subset.refl ts
  · exact elements.kept fun _ => rfl

theorem function_result_stays : Stays ts (functionResult ts) := by
  have inside : skipEffects ts ⊆ ts := (List.dropWhile_sublist _).subset
  rw [functionResult]
  split
  · rename_i p arrow
    exact ((shorter p.rest (by grind)).type.among (List.Subset.trans (after_among arrow) inside)).kept fun _ => rfl
  · exact inside

theorem member_types_stays : Stays ts (memberTypes ts) := by
  match ts with
  | [] | [_] =>
      rw [memberTypes.eq_def]
      exact List.Subset.refl _
  | dot :: name :: rest =>
      have behind : rest ⊆ dot :: name :: rest := List.subset_cons_of_subset dot (List.subset_cons_self name rest)
      rw [memberTypes]
      split
      · refine ((shorter rest (by grind)).optional.among behind).bind fun p first => ?_
        exact ((shorter p.rest (by grind)).members.among first).kept fun _ => rfl
      · exact List.Subset.refl _

theorem optional_arguments_stay : Stays ts (optionalArguments ts) := by
  rw [optionalArguments]
  split
  · rename_i p opened
    exact ((shorter p.rest p.shorter).arguments.among (after_among opened)).kept fun _ => rfl
  · exact List.Subset.refl ts

theorem type_arguments_stay (type : Stays ts (type ts)) : Stays ts (typeArguments ts) := by
  rw [typeArguments]
  refine type.bind fun p first => ?_
  split
  · rename_i q comma
    exact ((shorter q.rest (by grind)).arguments.among (List.Subset.trans (after_among comma) first)).kept fun _ => rfl
  · exact ((expect_stays ">" p.rest).among first).kept fun _ => rfl

end Types

theorem types_stay (ts : List Token) : TypesStay ts := by
  have shorter (us : List Token) (less : us.length < ts.length) : TypesStay us := types_stay us
  have operand := type_operand_stays ts shorter
  have type := type_stays ts shorter operand
  have elementsFrom := type_elements_from_stays ts shorter type
  exact {
    type, operand, elementsFrom
    valueType := value_type_stays ts shorter
    elements := type_elements_stays ts elementsFrom
    result := function_result_stays ts shorter
    members := member_types_stays ts shorter
    optional := optional_arguments_stay ts shorter
    arguments := type_arguments_stay ts shorter type }
termination_by ts.length

theorem closure_end_stays (depth : Nat) (ts : List Token) : Stays ts (closureEnd depth ts) := by
  induction ts generalizing depth with
  | nil =>
      rw [closureEnd.eq_def]
      exact stays_fail [] [] _ (List.Subset.refl [])
  | cons t rest ih =>
      have behind : rest ⊆ t :: rest := List.subset_cons_self t rest
      have onward (d : Nat) (bound : rest.length ≤ (t :: rest).length) :
          Stays (t :: rest) (do return (← closureEnd d rest).widen bound) := ((ih d).among behind).kept fun _ => rfl
      rw [closureEnd.eq_def]
      dsimp only
      split
      · exact onward _ _
      split
      · cases depth with
        | zero => exact behind
        | succ depth => exact onward _ _
      · exact onward _ _

theorem skip_to_place (stops : List String) (depth : Nat) (ts : List Token) (fault : Fault)
    (failed : skipTo stops depth ts = .error fault) : ∀ t, fault.place = some t → t ∈ ts := by
  induction ts generalizing depth with
  | nil =>
      rw [skipTo.eq_def] at failed
      cases failed
      intro t none
      cases none
  | cons t rest ih =>
      have onward (d : Nat) (inner : skipTo stops d rest = .error fault) : ∀ u, fault.place = some u → u ∈ t :: rest :=
        fun u place => List.mem_cons_of_mem t (ih d inner u place)
      rw [skipTo.eq_def] at failed
      dsimp only at failed
      split at failed
      · split at failed
        · cases failed
        split at failed
        · exact onward _ failed
        split at failed
        · split at failed
          · cases failed
            exact fun u head => List.mem_of_head? head
          · exact onward _ failed
        · exact onward _ failed
      · exact onward _ failed

theorem unreadable_stays (stops : List String) (ts : List Token) : Stays ts (unreadable stops ts) := by
  unfold unreadable
  cases skipped : skipTo stops 0 ts with
  | error fault => exact skip_to_place stops 0 ts fault skipped
  | ok rest =>
      dsimp only [bind, Except.bind]
      split
      · exact (skip_to_suffix stops 0 ts rest skipped).subset
      · exact stays_fail ts ts _ (List.Subset.refl ts)

theorem element_stays (stops : List String) (ts : List Token) : Stays ts (element stops ts) := by
  rw [element]
  split
  · rename_i p read
    split
    · exact (reads_suffix .expression ts p.value p.rest (by rw [reads, read]; rfl)).subset
    · exact unreadable_stays stops ts
  · exact unreadable_stays stops ts

theorem entries_stay (ts : List Token) : Stays ts (entries ts) := by
  rw [entries]
  split
  · exact (expect_stays "]" ts).kept fun _ => rfl
  rename_i p comma
  have behind := after_among comma
  split
  · rename_i q closing
    exact List.Subset.trans (after_among closing) behind
  refine ((element_stays [":"] p.rest).among behind).bind fun key first => ?_
  refine ((expect_stays ":" key.rest).among first).bind fun colon second => ?_
  refine ((element_stays [",", "]"] colon.rest).among second).bind fun value third => ?_
  exact ((entries_stay value.rest).among third).kept fun _ => rfl
termination_by ts.length
decreasing_by all_goals grind

theorem items_stay (ts : List Token) : Stays ts (items ts) := by
  rw [items]
  split
  · exact (expect_stays "]" ts).kept fun _ => rfl
  rename_i p comma
  have behind := after_among comma
  split
  · rename_i q closing
    exact List.Subset.trans (after_among closing) behind
  refine ((element_stays [",", "]"] p.rest).among behind).bind fun item first => ?_
  exact ((items_stay item.rest).among first).kept fun _ => rfl
termination_by ts.length
decreasing_by all_goals grind

theorem collection_stays (ts rest : List Token) : Stays rest (collection ts rest) := by
  rw [collection]
  split
  · rename_i p colon
    exact ((expect_stays "]" p.rest).among (after_among colon)).bind fun q inside => inside
  split
  · rename_i p closing
    exact after_among closing
  refine (element_stays [":", ",", "]"] rest).bind fun first inside => ?_
  split
  · rename_i p colon
    refine ((element_stays [",", "]"] p.rest).among (List.Subset.trans (after_among colon) inside)).bind fun value second => ?_
    exact ((entries_stay value.rest).among second).bind fun q third => third
  · exact ((items_stay first.rest).among inside).bind fun q second => second

theorem suffixes_stay (ts : List Token) (node : Tree) (rest : List Token) : Stays rest (suffixes ts node rest) := by
  rw [suffixes.eq_def]
  split
  · exact List.Subset.refl []
  rename_i t after
  have behind : after ⊆ t :: after := List.subset_cons_self t after
  split
  · split
    · exact stays_fail _ _ _ (List.nil_subset _)
    rename_i name more
    split
    · have inside : more ⊆ t :: name :: more := List.Subset.trans (List.subset_cons_self name more) behind
      exact ((suffixes_stay ts _ more).among inside).kept fun _ => rfl
    · exact stays_fail _ _ _ behind
  split
  · refine ((types_stay after).arguments.among behind).bind fun p inside => ?_
    exact ((suffixes_stay ts _ p.rest).among inside).kept fun _ => rfl
  · exact List.Subset.refl _
termination_by rest.length
decreasing_by all_goals grind

theorem implicit_member_name_stays (ts : List Token) : Stays ts (implicitMemberName ts) := by
  unfold implicitMemberName
  split
  · exact stays_fail [] [] _ (List.Subset.refl [])
  · rename_i name rest
    split
    · exact List.subset_cons_self name rest
    · exact stays_fail _ _ _ (List.Subset.refl _)

theorem tuple_items_from_stay (ts : List Token) (each : ∀ us : List Token, us.length ≤ ts.length → Stays us (expression us)) :
    Stays ts (tupleItemsFrom ts) := by
  rw [tupleItemsFrom]
  refine ((each _ (length_skip_label ts)).among (skip_label_among ts)).bind fun p inside => ?_
  split
  · rename_i q comma
    have less : q.rest.length < ts.length := by grind
    refine ((tuple_items_from_stay q.rest fun us few => each us (by omega)).among ?_).kept fun _ => rfl
    exact List.Subset.trans (after_among comma) inside
  · exact inside
termination_by ts.length
decreasing_by all_goals grind

theorem parenthesized_stays (ts before : List Token)
    (each : ∀ us : List Token, us.length ≤ ts.length → Stays us (expression us)) : Stays ts (parenthesized before ts) := by
  have items : Stays ts (tupleItems ts) := by
    rw [tupleItems]
    split
    · exact List.Subset.refl ts
    · exact (tuple_items_from_stay ts each).kept fun _ => rfl
  rw [parenthesized]
  refine items.bind fun p first => ?_
  refine ((expect_stays ")" p.rest).among first).bind fun q second => ?_
  exact ((types_stay q.rest).result.among second).bind fun r third => third

theorem primary_stays (ts : List Token) (each : ∀ us : List Token, us.length < ts.length → Stays us (expression us)) :
    Stays ts (primary ts) := by
  cases ts with
  | nil =>
      rw [primary]
      exact stays_fail [] [] _ (List.Subset.refl [])
  | cons t rest =>
      have behind : rest ⊆ t :: rest := List.subset_cons_self t rest
      rw [primary]
      split
      · split
        · exact ((types_stay rest).type.among behind).bind fun p inside => inside
        split <;> exact behind
      · exact behind
      · exact behind
      split
      · exact List.Subset.trans (List.tail_sublist rest).subset behind
      split
      · exact ((implicit_member_name_stays rest).among behind).bind fun p inside => inside
      split
      · exact ((collection_stays _ rest).among behind).kept fun _ => rfl
      split
      · have inner := parenthesized_stays rest (t :: rest) fun us few => each us (Nat.lt_succ_of_le few)
        exact (inner.among behind).kept fun _ => rfl
      split
      · exact ((closure_end_stays 0 rest).among behind).bind fun p inside => inside
      · exact stays_fail _ _ _ (List.Subset.refl _)

theorem expression_stays (ts : List Token) : Stays ts (expression ts) := by
  have head := primary_stays ts fun us less => expression_stays us
  rw [expression]
  refine head.bind fun p inside => ?_
  exact ((suffixes_stay ts p.value p.rest).among inside).kept fun _ => rfl
termination_by ts.length
decreasing_by all_goals grind

theorem of_tokens_place (ts : List Token) (fault : Fault) (failed : ofTokens ts = .error fault) :
    fault.place = none ∨ ∃ t ∈ ts, fault.place = some t := by
  have named : ∀ t, fault.place = some t → t ∈ ts := by
    have stays := expression_stays ts
    rw [ofTokens] at failed
    cases read : expression ts with
    | error other =>
        rw [read] at failed stays
        cases failed
        exact stays
    | ok p =>
        rw [read] at failed stays
        dsimp only [bind, Except.bind] at failed
        split at failed
        · cases failed
        · cases failed
          exact fun t head => stays (List.mem_of_head? head)
  cases place : fault.place with
  | none => exact .inl rfl
  | some t => exact .inr ⟨t, named t place, rfl⟩

end ScreenDispatch.Expr
