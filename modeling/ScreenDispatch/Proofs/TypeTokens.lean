import ScreenDispatch.Proofs.Discipline

/-!
Types by themselves. A production of types takes names and the symbols of types and nothing else, and what
stands behind the token at which it stops does not matter, as long as no name and no dot stops it.
-/
set_option autoImplicit false

namespace ScreenDispatch.Expr

open Token Script

variable {α : Type}

def Production.ofTypes : Production → Bool
  | .type | .typeOperand | .valueType | .typeElements | .functionResult | .memberTypes | .optionalArguments
  | .typeArguments | .marks | .effects => true
  | _ => false

def typeSymbols : List String := ["<", ">", ".", ",", ":", "[", "]", "(", ")", "?", "!", "&", "->"]

def TypeToken (t : Token) : Prop := t.kind = .ident ∨ t.value ∈ typeSymbols

-- No two tokens that are taken together begin with this one.
def Firm (t : Token) : Prop := t.kind ≠ .ident ∧ ¬ t.isSymbol "."

def Script.OfTypes : Script α → Prop
  | .done _ | .fail => True
  | .here next => ∀ run, (next run).OfTypes
  | .take next => ∀ t, (TypeToken t ∧ (next t).OfTypes) ∨ next t = .fail
  | .ifTake test yes no => (∀ t, test t → TypeToken t ∧ (yes t).OfTypes) ∧ no.OfTypes
  | .ifTakeTwo first second yes no =>
    (∀ t, first t → ¬ Firm t) ∧ (∀ t u, first t → second u → TypeToken t ∧ TypeToken u ∧ (yes t u).OfTypes) ∧ no.OfTypes
  | .ifType _ _ | .element _ _ | .closure _ => False
  | .call p next => p.ofTypes ∧ ∀ value, (next value).OfTypes

structure Settled {β : Type} (run : List Token → Outcome β) (xs rest : List Token) (value : β) : Prop where
  typed : ∀ t ∈ xs, TypeToken t
  stopped : ∀ mid stop more, rest = mid ++ stop :: more → Firm stop → ∀ other,
    run (xs ++ mid ++ stop :: other) = some (value, mid ++ stop :: other)

def SettlesAt (p : Production) (ts : List Token) : Prop :=
  ∀ value rest, reads p ts = some (value, rest) → ∃ xs, ts = xs ++ rest ∧ Settled (reads p) xs rest value

section

variable (first second : Token → Bool) (yes : Token → Token → Script α) (no : Script α)

theorem run_pair_missed (start ts : List Token)
    (missed : ∀ t u rest, ts = t :: u :: rest → ¬ (first t && second u)) :
    (Script.ifTakeTwo first second yes no).run start ts = no.run start ts := by
  match ts with
  | [] => rfl
  | [_] => rfl
  | t :: u :: rest => rw [run_if_take_two, if_neg (missed t u rest rfl)]

theorem calls_pair_missed (ok : Production → List Token → Prop) (start ts : List Token)
    (missed : ∀ t u rest, ts = t :: u :: rest → ¬ (first t && second u))
    (calls : (Script.ifTakeTwo first second yes no).Calls ok start ts) : no.Calls ok start ts := by
  match ts with
  | [] => exact calls
  | [_] => exact calls
  | t :: u :: rest =>
      rw [calls_test_two, if_neg (missed t u rest rfl)] at calls
      exact calls

end

theorem head_behind (ts more other rest : List Token) (t stop : Token) (whole : t :: rest = ts ++ stop :: more) :
    ∃ left, ts ++ stop :: other = t :: left := by
  cases ts with
  | nil =>
      obtain ⟨rfl, _⟩ := List.cons_eq_cons.mp whole
      exact ⟨other, rfl⟩
  | cons u front =>
      obtain ⟨rfl, _⟩ := List.cons_eq_cons.mp whole
      exact ⟨front ++ stop :: other, rfl⟩

-- Nor does it see a pair that passes now: the pair begins with the stop, which does not pass, or it was there before.
theorem pair_behind (first second : Token → Bool) (ts : List Token) (stop : Token) (more other : List Token)
    (firm : ¬ first stop) (missed : ∀ t u rest, ts ++ stop :: more = t :: u :: rest → ¬ (first t && second u))
    (t u : Token) (rest : List Token) (whole : ts ++ stop :: other = t :: u :: rest) : ¬ (first t && second u) := by
  match ts with
  | [] =>
      obtain ⟨rfl, _⟩ := List.cons_eq_cons.mp whole
      exact fun passed => firm ((Bool.and_eq_true _ _).mp passed).1
  | [a] =>
      cases whole
      exact missed t stop more rfl
  | a :: b :: front =>
      cases whole
      exact missed t u _ rfl

theorem run_settles (s : Script α) (used ts : List Token) (types : s.OfTypes)
    (calls : s.Calls (fun p us => p.ofTypes → SettlesAt p us) (used ++ ts) ts) (value : α) (rest : List Token)
    (read : s.run (used ++ ts) ts = some (value, rest)) :
    ∃ xs, ts = xs ++ rest ∧ Settled (fun us => s.run (used ++ us) us) xs rest value := by
  induction s generalizing used ts with
  | done found =>
      cases read
      exact ⟨[], rfl, nofun, fun mid stop more _ _ other => rfl⟩
  | fail => cases read
  | here next ih =>
      rw [run_here, taken_from] at read
      unfold Script.Calls at calls
      rw [taken_from] at calls
      obtain ⟨xs, whole, typed, stopped⟩ := ih used used ts (types used) calls read
      refine ⟨xs, whole, typed, fun mid stop more behind firm other => ?_⟩
      rw [run_here, taken_from]
      exact stopped mid stop more behind firm other
  | take next ih =>
      cases ts with
      | nil => cases read
      | cons t more =>
          obtain ⟨plain, onward⟩ | stuck := types t
          · rw [List.append_cons] at read calls
            obtain ⟨xs, rfl, typed, stopped⟩ := ih t (used ++ [t]) more onward calls read
            refine ⟨t :: xs, rfl, List.forall_mem_cons.mpr ⟨plain, typed⟩, fun mid stop more behind firm other => ?_⟩
            have inner := stopped mid stop more behind firm other
            rw [← List.append_cons] at inner
            exact inner
          · rw [run_take, stuck] at read
            cases read
  | ifTake test yes no yesIh noIh =>
      cases ts with
      | nil =>
          obtain ⟨xs, whole, typed, stopped⟩ := noIh used [] types.2 calls read
          obtain ⟨rfl, rfl⟩ := List.append_eq_nil_iff.mp whole.symm
          exact ⟨[], rfl, nofun, fun mid stop more behind => by simp at behind⟩
      | cons t more =>
          rw [run_if_take] at read
          rw [calls_test] at calls
          by_cases passed : test t
          · rw [if_pos passed] at read calls
            obtain ⟨plain, onward⟩ := types.1 t passed
            rw [List.append_cons] at read calls
            obtain ⟨xs, rfl, typed, stopped⟩ := yesIh t (used ++ [t]) more onward calls read
            refine ⟨t :: xs, rfl, List.forall_mem_cons.mpr ⟨plain, typed⟩, fun mid stop more behind firm other => ?_⟩
            have inner := stopped mid stop more behind firm other
            rw [← List.append_cons] at inner
            rw [List.cons_append, List.cons_append, run_if_take, if_pos passed]
            exact inner
          · rw [if_neg passed] at read calls
            obtain ⟨xs, whole, typed, stopped⟩ := noIh used (t :: more) types.2 calls read
            refine ⟨xs, whole, typed, fun mid stop behind same firm other => ?_⟩
            have inner := stopped mid stop behind same firm other
            obtain ⟨left, front⟩ := head_behind (xs ++ mid) behind other more t stop (by simp [whole, same])
            rw [front] at inner ⊢
            rw [run_if_take, if_neg passed]
            exact inner
  | ifTakeTwo first second yes no yesIh noIh =>
      by_cases pair : ∃ t u others, ts = t :: u :: others ∧ (first t && second u)
      · obtain ⟨t, u, others, rfl, passed⟩ := pair
        rw [run_if_take_two, if_pos passed] at read
        rw [calls_test_two, if_pos passed] at calls
        rw [Bool.and_eq_true] at passed
        obtain ⟨left, right, onward⟩ := types.2.1 t u passed.1 passed.2
        have moved (us : List Token) : used ++ t :: u :: us = used ++ [t, u] ++ us := by simp
        rw [moved] at read calls
        obtain ⟨xs, rfl, typed, stopped⟩ := yesIh t u (used ++ [t, u]) others onward calls read
        refine ⟨t :: u :: xs, rfl, List.forall_mem_cons.mpr ⟨left, List.forall_mem_cons.mpr ⟨right, typed⟩⟩,
          fun mid stop more behind firm other => ?_⟩
        have inner := stopped mid stop more behind firm other
        rw [← moved] at inner
        rw [List.cons_append, List.cons_append, List.cons_append, List.cons_append, run_if_take_two,
          if_pos (by rw [passed.1, passed.2]; rfl)]
        exact inner
      · have missed (t u : Token) (others : List Token) (whole : ts = t :: u :: others) : ¬ (first t && second u) :=
          fun passed => pair ⟨t, u, others, whole, passed⟩
        rw [run_pair_missed first second yes no _ ts missed] at read
        have later := calls_pair_missed first second yes no _ _ ts missed calls
        obtain ⟨xs, whole, typed, stopped⟩ := noIh used ts types.2.2 later read
        refine ⟨xs, whole, typed, fun mid stop more behind firm other => ?_⟩
        have inner := stopped mid stop more behind firm other
        rw [run_pair_missed first second yes no]
        · exact inner
        refine pair_behind first second (xs ++ mid) stop more other (fun passed => types.1 stop passed firm) ?_
        rwa [List.append_assoc, ← behind, ← whole]
  | ifType | element | closure => exact types.elim
  | call p next ih =>
      obtain ⟨⟨found, middle⟩, called, after⟩ := Option.bind_eq_some_iff.mp read
      obtain ⟨xs, rfl, typed, stopped⟩ := calls.1 types.1 found middle called
      have later := calls.2 found middle called
      rw [← List.append_assoc] at later after
      obtain ⟨ys, rfl, moreTyped, moreStopped⟩ := ih found (used ++ xs) middle (types.2 found) later after
      refine ⟨xs ++ ys, (List.append_assoc _ _ _).symm, List.forall_mem_append.mpr ⟨typed, moreTyped⟩,
        fun mid stop more behind firm other => ?_⟩
      have first := stopped (ys ++ mid) stop more (by rw [behind, List.append_assoc]) firm other
      have second := moreStopped mid stop more behind firm other
      have whole : used ++ (xs ++ ys ++ mid ++ stop :: other) = used ++ xs ++ (ys ++ mid ++ stop :: other) := by
        simp only [List.append_assoc]
      rw [whole, run_call, show xs ++ ys ++ mid ++ stop :: other = xs ++ (ys ++ mid) ++ stop :: other by
        simp only [List.append_assoc], first]
      exact second

theorem symbol_of_type (symbol : String) (among : symbol ∈ typeSymbols) (t : Token) (found : t.isSymbol symbol) :
    TypeToken t :=
  .inr (symbol_value symbol t found ▸ among)

theorem of_types_symbol (symbol : String) (among : symbol ∈ typeSymbols) (yes : Token → Script α) (no : Script α)
    (onward : ∀ t, (yes t).OfTypes) (other : no.OfTypes) : (Script.ifTake (isSymbol symbol) yes no).OfTypes :=
  ⟨fun t found => ⟨symbol_of_type symbol among t found, onward t⟩, other⟩

theorem of_types_last (p : Production) (types : p.ofTypes) : (Script.call p Script.done).OfTypes :=
  ⟨types, fun _ => trivial⟩

theorem of_types_result_marks : resultMarks.OfTypes := ⟨rfl, fun _ => of_types_last .marks rfl⟩

theorem of_types_type_operand : typeOperandScript.OfTypes := by
  have punctuation (symbol : String) (among : symbol ∈ typeSymbols) (t : Token) (found : t.isPunctuation symbol) :
      TypeToken t :=
    .inr (((punctuation_iff symbol t).mp found).2 ▸ among)
  intro t
  dsimp only
  split
  · rename_i word
    exact .inl ⟨.inl (prefix_kind t word), of_types_last .typeOperand rfl⟩
  split
  · rename_i name
    exact .inl ⟨.inl name, rfl, fun _ => ⟨rfl, fun _ => of_types_last .marks rfl⟩⟩
  split
  · rename_i bracket
    refine .inl ⟨punctuation "[" (by decide) t bracket, rfl, fun _ => ⟨rfl, fun _ => ?_⟩⟩
    exact of_types_symbol "]" (by decide) _ _ (fun _ => of_types_last .marks rfl) trivial
  split
  · rename_i parenthesis
    refine .inl ⟨punctuation "(" (by decide) t parenthesis, ?_⟩
    refine of_types_symbol ")" (by decide) _ _ (fun _ => of_types_result_marks) ⟨rfl, fun _ => ?_⟩
    exact of_types_symbol ")" (by decide) _ _ (fun _ => of_types_result_marks) trivial
  · exact .inr rfl

theorem of_types_elements : typeElementsScript.OfTypes := by
  have element : typeElement.OfTypes :=
    ⟨rfl, fun _ => of_types_symbol "," (by decide) _ _ (fun _ => of_types_last .typeElements rfl) trivial⟩
  refine ⟨fun t label firm => firm.1 (eq_of_beq label), fun t u label colon => ?_, element⟩
  exact ⟨.inl (eq_of_beq label), symbol_of_type ":" (by decide) u colon, element⟩

theorem of_types_member_types : memberTypesScript.OfTypes :=
  ⟨fun _ dot firm => firm.2 dot, fun t _ dot name => ⟨symbol_of_type "." (by decide) t dot, .inl (eq_of_beq name),
    rfl, fun _ => of_types_last .memberTypes rfl⟩, trivial⟩

theorem of_types_type_arguments : typeArgumentsScript.OfTypes := by
  refine ⟨rfl, fun _ run => of_types_symbol "," (by decide) _ _ (fun _ => ⟨rfl, fun _ => trivial⟩) ?_⟩
  exact of_types_symbol ">" (by decide) _ _ (fun _ => trivial) trivial

theorem of_types_marks : marksScript.OfTypes := by
  refine ⟨fun t mark => ⟨?_, of_types_last .marks rfl⟩, trivial⟩
  obtain question | exclamation := Bool.or_eq_true_iff.mp mark
  · exact symbol_of_type "?" (by decide) t question
  · exact symbol_of_type "!" (by decide) t exclamation

theorem of_types (p : Production) (types : p.ofTypes) : (script p).OfTypes := by
  cases p with
  | type => exact ⟨rfl, fun _ => of_types_symbol "&" (by decide) _ _ (fun _ => of_types_last .type rfl) trivial⟩
  | typeOperand => exact of_types_type_operand
  | valueType => exact of_types_symbol ":" (by decide) _ _ (fun _ => of_types_last .type rfl) trivial
  | typeElements => exact of_types_elements
  | functionResult =>
      exact ⟨rfl, fun _ => of_types_symbol "->" (by decide) _ _ (fun _ => ⟨rfl, fun _ => trivial⟩) trivial⟩
  | memberTypes => exact of_types_member_types
  | optionalArguments => exact of_types_symbol "<" (by decide) _ _ (fun _ => ⟨rfl, fun _ => trivial⟩) trivial
  | typeArguments => exact of_types_type_arguments
  | marks => exact of_types_marks
  | effects => exact ⟨fun t effect => ⟨.inl (effect_kind t effect), of_types_last .effects rfl⟩, trivial⟩
  | suffixes | expression | primary | collection | entries | items | parenthesized | tupleItems => cases types

theorem reads_settles (p : Production) (ts : List Token) (types : p.ofTypes) : SettlesAt p ts := by
  induction p, ts using production_induction with
  | step p ts calls =>
      intro value rest read
      rw [reads_eq] at read
      obtain ⟨xs, whole, settled⟩ := run_settles (script p) [] ts (of_types p types) calls value rest read
      refine ⟨xs, whole, settled.typed, fun mid stop more behind firm other => ?_⟩
      rw [reads_eq]
      exact settled.stopped mid stop more behind firm other

end ScreenDispatch.Expr
