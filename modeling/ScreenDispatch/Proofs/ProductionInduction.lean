import ScreenDispatch.Proofs.ScriptOutcome

/-!
Induction over the calls of a script. A call has fewer tokens before it or comes later among the
productions, so what holds of a production whenever it holds of the calls of its script holds always.
-/
set_option autoImplicit false

namespace ScreenDispatch.Expr

open Token Script

variable {α : Type} {n : Nat}

def Production.least : Production → Nat
  | .type | .typeOperand | .typeElements | .typeArguments | .expression | .primary | .collection _
  | .entries | .items | .parenthesized _ | .tupleItems => 1
  | _ => 0

theorem outcome_some {x : Read α n} {value : α} {rest : List Token}
    (read : outcome x = some (value, rest)) : ∃ shorter, x = .ok ⟨value, rest, shorter⟩ := by
  cases x with
  | error fault => cases read
  | ok p =>
      cases read
      exact ⟨p.shorter, rfl⟩

theorem length_reads (p : Production) (ts : List Token) (value : p.Value) (rest : List Token)
    (read : reads p ts = some (value, rest)) : rest.length + p.least ≤ ts.length := by
  cases p with
  | marks =>
      cases read
      exact length_skip_marks ts
  | effects =>
      cases read
      exact length_skip_effects ts
  | _ =>
      obtain ⟨shorter, _⟩ := outcome_some read
      simp only [Production.least]
      omega

def Script.Calls (ok : Production → List Token → Prop) (start : List Token) :
    Script α → List Token → Prop
  | .done _, _ => True
  | .fail, _ => True
  | .here next, ts => (next (taken start ts)).Calls ok start ts
  | .take _, [] => True
  | .take next, t :: rest => (next t).Calls ok start rest
  | .ifTake _ _ no, [] => no.Calls ok start []
  | .ifTake test yes no, t :: rest =>
    if test t then (yes t).Calls ok start rest else no.Calls ok start (t :: rest)
  | .ifTakeTwo first second yes no, ts =>
    match ts with
    | t :: u :: rest =>
      if first t && second u then (yes t u).Calls ok start rest else no.Calls ok start (t :: u :: rest)
    | ts => no.Calls ok start ts
  | .ifType yes no, ts =>
    if startsOperand ts then
      ok .type ts ∧ ∀ rest, reads .type ts = some ((), rest) → yes.Calls ok start rest
    else no.Calls ok start ts
  | .element stops next, ts =>
    ok .expression ts ∧ ∀ value rest, outcome (Expr.element stops ts) = some (value, rest) →
      (next value).Calls ok start rest
  | .closure next, ts =>
    ∀ rest, outcome (closureEnd 0 ts) = some ((), rest) → next.Calls ok start rest
  | .call p next, ts =>
    ok p ts ∧ ∀ value rest, reads p ts = some (value, rest) → (next value).Calls ok start rest

section

variable (ok : Production → List Token → Prop) (start : List Token)

theorem calls_test (test : Token → Bool) (yes : Token → Script α) (no : Script α) (t : Token)
    (rest : List Token) : (Script.ifTake test yes no).Calls ok start (t :: rest) =
      if test t then (yes t).Calls ok start rest else no.Calls ok start (t :: rest) := rfl

theorem calls_test_two (first second : Token → Bool) (yes : Token → Token → Script α) (no : Script α)
    (t u : Token) (rest : List Token) :
    (Script.ifTakeTwo first second yes no).Calls ok start (t :: u :: rest) =
      if first t && second u then (yes t u).Calls ok start rest else no.Calls ok start (t :: u :: rest) := rfl

theorem calls_operand (yes no : Script α) (ts : List Token) :
    (Script.ifType yes no).Calls ok start ts =
      if startsOperand ts then
        ok .type ts ∧ ∀ rest, reads .type ts = some ((), rest) → yes.Calls ok start rest
      else no.Calls ok start ts := rfl

end

theorem Script.Calls.imp {ok good : Production → List Token → Prop}
    (step : ∀ p ts, ok p ts → good p ts) (start : List Token) (s : Script α) (ts : List Token)
    (calls : s.Calls ok start ts) : s.Calls good start ts := by
  induction s generalizing ts with
  | done | fail => trivial
  | here next ih => exact ih _ ts calls
  | take next ih =>
      cases ts with
      | nil => trivial
      | cons t rest => exact ih t rest calls
  | ifTake test yes no yesIh noIh =>
      cases ts with
      | nil => exact noIh [] calls
      | cons t rest =>
          rw [calls_test] at calls ⊢
          split at calls
          · rename_i passed
            rw [if_pos passed]
            exact yesIh t rest calls
          · rename_i other
            rw [if_neg other]
            exact noIh _ calls
  | ifTakeTwo first second yes no yesIh noIh =>
      match ts with
      | [] => exact noIh [] calls
      | [t] => exact noIh [t] calls
      | t :: u :: rest =>
          rw [calls_test_two] at calls ⊢
          split at calls
          · rename_i passed
            rw [if_pos passed]
            exact yesIh t u rest calls
          · rename_i other
            rw [if_neg other]
            exact noIh _ calls
  | ifType yes no yesIh noIh =>
      rw [calls_operand] at calls ⊢
      split at calls
      · rename_i operand
        rw [if_pos operand]
        exact ⟨step _ _ calls.1, fun rest read => yesIh rest (calls.2 rest read)⟩
      · rename_i other
        rw [if_neg other]
        exact noIh ts calls
  | element stops next ih | call p next ih =>
      exact ⟨step _ _ calls.1, fun value rest read => ih value rest (calls.2 value rest read)⟩
  | closure next ih => exact fun rest read => ih rest (calls rest read)

-- Productions that are called without a token taken before come earlier.
def Production.rank : Production → Nat
  | .type | .expression => 1
  | .valueType | .typeElements | .functionResult | .typeArguments | .tupleItems => 2
  | .optionalArguments | .collection _ => 3
  | .parenthesized _ => 4
  | _ => 0

def Production.weight (p : Production) (ts : List Token) : Nat := 5 * ts.length + p.rank

theorem rank_le (p : Production) : p.rank ≤ 4 := by
  cases p <;> simp [Production.rank]

abbrev Lighter (limit : Nat) (p : Production) (ts : List Token) : Prop := p.weight ts < limit

theorem calls_after_token (limit : Nat) (start : List Token) (s : Script α) (ts : List Token)
    (few : 5 * ts.length + 4 < limit) : s.Calls (Lighter limit) start ts := by
  have light (p : Production) (us : List Token) (shorter : us.length ≤ ts.length) : Lighter limit p us := by
    have rank := rank_le p
    unfold Lighter Production.weight
    omega
  induction s generalizing ts with
  | done | fail => trivial
  | here next ih => exact ih _ ts few light
  | take next ih =>
      cases ts with
      | nil => trivial
      | cons t rest =>
          simp only [List.length_cons] at few light
          exact ih t rest (by omega) fun p us shorter => light p us (by omega)
  | ifTake test yes no yesIh noIh =>
      cases ts with
      | nil => exact noIh [] few light
      | cons t rest =>
          rw [calls_test]
          split
          · simp only [List.length_cons] at few light
            exact yesIh t rest (by omega) fun p us shorter => light p us (by omega)
          · exact noIh _ few light
  | ifTakeTwo first second yes no yesIh noIh =>
      match ts with
      | [] => exact noIh [] few light
      | [t] => exact noIh [t] few light
      | t :: u :: rest =>
          rw [calls_test_two]
          split
          · simp only [List.length_cons] at few light
            exact yesIh t u rest (by omega) fun p us shorter => light p us (by omega)
          · exact noIh _ few light
  | ifType yes no yesIh noIh =>
      rw [calls_operand]
      split
      · refine ⟨light .type ts (Nat.le_refl _), fun rest read => ?_⟩
        have shorter := length_reads .type ts () rest read
        exact yesIh rest (by omega) fun p us bound => light p us (by omega)
      · exact noIh ts few light
  | element stops next ih =>
      refine ⟨light .expression ts (Nat.le_refl _), fun value rest read => ?_⟩
      obtain ⟨shorter, _⟩ := outcome_some read
      exact ih value rest (by omega) fun p us bound => light p us (by omega)
  | closure next ih =>
      intro rest read
      obtain ⟨shorter, _⟩ := outcome_some read
      exact ih rest (by omega) fun p us bound => light p us (by omega)
  | call p next ih =>
      refine ⟨light p ts (Nat.le_refl _), fun value rest read => ?_⟩
      have shorter := length_reads p ts value rest read
      exact ih value rest (by omega) fun q us bound => light q us (by omega)

theorem calls_take (limit : Nat) (start : List Token) (next : Token → Script α) (ts : List Token)
    (few : 5 * ts.length ≤ limit) : (Script.take next).Calls (Lighter limit) start ts := by
  cases ts with
  | nil => trivial
  | cons t rest =>
      simp only [List.length_cons] at few
      exact calls_after_token limit start (next t) rest (by omega)

theorem calls_if_take (limit : Nat) (start : List Token) (test : Token → Bool) (yes : Token → Script α)
    (no : Script α) (ts : List Token) (few : 5 * ts.length ≤ limit)
    (otherwise : no.Calls (Lighter limit) start ts) :
    (Script.ifTake test yes no).Calls (Lighter limit) start ts := by
  cases ts with
  | nil => exact otherwise
  | cons t rest =>
      rw [calls_test]
      split
      · simp only [List.length_cons] at few
        exact calls_after_token limit start (yes t) rest (by omega)
      · exact otherwise

theorem calls_if_take_two (limit : Nat) (start : List Token) (first second : Token → Bool)
    (yes : Token → Token → Script α) (no : Script α) (ts : List Token) (few : 5 * ts.length ≤ limit)
    (otherwise : no.Calls (Lighter limit) start ts) :
    (Script.ifTakeTwo first second yes no).Calls (Lighter limit) start ts := by
  match ts with
  | [] => exact otherwise
  | [t] => exact otherwise
  | t :: u :: rest =>
      rw [calls_test_two]
      split
      · simp only [List.length_cons] at few
        exact calls_after_token limit start (yes t u) rest (by omega)
      · exact otherwise

theorem calls_call (limit : Nat) (start : List Token) (p : Production) (next : p.Value → Script α)
    (ts : List Token) (few : p.weight ts < limit) (takes : p.least = 1) :
    (Script.call p next).Calls (Lighter limit) start ts := by
  refine ⟨few, fun value rest read => ?_⟩
  have shorter := length_reads p ts value rest read
  unfold Production.weight at few
  exact calls_after_token limit start (next value) rest (by omega)

theorem calls_lighter (p : Production) (ts : List Token) :
    (script p).Calls (Lighter (p.weight ts)) ts ts := by
  have few : 5 * ts.length ≤ p.weight ts := Nat.le_add_right _ _
  -- Only the calls before the first token must come later among the productions.
  cases p with
  | type => exact calls_call _ ts .typeOperand _ ts (by simp [Production.weight, Production.rank]) rfl
  | typeOperand | primary => exact calls_take _ ts _ ts few
  | valueType | marks | effects | optionalArguments => exact calls_if_take _ ts _ _ _ ts few trivial
  | typeElements =>
      exact calls_if_take_two _ ts _ _ _ _ ts few
        (calls_call _ ts .type _ ts (by simp [Production.weight, Production.rank]) rfl)
  | functionResult =>
      refine ⟨by simp [Production.weight, Production.rank], fun _ rest read => ?_⟩
      have shorter := length_reads .effects ts () rest read
      exact calls_if_take _ ts _ _ _ rest (by omega) trivial
  | memberTypes => exact calls_if_take_two _ ts _ _ _ _ ts few trivial
  | typeArguments => exact calls_call _ ts .type _ ts (by simp [Production.weight, Production.rank]) rfl
  | suffixes before node =>
      refine calls_if_take _ ts _ _ _ ts few ?_
      split
      · exact calls_if_take _ ts _ _ _ ts few trivial
      · trivial
  | expression => exact calls_call _ ts .primary _ ts (by simp [Production.weight, Production.rank]) rfl
  | collection before =>
      refine calls_if_take _ ts _ _ _ ts few (calls_if_take _ ts _ _ _ ts few ?_)
      refine ⟨by simp [Production.weight, Production.rank], fun value rest read => ?_⟩
      obtain ⟨shorter, _⟩ := outcome_some read
      exact calls_after_token _ ts _ rest (by simp only [Production.weight]; omega)
  | entries | items => exact calls_if_take _ ts _ _ _ ts few (calls_if_take _ ts _ _ _ ts few trivial)
  | parenthesized before =>
      refine calls_if_take _ ts _ _ _ ts few ?_
      exact calls_call _ ts .tupleItems _ ts (by simp [Production.weight, Production.rank]) rfl
  | tupleItems =>
      exact calls_if_take_two _ ts _ _ _ _ ts few
        (calls_call _ ts .expression _ ts (by simp [Production.weight, Production.rank]) rfl)

theorem production_induction {motive : Production → List Token → Prop}
    (step : ∀ p ts, (script p).Calls motive ts ts → motive p ts) (p : Production) (ts : List Token) :
    motive p ts :=
  step p ts ((calls_lighter p ts).imp (fun q us lighter =>
    have : q.weight us < p.weight ts := lighter
    production_induction step q us) ts (script p) ts)
termination_by p.weight ts

end ScreenDispatch.Expr
