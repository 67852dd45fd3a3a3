import ScreenDispatch.Proofs.ReadsSuffix

/-!
What a script makes of what it takes and what it leaves. A condition on the tokens a script has taken, the value it
returns and the tokens behind it follows from the conditions on its calls and elements.
-/
set_option autoImplicit false

namespace ScreenDispatch.Expr

open Token Script

variable {α : Type}

structure Outlook where
  good : (p : Production) → List Token → p.Value → List Token → Prop
  whole : List String → List Token → Tree → List Token → Prop

-- `run` is what has been taken before the script, `ts` is what the script finds.
def Script.Secures (c : Outlook) (post : List Token → α → List Token → Prop) : List Token → List Token → Script α → Prop
  | run, ts, .done value => post run value ts
  | _, _, .fail => True
  | run, ts, .here next => (next run).Secures c post run ts
  | run, ts, .take next => ∀ t rest, ts = t :: rest → (next t).Secures c post (run ++ [t]) rest
  | run, ts, .ifTake test yes no =>
    (∀ t rest, ts = t :: rest → test t → (yes t).Secures c post (run ++ [t]) rest) ∧
      ((∀ t, ts.head? = some t → test t = false) → no.Secures c post run ts)
  | run, ts, .ifTakeTwo first second yes no =>
    (∀ t u rest, ts = t :: u :: rest → first t → second u → (yes t u).Secures c post (run ++ [t, u]) rest) ∧
      no.Secures c post run ts
  | run, ts, .ifType yes no =>
    (∀ type rest, ts = type ++ rest → c.good .type type () rest → yes.Secures c post (run ++ type) rest) ∧
      no.Secures c post run ts
  | run, ts, .element stops next =>
    ∀ piece e rest, ts = piece ++ rest → c.whole stops piece e rest → (next e).Secures c post (run ++ piece) rest
  | run, ts, .closure next =>
    ∀ inside closing rest, ts = inside ++ closing :: rest → closing.isPunctuation "\x7d" →
      next.Secures c post (run ++ (inside ++ [closing])) rest
  | run, ts, .call p next =>
    ∀ piece value rest, ts = piece ++ rest → c.good p piece value rest →
      (next value).Secures c post (run ++ piece) rest

def Bears (c : Outlook) (p : Production) (ts : List Token) : Prop :=
  (∀ value rest, reads p ts = some (value, rest) → c.good p (taken ts rest) value rest) ∧
    (p = .expression → ∀ stops e rest, outcome (element stops ts) = some (e, rest) →
      c.whole stops (taken ts rest) e rest)

theorem closure_end_brace (depth : Nat) (ts rest : List Token) (ended : outcome (closureEnd depth ts) = some ((), rest)) :
    ∃ inside closing, ts = inside ++ closing :: rest ∧ closing.isPunctuation "\x7d" := by
  induction ts generalizing depth with
  | nil =>
      rw [closureEnd.eq_def] at ended
      cases ended
  | cons t more ih =>
      have onward (d : Nat) (inner : outcome (closureEnd d more) = some ((), rest)) :
          ∃ inside closing, t :: more = inside ++ closing :: rest ∧ closing.isPunctuation "\x7d" := by
        obtain ⟨inside, closing, rfl, brace⟩ := ih d inner
        exact ⟨t :: inside, closing, rfl, brace⟩
      rw [outcome_closure_end] at ended
      split at ended
      · exact onward _ ended
      split at ended
      · rename_i brace
        cases depth with
        | zero =>
            cases ended
            exact ⟨[], t, rfl, brace⟩
        | succ depth => exact onward _ ended
      · exact onward _ ended

theorem run_secures (c : Outlook) (post : List Token → α → List Token → Prop) (start : List Token) (s : Script α)
    (ts : List Token) (value : α) (rest : List Token) (calls : s.Calls (Bears c) start ts)
    (suffix : ts <:+ start) (secures : s.Secures c post (taken start ts) ts)
    (read : s.run start ts = some (value, rest)) : post (taken start rest) value rest := by
  -- What has been taken is `taken start ts`, and it grows with every instruction.
  induction s generalizing ts with
  | done found =>
      cases read
      exact secures
  | fail => cases read
  | here next ih => exact ih _ ts calls suffix secures read
  | take next ih =>
      cases ts with
      | nil => cases read
      | cons t more =>
          refine ih t more calls ((List.suffix_cons _ _).trans suffix) ?_ read
          rw [taken_more start [t] more suffix]
          exact secures t more rfl
  | ifTake test yes no yesIh noIh =>
      cases ts with
      | nil => exact noIh [] calls suffix (secures.2 nofun) read
      | cons t more =>
          rw [run_if_take] at read
          rw [calls_test] at calls
          by_cases passed : test t
          · rw [if_pos passed] at calls read
            refine yesIh t more calls ((List.suffix_cons _ _).trans suffix) ?_ read
            rw [taken_more start [t] more suffix]
            exact secures.1 t more rfl passed
          · rw [if_neg passed] at calls read
            refine noIh _ calls suffix (secures.2 fun u first => ?_) read
            cases first
            exact Bool.eq_false_iff.mpr passed
  | ifTakeTwo first second yes no yesIh noIh =>
      match ts with
      | [] => exact noIh [] calls suffix secures.2 read
      | [t] => exact noIh [t] calls suffix secures.2 read
      | t :: u :: more =>
          rw [run_if_take_two] at read
          rw [calls_test_two] at calls
          by_cases passed : first t && second u
          · rw [if_pos passed] at calls read
            rw [Bool.and_eq_true] at passed
            refine yesIh t u more calls ((List.suffix_append [t, u] more).trans suffix) ?_ read
            rw [taken_more start [t, u] more suffix]
            exact secures.1 t u more rfl passed.1 passed.2
          · rw [if_neg passed] at calls read
            exact noIh _ calls suffix secures.2 read
  | ifType yes no yesIh noIh =>
      rw [run_if_type] at read
      rw [calls_operand] at calls
      by_cases operand : startsOperand ts
      · rw [if_pos operand] at calls read
        obtain ⟨⟨_, more⟩, type, after⟩ := Option.bind_eq_some_iff.mp read
        have inner := reads_suffix .type ts () more type
        refine yesIh more (calls.2 more type) (inner.trans suffix) ?_ after
        rw [taken_trans start ts more suffix inner]
        exact secures.1 _ more (taken_append ts more inner).symm (calls.1.1 () more type)
      · rw [if_neg operand] at calls read
        exact noIh ts calls suffix secures.2 read
  | element stops next ih =>
      obtain ⟨⟨e, more⟩, found, after⟩ := Option.bind_eq_some_iff.mp read
      have inner := element_suffix stops ts e more (reads_suffix _ _) found
      refine ih e more (calls.2 e more found) (inner.trans suffix) ?_ after
      rw [taken_trans start ts more suffix inner]
      exact secures _ e more (taken_append ts more inner).symm (calls.1.2 rfl stops e more found)
  | closure next ih =>
      obtain ⟨⟨_, more⟩, ended, after⟩ := Option.bind_eq_some_iff.mp read
      obtain ⟨inside, closing, rfl, brace⟩ := closure_end_brace 0 ts more ended
      have whole : inside ++ closing :: more = inside ++ [closing] ++ more := by simp
      have inner : more <:+ inside ++ closing :: more := whole ▸ List.suffix_append _ _
      refine ih more (calls more ended) (inner.trans suffix) ?_ after
      rw [taken_trans start _ more suffix inner, show taken (inside ++ closing :: more) more = inside ++ [closing] by
        rw [whole, taken_from]]
      exact secures inside closing more rfl brace
  | call p next ih =>
      obtain ⟨⟨v, more⟩, found, after⟩ := Option.bind_eq_some_iff.mp read
      have inner := reads_suffix p ts v more found
      refine ih v more (calls.2 v more found) (inner.trans suffix) ?_ after
      rw [taken_trans start ts more suffix inner]
      exact secures _ v more (taken_append ts more inner).symm (calls.1.1 v more found)

theorem reads_secure (c : Outlook) (p : Production) (ts : List Token) (calls : (script p).Calls (Bears c) ts ts)
    (secures : (script p).Secures c (c.good p) [] ts) (value : p.Value) (rest : List Token)
    (read : reads p ts = some (value, rest)) : c.good p (taken ts rest) value rest := by
  rw [reads_eq] at read
  rw [← taken_self ts] at secures
  exact run_secures c _ ts (script p) ts value rest calls (List.suffix_refl _) secures read

theorem secures_expect (c : Outlook) (post : List Token → α → List Token → Prop) (run ts : List Token)
    (symbol : String) (next : Script α)
    (onward : ∀ t rest, ts = t :: rest → t.isSymbol symbol → next.Secures c post (run ++ [t]) rest) :
    (Script.expect symbol next).Secures c post run ts :=
  ⟨onward, fun _ => trivial⟩

theorem secures_of_grown (c : Outlook) (post : List Token → α → List Token → Prop) (run ts : List Token) (s : Script α)
    (all : ∀ more value rest, post (run ++ more) value rest) : s.Secures c post run ts := by
  induction s generalizing run ts with
  | done value =>
      have here := all [] value ts
      rwa [List.append_nil] at here
  | fail => trivial
  | here next ih => exact ih run run ts all
  | take next ih => exact fun t rest _ => ih t _ rest fun more => (List.append_assoc run [t] more).symm ▸ all _
  | ifTake test yes no yesIh noIh =>
      exact ⟨fun t rest _ _ => yesIh t _ rest fun more => (List.append_assoc run [t] more).symm ▸ all _,
        fun _ => noIh run ts all⟩
  | ifTakeTwo first second yes no yesIh noIh =>
      exact ⟨fun t u rest _ _ _ => yesIh t u _ rest fun more => (List.append_assoc run [t, u] more).symm ▸ all _,
        noIh run ts all⟩
  | ifType yes no yesIh noIh =>
      exact ⟨fun type rest _ _ => yesIh _ rest fun more => (List.append_assoc run type more).symm ▸ all _,
        noIh run ts all⟩
  | element stops next ih =>
      exact fun piece e rest _ _ => ih e _ rest fun more => (List.append_assoc run piece more).symm ▸ all _
  | closure next ih =>
      exact fun inside closing rest _ _ => ih _ rest fun more => (List.append_assoc run _ more).symm ▸ all _
  | call p next ih =>
      exact fun piece value rest _ _ => ih value _ rest fun more => (List.append_assoc run piece more).symm ▸ all _

-- What every production secures from its calls, and every element from the expression it may be, always holds.
theorem always_secured (c : Outlook)
    (each : ∀ p ts, (script p).Secures c (c.good p) [] ts)
    (element : ∀ stops ts e rest, (∀ e rest, reads .expression ts = some (e, rest) →
      c.good .expression (taken ts rest) e rest) → outcome (element stops ts) = some (e, rest) →
      c.whole stops (taken ts rest) e rest)
    (p : Production) (ts : List Token) : ∀ value rest, reads p ts = some (value, rest) →
      c.good p (taken ts rest) value rest := by
  induction p, ts using production_induction with
  | step p ts calls =>
      refine reads_secure c p ts (Script.Calls.imp (fun q us good => ⟨good, ?_⟩) ts (script p) ts calls) (each p ts)
      rintro rfl stops e rest found
      exact element stops us e rest good found

end ScreenDispatch.Expr
