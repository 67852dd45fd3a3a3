import ScreenDispatch.Proofs.Discipline
import ScreenDispatch.Proofs.ScriptOutlook

/-!
What a script makes of what it takes. A condition on the tokens a script has taken and the value it
returns follows from the conditions on its calls and elements.
-/
set_option autoImplicit false

namespace ScreenDispatch.Expr

open Token Script

variable {α : Type}

theorem calls_matched {ok : Production → List Token → Prop} (enclosed : Bool) (closers outer : List String)
    (start : List Token) (s : Script α) (ts : List Token) (disciplined : s.Disciplined enclosed closers)
    (matched : Matched (closers ++ outer) ts)
    (calls : s.Calls (fun p us => ∀ others, Matched (p.closers ++ others) us → ok p us) start ts) :
    s.Calls (fun p us => (∃ others, Matched (p.closers ++ others) us) ∧ ok p us) start ts := by
  induction s generalizing closers ts with
  | done | fail => trivial
  | here next ih => exact ih _ closers ts (disciplined _) matched calls
  | take next ih =>
      cases ts with
      | nil => trivial
      | cons t more =>
          obtain ⟨stops, goes⟩ := disciplined t
          unfold Script.Calls
          by_cases stop : quiet t
          · rw [stops stop]
            trivial
          · obtain ⟨left, step, others⟩ := goes (matched.faithful t List.mem_cons_self) stop
            exact ih t left more others (matched_tail outer matched step) calls
  | ifTake test yes no yesIh noIh =>
      cases ts with
      | nil => exact noIh closers [] disciplined.1 matched calls
      | cons t more =>
          rw [calls_test] at calls ⊢
          by_cases passed : test t
          · rw [if_pos passed] at calls ⊢
            obtain ⟨left, step, others⟩ := disciplined.2.1 t (matched.faithful t List.mem_cons_self) passed
            exact yesIh t left more others (matched_tail outer matched step) calls
          · rw [if_neg passed] at calls ⊢
            exact noIh closers _ disciplined.1 matched calls
  | ifTakeTwo first second yes no yesIh noIh =>
      match ts with
      | [] => exact noIh closers [] disciplined.1 matched calls
      | [t] => exact noIh closers [t] disciplined.1 matched calls
      | t :: u :: more =>
          rw [calls_test_two] at calls ⊢
          by_cases passed : first t && second u
          · rw [if_pos passed] at calls ⊢
            rw [Bool.and_eq_true] at passed
            have label := disciplined.2.2.1 t (.inl passed.1) closers
            have colon := disciplined.2.2.1 u (.inr passed.2) closers
            exact yesIh t u closers more (disciplined.2.1 t u)
              (matched_tail outer (matched_tail outer matched label) colon) calls
          · rw [if_neg passed] at calls ⊢
            exact noIh closers _ disciplined.1 matched calls
  | ifType yes no yesIh noIh =>
      rw [calls_operand] at calls ⊢
      by_cases operand : startsOperand ts
      · rw [if_pos operand] at calls ⊢
        refine ⟨⟨⟨_, matched⟩, calls.1 _ matched⟩, fun rest type => ?_⟩
        obtain ⟨xs, rfl, closed⟩ := reads_nested .type _ _ matched () rest type
        exact yesIh closers rest disciplined.1 (matched_rest [] _ matched closed) (calls.2 rest type)
      · rw [if_neg operand] at calls ⊢
        exact noIh closers ts disciplined.2 matched calls
  | element stops next ih =>
      refine ⟨⟨⟨_, matched⟩, calls.1 _ matched⟩, fun e rest found => ?_⟩
      obtain ⟨xs, rfl, closed⟩ := element_nested stops _ _ e rest (reads_nested _ _) matched found
      exact ih e closers rest (disciplined.2 e) (matched_rest [] _ matched closed) (calls.2 e rest found)
  | closure next ih =>
      intro rest ended
      obtain ⟨left, rfl, others⟩ := disciplined
      obtain ⟨xs, rfl, closed⟩ := closure_nested (left ++ outer) _ rest matched ended
      exact ih left rest others (matched_rest ["\x7d"] _ matched closed) (calls rest ended)
  | call p next ih =>
      obtain ⟨left, rfl, _, others⟩ := disciplined
      rw [List.append_assoc] at matched
      refine ⟨⟨⟨_, matched⟩, calls.1 _ matched⟩, fun value rest found => ?_⟩
      obtain ⟨xs, rfl, closed⟩ := reads_nested p _ _ matched value rest found
      exact ih value left rest (others value) (matched_rest p.closers _ matched closed) (calls.2 value rest found)

structure Conditions where
  good : (p : Production) → List Token → p.Value → Prop
  whole : List String → List Token → Tree → Prop

-- `run` is what has been taken before the script.
def Script.Ensures (c : Conditions) (post : List Token → α → Prop) : List Token → Script α → Prop
  | run, .done value => post run value
  | _, .fail => True
  | run, .here next => (next run).Ensures c post run
  | run, .take next => ∀ t, (next t).Ensures c post (run ++ [t])
  | run, .ifTake test yes no => (∀ t, test t → (yes t).Ensures c post (run ++ [t])) ∧ no.Ensures c post run
  | run, .ifTakeTwo first second yes no =>
    (∀ t u, first t → second u → (yes t u).Ensures c post (run ++ [t, u])) ∧ no.Ensures c post run
  | run, .ifType yes no => (∀ type, yes.Ensures c post (run ++ type)) ∧ no.Ensures c post run
  | run, .element stops next => ∀ piece e, c.whole stops piece e → (next e).Ensures c post (run ++ piece)
  | run, .closure next => ∀ piece, next.Ensures c post (run ++ piece)
  | run, .call p next => ∀ piece value, c.good p piece value → (next value).Ensures c post (run ++ piece)

def Meets (c : Conditions) (p : Production) (ts : List Token) : Prop :=
  (∀ value rest, reads p ts = some (value, rest) → c.good p (taken ts rest) value) ∧
    (p = .expression → ∀ stops e rest, outcome (element stops ts) = some (e, rest) →
      c.whole stops (taken ts rest) e)

def Conditions.outlook (c : Conditions) : Outlook where
  good p run value _ := c.good p run value
  whole stops run e _ := c.whole stops run e

theorem Script.Ensures.secures (c : Conditions) (post : List Token → α → Prop) (run ts : List Token) (s : Script α)
    (ensures : s.Ensures c post run) : s.Secures c.outlook (fun run value _ => post run value) run ts := by
  induction s generalizing run ts with
  | done value => exact ensures
  | fail => trivial
  | here next ih => exact ih run run ts ensures
  | take next ih => exact fun t rest _ => ih t _ rest (ensures t)
  | ifTake test yes no yesIh noIh =>
      exact ⟨fun t rest _ passed => yesIh t _ rest (ensures.1 t passed), fun _ => noIh run ts ensures.2⟩
  | ifTakeTwo first second yes no yesIh noIh =>
      exact ⟨fun t u rest _ label colon => yesIh t u _ rest (ensures.1 t u label colon), noIh run ts ensures.2⟩
  | ifType yes no yesIh noIh => exact ⟨fun type rest _ _ => yesIh _ rest (ensures.1 type), noIh run ts ensures.2⟩
  | element stops next ih => exact fun piece e rest _ whole => ih e _ rest (ensures piece e whole)
  | closure next ih => exact fun inside closing rest _ _ => ih _ rest (ensures _)
  | call p next ih => exact fun piece value rest _ good => ih value _ rest (ensures piece value good)

theorem run_ensures (c : Conditions) (post : List Token → α → Prop) (start : List Token) (s : Script α)
    (ts : List Token) (value : α) (rest : List Token) (calls : s.Calls (Meets c) start ts)
    (suffix : ts <:+ start) (ensures : s.Ensures c post (taken start ts))
    (read : s.run start ts = some (value, rest)) : post (taken start rest) value :=
  run_secures c.outlook (fun run value _ => post run value) start s ts value rest calls suffix
    (ensures.secures c post _ ts s) read

theorem reads_ensure (c : Conditions) (p : Production) (ts : List Token) (calls : (script p).Calls (Meets c) ts ts)
    (ensures : (script p).Ensures c (c.good p) []) (value : p.Value) (rest : List Token)
    (read : reads p ts = some (value, rest)) : c.good p (taken ts rest) value := by
  rw [reads_eq] at read
  rw [← taken_self ts] at ensures
  exact run_ensures c _ ts (script p) ts value rest calls (List.suffix_refl _) ensures read

end ScreenDispatch.Expr
