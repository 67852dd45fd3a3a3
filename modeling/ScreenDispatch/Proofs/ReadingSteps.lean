import ScreenDispatch.Proofs.ReadsSuffix

/-!
Reading step by step. The steps of its script are what a production reads, and on the way it begins other productions, also
those whose outcome is thrown away.
-/
set_option autoImplicit false

namespace ScreenDispatch.Expr

open Token Script

variable {α : Type}

namespace Script

inductive Step (start : List Token) : Script α → List Token → Script α → List Token → Prop where
  | here (next : List Token → Script α) (ts : List Token) : Step start (.here next) ts (next (taken start ts)) ts
  | take (next : Token → Script α) (t : Token) (rest : List Token) : Step start (.take next) (t :: rest) (next t) rest
  | one (test : Token → Bool) (yes : Token → Script α) (no : Script α) (t : Token) (rest : List Token) (fits : test t) :
      Step start (.ifTake test yes no) (t :: rest) (yes t) rest
  | notOne (test : Token → Bool) (yes : Token → Script α) (no : Script α) (ts : List Token)
      (missing : ∀ t rest, ts = t :: rest → test t = false) : Step start (.ifTake test yes no) ts no ts
  | two (first second : Token → Bool) (yes : Token → Token → Script α) (no : Script α) (t u : Token) (rest : List Token)
      (fits : first t && second u) : Step start (.ifTakeTwo first second yes no) (t :: u :: rest) (yes t u) rest
  | notTwo (first second : Token → Bool) (yes : Token → Token → Script α) (no : Script α) (ts : List Token)
      (missing : ∀ t u rest, ts = t :: u :: rest → (first t && second u) = false) :
      Step start (.ifTakeTwo first second yes no) ts no ts
  | operand (yes no : Script α) (ts rest : List Token) (opens : startsOperand ts)
      (read : reads .type ts = some ((), rest)) : Step start (.ifType yes no) ts yes rest
  | noOperand (yes no : Script α) (ts : List Token) (missing : startsOperand ts = false) :
      Step start (.ifType yes no) ts no ts
  | element (stops : List String) (next : Tree → Script α) (ts : List Token) (e : Tree) (rest : List Token)
      (read : outcome (Expr.element stops ts) = some (e, rest)) : Step start (.element stops next) ts (next e) rest
  | closure (next : Script α) (ts rest : List Token) (read : outcome (closureEnd 0 ts) = some ((), rest)) :
      Step start (.closure next) ts next rest
  | call (p : Production) (next : p.Value → Script α) (ts : List Token) (value : p.Value) (rest : List Token)
      (read : reads p ts = some (value, rest)) : Step start (.call p next) ts (next value) rest

inductive Steps (start : List Token) : Script α → List Token → Script α → List Token → Prop where
  | refl (s : Script α) (ts : List Token) : Steps start s ts s ts
  | step {s t u : Script α} {ts us rest : List Token} (first : Step start s ts t us) (onward : Steps start t us u rest) :
      Steps start s ts u rest

inductive Begins : Script α → List Token → Production → Prop where
  | call (p : Production) (next : p.Value → Script α) (ts : List Token) : Begins (.call p next) ts p
  | operand (yes no : Script α) (ts : List Token) (opens : startsOperand ts) : Begins (.ifType yes no) ts .type
  | element (stops : List String) (next : Tree → Script α) (ts : List Token) : Begins (.element stops next) ts .expression

end Script

theorem step_run {start ts rest : List Token} {s t : Script α} (step : Step start s ts t rest) :
    s.run start ts = t.run start rest := by
  cases step with
  | here | take => rfl
  | one test yes no t rest fits => rw [run_if_take, if_pos fits]
  | notOne test yes no ts missing =>
      cases ts with
      | nil => rfl
      | cons t rest => rw [run_if_take, missing t rest rfl, if_neg Bool.false_ne_true]
  | two first second yes no t u rest fits => rw [run_if_take_two, if_pos fits]
  | notTwo first second yes no ts missing =>
      match ts with
      | [] | [t] => rfl
      | t :: u :: rest => rw [run_if_take_two, missing t u rest rfl, if_neg Bool.false_ne_true]
  | operand yes no ts rest opens read => rw [run_if_type, if_pos opens, read, Option.bind_some]
  | noOperand yes no ts missing => rw [run_if_type, missing, if_neg Bool.false_ne_true]
  | element stops next ts e rest read => rw [run_element, read, Option.bind_some]
  | closure next ts rest read => rw [run_closure, read, Option.bind_some]
  | call p next ts value rest read => rw [run_call, read, Option.bind_some]

theorem steps_of_run (start : List Token) (s : Script α) (ts : List Token) (value : α) (rest : List Token)
    (read : s.run start ts = some (value, rest)) : Steps start s ts (.done value) rest := by
  induction s generalizing ts with
  | done found =>
      cases read
      exact .refl _ _
  | fail => cases read
  | here next ih => exact .step (.here next ts) (ih _ ts read)
  | take next ih =>
      cases ts with
      | nil => cases read
      | cons t more => exact .step (.take next t more) (ih t more read)
  | ifTake test yes no yesIh noIh =>
      cases ts with
      | nil => exact .step (.notOne test yes no [] nofun) (noIh [] read)
      | cons t more =>
          rw [run_if_take] at read
          split at read
          · rename_i fits
            exact .step (.one test yes no t more fits) (yesIh t more read)
          · rename_i other
            refine .step (.notOne test yes no _ fun u us same => ?_) (noIh _ read)
            rw [← (List.cons.inj same).1]
            exact Bool.eq_false_iff.mpr other
  | ifTakeTwo first second yes no yesIh noIh =>
      match ts with
      | [] => exact .step (.notTwo first second yes no [] nofun) (noIh [] read)
      | [t] => exact .step (.notTwo first second yes no [t] nofun) (noIh [t] read)
      | t :: u :: more =>
          rw [run_if_take_two] at read
          split at read
          · rename_i fits
            exact .step (.two first second yes no t u more fits) (yesIh t u more read)
          · rename_i other
            refine .step (.notTwo first second yes no _ fun v w us same => ?_) (noIh _ read)
            obtain ⟨rfl, tail⟩ := List.cons.inj same
            obtain ⟨rfl, -⟩ := List.cons.inj tail
            exact Bool.eq_false_iff.mpr other
  | ifType yes no yesIh noIh =>
      rw [run_if_type] at read
      split at read
      · rename_i opens
        obtain ⟨⟨_, more⟩, type, read⟩ := Option.bind_eq_some_iff.mp read
        exact .step (.operand yes no ts more opens type) (yesIh more read)
      · rename_i other
        exact .step (.noOperand yes no ts (Bool.eq_false_iff.mpr other)) (noIh ts read)
  | element stops next ih =>
      obtain ⟨⟨e, more⟩, found, read⟩ := Option.bind_eq_some_iff.mp read
      exact .step (.element stops next ts e more found) (ih e more read)
  | closure next ih =>
      obtain ⟨⟨_, more⟩, found, read⟩ := Option.bind_eq_some_iff.mp read
      exact .step (.closure next ts more found) (ih more read)
  | call p next ih =>
      obtain ⟨⟨found, more⟩, called, read⟩ := Option.bind_eq_some_iff.mp read
      exact .step (.call p next ts found more called) (ih found more read)

theorem run_iff_steps (start : List Token) (s : Script α) (ts : List Token) (value : α) (rest : List Token) :
    s.run start ts = some (value, rest) ↔ Steps start s ts (.done value) rest := by
  refine ⟨steps_of_run start s ts value rest, fun steps => ?_⟩
  generalize ended : Script.done value = last at steps
  induction steps with
  | refl s ts =>
      subst ended
      rfl
  | step first onward ih => rw [step_run first, ih ended]

theorem reads_iff_steps (p : Production) (ts : List Token) (value : p.Value) (rest : List Token) :
    reads p ts = some (value, rest) ↔ Steps ts (script p) ts (.done value) rest := by
  rw [reads_eq, run_iff_steps]

inductive Started (source : List Token) : Production → List Token → Prop where
  | whole : Started source .expression source
  | inside {p : Production} {start : List Token} {s : Script p.Value} {ts : List Token} {q : Production}
      (started : Started source p start) (steps : Steps start (script p) start s ts) (begins : Begins s ts q) :
      Started source q ts

structure Reached (source : List Token) (p : Production) (start : List Token) (s : Script p.Value) (ts : List Token) :
    Prop where
  started : Started source p start
  steps : Steps start (script p) start s ts

theorem step_suffix {start ts rest : List Token} {s t : Script α} (step : Step start s ts t rest) : rest <:+ ts := by
  cases step with
  | here | notOne | notTwo | noOperand => exact List.suffix_refl _
  | take next t => exact List.suffix_cons t _
  | one test yes no t => exact List.suffix_cons t _
  | two first second yes no t u => exact (List.suffix_cons u _).trans (List.suffix_cons t _)
  | operand yes no _ _ opens read => exact reads_suffix .type ts () rest read
  | element stops next _ e _ read => exact element_suffix stops ts e rest (reads_suffix .expression ts) read
  | closure next _ _ read => exact closure_end_suffix 0 ts rest read
  | call p next _ value _ read => exact reads_suffix p ts value rest read

theorem step_calls {ok : Production → List Token → Prop} {start ts rest : List Token} {s t : Script α}
    (step : Step start s ts t rest) (calls : s.Calls ok start ts) : t.Calls ok start rest := by
  cases step with
  | here | take => exact calls
  | one test yes no t rest fits =>
      rw [calls_test, if_pos fits] at calls
      exact calls
  | notOne test yes no ts missing =>
      cases ts with
      | nil => exact calls
      | cons t rest =>
          rw [calls_test, missing t rest rfl, if_neg Bool.false_ne_true] at calls
          exact calls
  | two first second yes no t u rest fits =>
      rw [calls_test_two, if_pos fits] at calls
      exact calls
  | notTwo first second yes no ts missing =>
      match ts with
      | [] | [t] => exact calls
      | t :: u :: rest =>
          rw [calls_test_two, missing t u rest rfl, if_neg Bool.false_ne_true] at calls
          exact calls
  | operand yes no ts rest opens read =>
      rw [calls_operand, if_pos opens] at calls
      exact calls.2 rest read
  | noOperand yes no ts missing =>
      rw [calls_operand, missing, if_neg Bool.false_ne_true] at calls
      exact calls
  | element stops next ts e rest read => exact calls.2 e rest read
  | closure next ts rest read => exact calls rest read
  | call p next ts value rest read => exact calls.2 value rest read

theorem steps_calls {ok : Production → List Token → Prop} {start ts rest : List Token} {s t : Script α}
    (steps : Steps start s ts t rest) (calls : s.Calls ok start ts) : t.Calls ok start rest := by
  induction steps with
  | refl => exact calls
  | step first onward ih => exact ih (step_calls first calls)

theorem begins_call {ok : Production → List Token → Prop} {start ts : List Token} {s : Script α} {q : Production}
    (begins : Begins s ts q) (calls : s.Calls ok start ts) : ok q ts := by
  cases begins with
  | call => exact calls.1
  | operand yes no _ opens =>
      rw [calls_operand, if_pos opens] at calls
      exact calls.1
  | element => exact calls.1

-- Each production that is begun has fewer tokens before it than the one that begins it, or comes later.
theorem started_lighter {source start ts : List Token} {p q : Production} {s : Script p.Value}
    (reached : Reached source p start s ts) (begins : Begins s ts q) : q.weight ts < p.weight start :=
  begins_call begins (steps_calls reached.steps (calls_lighter p start))

end ScreenDispatch.Expr
