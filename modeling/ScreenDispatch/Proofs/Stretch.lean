import ScreenDispatch.Proofs.Locality
import ScreenDispatch.Proofs.SelfSuffix

/-!
A member `self` put behind the input. A production that ends before the end of its input does not see it,
and one that ends there either stops before the member as well or takes it.
-/
set_option autoImplicit false

namespace ScreenDispatch.Expr

open Token Script

variable {α : Type} {dot name : Token}

-- What is read with two tokens behind the input, against what is read without.
structure Stretch (dot name : Token) (short long : Outcome α) : Prop where
  inside : ∀ value rest, rest ≠ [] → short = some (value, rest) → long = some (value, rest ++ [dot, name])
  ending : ∀ value, short = some (value, []) → long = some (value, [dot, name]) ∨ ∃ other, long = some (other, [])
  missing : short = none → ∀ value rest, long = some (value, rest) → rest = []

def StretchAt (dot name : Token) (p : Production) (ts : List Token) : Prop :=
  Stretch dot name (reads p ts) (reads p (ts ++ [dot, name]))

def Script.Ends (s : Script α) : Prop := ∀ start, ∃ value, s.run start [] = some (value, [])

def Script.Stuck (s : Script α) : Prop := ∀ start, s.run start [] = none

-- Where the script meets the two tokens, it stops before them or takes both; what it does at the end of the
-- input after a call does not depend on what was read.
def Script.Stretchy (dot name : Token) : Script α → Prop
  | .done _ => True
  | .fail => True
  | .here next => ∀ ts, (next ts).Stretchy dot name
  | .take next => (∀ t, (next t).Stretchy dot name) ∧
    ∀ start value rest, (next dot).run start [name] = some (value, rest) → rest = []
  | .ifTake test yes no => (∀ t, (yes t).Stretchy dot name) ∧ no.Stretchy dot name ∧
    (test dot → ∀ start, ∃ value, (yes dot).run start [name] = some (value, []))
  | .ifTakeTwo first second yes no => (∀ t u, (yes t u).Stretchy dot name) ∧ no.Stretchy dot name ∧
    ¬ second dot ∧ (first dot → second name → (yes dot name).Ends)
  | .ifType yes no => yes.Stretchy dot name ∧ no.Stretchy dot name ∧ yes.Ends
  | .element stops next => stops.all (· ∈ [":", ",", "]"]) ∧ ∀ e, (next e).Stretchy dot name
  | .closure next => next.Stretchy dot name
  | .call _ next => (∀ value, (next value).Stretchy dot name) ∧
    ((∀ value, (next value).Ends) ∨ ∀ value, (next value).Stuck)

theorem dot_symbol (self : SelfTokens dot name) (symbol : String) : dot.isSymbol symbol ↔ symbol = "." := by
  simp only [isSymbol, self.dotKind, self.dotValue, Bool.and_eq_true, beq_iff_eq]
  exact ⟨fun found => found.2.symm, fun same => ⟨rfl, same.symm⟩⟩

theorem dot_punctuation (self : SelfTokens dot name) (symbol : String) :
    dot.isPunctuation symbol ↔ symbol = "." := by
  rw [punctuation_iff, self.dotKind, self.dotValue]
  exact ⟨fun found => found.2.symm, fun same => ⟨rfl, same.symm⟩⟩

theorem name_punctuation (self : SelfTokens dot name) (symbol : String) : ¬ name.isPunctuation symbol := by
  simp [isPunctuation, self.nameKind]

theorem stretch_extend (short long : Outcome α) (same : long = short.map fun r => (r.1, r.2 ++ [dot, name])) :
    Stretch dot name short long := by
  rw [same]
  refine ⟨fun value rest _ read => by rw [read]; rfl, fun value read => .inl (by rw [read]; rfl), ?_⟩
  intro missing value rest read
  rw [missing] at read
  cases read

theorem stretch_bind {β : Type} {x y : Outcome β} {f g : β × List Token → Outcome α}
    (wide : Stretch dot name x y)
    (steps : ∀ value rest, x = some (value, rest) →
      Stretch dot name (f (value, rest)) (g (value, rest ++ [dot, name])))
    (exhausted : ∀ value last rest, f (value, []) = some (last, rest) → rest = [])
    (exhaustedLong : ∀ value last rest, g (value, []) = some (last, rest) → rest = [])
    (alike : (∀ value, ∃ last, g (value, []) = some (last, [])) ∨ ∀ value, f (value, []) = none) :
    Stretch dot name (x.bind f) (y.bind g) := by
  refine ⟨fun last rest nonempty read => ?_, fun last read => ?_, fun missing last rest read => ?_⟩
  -- With tokens left at the end there were tokens left in the middle, and the first part was the same.
  · obtain ⟨⟨value, middle⟩, found, after⟩ := Option.bind_eq_some_iff.mp read
    have more : middle ≠ [] := fun empty => by
      rw [empty] at after
      exact nonempty (exhausted value last rest after)
    rw [wide.inside value middle more found]
    exact (steps value middle found).inside last rest nonempty after
  · obtain ⟨⟨value, middle⟩, found, after⟩ := Option.bind_eq_some_iff.mp read
    have same (long : y = some (value, middle ++ [dot, name])) :
        y.bind g = some (last, [dot, name]) ∨ ∃ other, y.bind g = some (other, []) := by
      rw [long]
      exact (steps value middle found).ending last after
    cases middle with
    | cons t others => exact same (wide.inside value _ (by simp) found)
    | nil =>
        obtain long | ⟨other, long⟩ := wide.ending value found
        · exact same long
        -- The first part has taken the two tokens as well, so what follows stands at the end again.
        · rw [long]
          obtain ends | stuck := alike
          · exact .inr (ends other)
          · rw [stuck value] at after
            cases after
  · obtain ⟨⟨value, middle⟩, found, after⟩ := Option.bind_eq_some_iff.mp read
    have ended (empty : middle = []) : rest = [] := by
      rw [empty] at after
      exact exhaustedLong value last rest after
    cases short : x with
    | none => exact ended (wide.missing short value middle found)
    | some result =>
        obtain ⟨v, left⟩ := result
        rw [short, Option.bind_some] at missing
        have same (long : y = some (v, left ++ [dot, name])) : rest = [] := by
          rw [found] at long
          cases long
          exact (steps _ left short).missing missing last rest after
        cases left with
        | cons t others => exact same (wide.inside v _ (by simp) short)
        | nil =>
            obtain long | ⟨other, long⟩ := wide.ending v short
            · exact same long
            · rw [found] at long
              cases long
              exact ended rfl

theorem run_exhausted (start : List Token) (s : Script α) (value : α) (rest : List Token)
    (read : s.run start [] = some (value, rest)) : rest = [] :=
  List.suffix_nil.mp (run_leaves_suffix start s [] value rest read)

theorem skip_to_self (self : SelfTokens dot name) (stops : List String) (free : "." ∉ stops) (depth : Nat)
    (ts : List Token) :
    (skipTo stops depth (ts ++ [dot, name])).toOption =
      (skipTo stops depth ts).toOption.map (· ++ [dot, name]) := by
  have dotPlain : opens dot = false ∧ closes dot = false := by
    simp [opens, closes, isPunctuation, self.dotValue]
  induction ts generalizing depth with
  | nil =>
      have skipped : skipTo stops depth [name] = failAt (.expected "]") [] := by
        rw [skipTo.eq_def]
        dsimp only
        rw [if_neg (by simp [self.nameKind]), skipTo.eq_def]
      rw [List.nil_append, skipTo.eq_def, skipTo.eq_def stops depth []]
      dsimp only
      rw [if_pos self.dotKind, if_neg (by simp [self.dotValue, free]), if_neg (by simp [dotPlain.1]),
        if_neg (by simp [dotPlain.2]), skipped]
      rfl
  | cons t after ih =>
      rw [List.cons_append, skipTo.eq_def, skipTo.eq_def stops depth (t :: after)]
      dsimp only
      split
      · split
        · rfl
        split
        · exact ih _
        split
        · cases depth with
          | zero => rfl
          | succ depth => exact ih _
        · exact ih _
      · exact ih _

theorem closure_end_self (self : SelfTokens dot name) (depth : Nat) (ts : List Token) :
    outcome (closureEnd depth (ts ++ [dot, name])) =
      (outcome (closureEnd depth ts)).map fun r => (r.1, r.2 ++ [dot, name]) := by
  have dotPlain (symbol : String) (other : symbol ≠ ".") : ¬ dot.isPunctuation symbol :=
    fun found => other ((dot_punctuation self symbol).mp found)
  induction ts generalizing depth with
  | nil =>
      rw [List.nil_append, outcome_closure_end, if_neg (dotPlain _ (by decide)), if_neg (dotPlain _ (by decide)),
        outcome_closure_end, if_neg (name_punctuation self _), if_neg (name_punctuation self _), closureEnd.eq_def]
      rfl
  | cons t after ih =>
      rw [List.cons_append, outcome_closure_end, outcome_closure_end]
      split
      · exact ih _
      split
      · cases depth with
        | zero => rfl
        | succ depth => exact ih _
      · exact ih _

theorem element_self (self : SelfTokens dot name) (stops : List String)
    (marks : stops.all (· ∈ [":", ",", "]"])) (ts : List Token) (expression : StretchAt dot name .expression ts) :
    outcome (element stops (ts ++ [dot, name])) =
      (outcome (element stops ts)).map fun r => (r.1, r.2 ++ [dot, name]) := by
  have free : "." ∉ stops := fun stop => by simpa using List.all_eq_true.mp marks "." stop
  have skipped := unreadable_extend stops ts [dot, name] (skip_to_self self stops free 0 ts)
  have atEnd : stops.any (startsWith · []) = false := by simp [startsWith]
  have atDot : stops.any (startsWith · [dot, name]) = false := by
    rw [List.any_eq_false]
    intro symbol stop found
    rw [show startsWith symbol [dot, name] = dot.isSymbol symbol from rfl, dot_symbol self] at found
    exact free (found ▸ stop)
  rw [outcome_element, outcome_element, skipped]
  -- An attempt that reaches the end is no element, with the two tokens or without, and what is skipped to a
  -- stop is the same.
  cases short : reads .expression ts with
  | none =>
      cases long : reads .expression (ts ++ [dot, name]) with
      | none => rfl
      | some result =>
          obtain ⟨e, rest⟩ := result
          dsimp only
          rw [expression.missing short e rest long, atEnd]
          rfl
  | some result =>
      obtain ⟨e, rest⟩ := result
      cases rest with
      | cons t others =>
          rw [expression.inside e _ (by simp) short]
          dsimp only
          change (if stops.any (startsWith · (t :: others)) then _ else _) = _
          split <;> rfl
      | nil =>
          dsimp only
          obtain long | ⟨other, long⟩ := expression.ending e short
          · rw [long, atEnd]
            dsimp only
            rw [atDot]
            rfl
          · rw [long, atEnd]
            dsimp only
            rw [atEnd]
            rfl

theorem starts_operand_self (self : SelfTokens dot name) (ts : List Token) :
    startsOperand (ts ++ [dot, name]) = startsOperand ts := by
  cases ts with
  | nil =>
      have parenthesis := mt (dot_punctuation self "(").mp (by decide)
      have bracket := mt (dot_punctuation self "[").mp (by decide)
      simp [startsOperand, self.dotKind, parenthesis, bracket]
  | cons t after => rfl

theorem stretch_taken (start : List Token) (no : Script α) (value : α) :
    Stretch dot name (no.run start []) (some (value, [])) := by
  refine ⟨fun v rest nonempty short => ?_, fun _ _ => .inr ⟨value, rfl⟩, fun _ v rest same => ?_⟩
  · exact absurd (run_exhausted start no v rest short) nonempty
  · cases same
    rfl

theorem run_stretch (self : SelfTokens dot name) (start : List Token) (s : Script α) (ts : List Token)
    (stretchy : s.Stretchy dot name) (calls : s.Calls (StretchAt dot name) start ts)
    (bound : ts.length ≤ start.length) :
    Stretch dot name (s.run start ts) (s.run (start ++ [dot, name]) (ts ++ [dot, name])) := by
  induction s generalizing ts with
  | done found => exact stretch_extend _ _ rfl
  | fail => exact stretch_extend _ _ rfl
  | here next ih =>
      rw [run_here, run_here, taken_behind start ts [dot, name] bound]
      exact ih _ ts (stretchy _) calls bound
  | take next ih =>
      cases ts with
      | nil => exact ⟨nofun, nofun, fun _ value rest read => stretchy.2 _ value rest read⟩
      | cons t after => exact ih t after (stretchy.1 t) calls (Nat.le_of_succ_le bound)
  | ifTake test yes no yesIh noIh =>
      obtain ⟨taken, other, both⟩ := stretchy
      cases ts with
      | nil =>
          rw [List.nil_append, run_if_take, run_if_take_nil]
          by_cases passed : test dot
          · obtain ⟨value, read⟩ := both passed (start ++ [dot, name])
            rw [if_pos passed, read]
            exact stretch_taken start no value
          · rw [if_neg passed]
            exact noIh [] other calls bound
      | cons t after =>
          rw [List.cons_append, run_if_take, run_if_take]
          rw [calls_test] at calls
          by_cases passed : test t
          · rw [if_pos passed] at calls ⊢
            rw [if_pos passed]
            exact yesIh t after (taken t) calls (Nat.le_of_succ_le bound)
          · rw [if_neg passed] at calls ⊢
            rw [if_neg passed]
            exact noIh _ other calls bound
  | ifTakeTwo first second yes no yesIh noIh =>
      obtain ⟨taken, other, notSecond, both⟩ := stretchy
      match ts with
      | [] =>
          rw [List.nil_append, run_if_take_two, run_if_take_two_nil]
          by_cases passed : first dot && second name
          · rw [if_pos passed]
            rw [Bool.and_eq_true] at passed
            obtain ⟨value, read⟩ := both passed.1 passed.2 (start ++ [dot, name])
            rw [read]
            exact stretch_taken start no value
          · rw [if_neg passed]
            exact noIh [] other calls bound
      | [t] =>
          rw [List.singleton_append, run_if_take_two, run_if_take_two_one, if_neg (by simp [notSecond])]
          exact noIh [t] other calls bound
      | t :: u :: after =>
          rw [List.cons_append, List.cons_append, run_if_take_two, run_if_take_two]
          rw [calls_test_two] at calls
          by_cases passed : first t && second u
          · rw [if_pos passed] at calls ⊢
            rw [if_pos passed]
            refine yesIh t u after (taken t u) calls ?_
            simp only [List.length_cons] at bound
            omega
          · rw [if_neg passed] at calls ⊢
            rw [if_neg passed]
            exact noIh _ other calls bound
  | ifType yes no yesIh noIh =>
      obtain ⟨typed, other, ends⟩ := stretchy
      rw [run_if_type, run_if_type, starts_operand_self self]
      rw [calls_operand] at calls
      by_cases operand : startsOperand ts
      · rw [if_pos operand] at calls ⊢
        rw [if_pos operand]
        refine stretch_bind calls.1 (fun value rest type => ?_) (fun _ => run_exhausted _ _)
          (fun _ => run_exhausted _ _) (.inl fun _ => ends _)
        have shorter := length_reads .type _ value rest type
        exact yesIh rest typed (calls.2 rest type) (by omega)
      · rw [if_neg operand] at calls ⊢
        rw [if_neg operand]
        exact noIh ts other calls bound
  | element stops next ih =>
      obtain ⟨marks, others⟩ := stretchy
      have same := element_self self stops marks ts calls.1
      rw [run_element, run_element, same]
      cases found : outcome (element stops ts) with
      | none => exact stretch_extend _ _ rfl
      | some result =>
          obtain ⟨shorter, _⟩ := outcome_some found
          exact ih result.1 result.2 (others _) (calls.2 _ _ found) (by omega)
  | closure next ih =>
      rw [run_closure, run_closure, closure_end_self self]
      cases ended : outcome (closureEnd 0 ts) with
      | none => exact stretch_extend _ _ rfl
      | some result =>
          obtain ⟨shorter, _⟩ := outcome_some ended
          exact ih result.2 stretchy (calls _ ended) (by omega)
  | call p next ih =>
      obtain ⟨others, alike⟩ := stretchy
      rw [run_call, run_call]
      refine stretch_bind calls.1 (fun value rest found => ?_) (fun _ => run_exhausted _ _)
        (fun _ => run_exhausted _ _) (alike.imp (fun ends value => ends value _) fun stuck value => stuck value _)
      have shorter := length_reads p ts value rest found
      exact ih value rest (others value) (calls.2 value rest found) (by omega)

end ScreenDispatch.Expr
