import ScreenDispatch.Proofs.Discipline

/-!
A production does not look beyond its brackets. Tokens that are put behind its input change nothing
while a bracket is open, and outside brackets they change nothing for what ends before them.
-/
set_option autoImplicit false

namespace ScreenDispatch.Expr

open Token Script

variable {α : Type}

structure Closing (closers : List String) (ts : List Token) : Prop where
  faithful : AllFaithful ts
  closed : awaited closers ts = some []

def QuietHead (more : List Token) : Prop := ∃ q rest, more = q :: rest ∧ quiet q

-- What no expression reaches across: a closer, a colon, or a comma before a closer.
def Barrier (more : List Token) : Prop :=
  ∃ q rest, more = q :: rest ∧ (closes q ∨ q.isPunctuation ":" ∨
    q.isPunctuation "," ∧ ∃ closer others, rest = closer :: others ∧ closes closer)

-- The same is read without and with the tokens `more` behind the input; `outer` awaits closers.
structure Local (more : List Token) (outer : List String) (short long : Outcome α) : Prop where
  forth : outer ≠ [] ∨ QuietHead more → ∀ value rest, short = some (value, rest) →
    long = some (value, rest ++ more)
  back : ∀ value rest, long = some (value, rest) →
    outer ≠ [] ∨ Barrier more ∨ more.length ≤ rest.length →
    ∃ left, rest = left ++ more ∧ short = some (value, left)

def LocalAt (p : Production) (ts : List Token) : Prop :=
  ∀ outer more, (p.enclosed → outer ≠ []) → Closing (p.closers ++ outer) ts →
    Local more outer (reads p ts) (reads p (ts ++ more))

theorem Closing.matched {closers : List String} {ts : List Token} (closing : Closing closers ts) :
    Matched closers ts :=
  ⟨closing.faithful, [], closing.closed⟩

theorem closing_rest (closers outer : List String) {xs rest : List Token}
    (closing : Closing (closers ++ outer) (xs ++ rest)) (closed : awaited closers xs = some []) :
    Closing outer rest :=
  ⟨all_faithful_rest xs closing.faithful, (awaited_closed closers outer xs rest closed).symm.trans closing.closed⟩

theorem closing_tail {closers left : List String} {t : Token} {rest : List Token} (outer : List String)
    (closing : Closing (closers ++ outer) (t :: rest)) (step : advance closers t = some left) :
    Closing (left ++ outer) rest := by
  refine ⟨all_faithful_rest [t] closing.faithful, ?_⟩
  rw [← closing.closed, awaited_cons, advance_outer closers outer left t step]
  rfl

theorem closing_nil (closers : List String) {outer : List String} (closing : Closing (closers ++ outer) []) :
    closers = [] ∧ outer = [] := by
  have empty := closing.closed
  rw [awaited_nil, Option.some_inj] at empty
  exact List.append_eq_nil_iff.mp empty

theorem local_extend (more : List Token) (outer : List String) (short long : Outcome α)
    (same : long = short.map fun r => (r.1, r.2 ++ more)) : Local more outer short long := by
  rw [same]
  refine ⟨fun _ value rest read => by rw [read]; rfl, fun value rest read _ => ?_⟩
  obtain ⟨⟨v, left⟩, found, whole⟩ := Option.map_eq_some_iff.mp read
  cases whole
  exact ⟨left, rfl, found⟩

theorem local_bind {β : Type} {more : List Token} (inner : List String) {outer : List String}
    {x y : Outcome β} {f g : β × List Token → Outcome α} (wide : Local more (inner ++ outer) x y)
    (steps : ∀ value rest, x = some (value, rest) → Local more outer (f (value, rest)) (g (value, rest ++ more)))
    (shrinks : ∀ value middle last rest, g (value, middle) = some (last, rest) → rest.length ≤ middle.length) :
    Local more outer (x.bind f) (y.bind g) := by
  have widen (between : outer ≠ []) : inner ++ outer ≠ [] := by simp [between]
  refine ⟨fun condition last rest read => ?_, fun last rest read condition => ?_⟩
  · obtain ⟨⟨value, middle⟩, found, after⟩ := Option.bind_eq_some_iff.mp read
    rw [wide.forth (condition.imp_left widen) value middle found]
    exact (steps value middle found).forth condition last rest after
  · obtain ⟨⟨value, middle⟩, found, after⟩ := Option.bind_eq_some_iff.mp read
    have shorter := shrinks value middle last rest after
    obtain ⟨left, rfl, short⟩ :=
      wide.back value middle found (condition.imp widen (.imp_right fun bound => by omega))
    rw [short]
    exact (steps value left short).back last rest after condition

theorem taken_behind (start ts more : List Token) (bound : ts.length ≤ start.length) :
    taken (start ++ more) (ts ++ more) = taken start ts := by
  have same : start.length + more.length - (ts.length + more.length) = start.length - ts.length := by omega
  rw [taken, taken, List.length_append, List.length_append, same, List.take_append_of_le_length (by omega)]

theorem unreadable_extend (stops : List String) (ts more : List Token)
    (same : (skipTo stops 0 (ts ++ more)).toOption = (skipTo stops 0 ts).toOption.map (· ++ more)) :
    outcome (unreadable stops (ts ++ more)) =
      (outcome (unreadable stops ts)).map fun r => (r.1, r.2 ++ more) := by
  rw [outcome_unreadable, outcome_unreadable]
  cases short : skipTo stops 0 ts with
  | error fault =>
      cases long : skipTo stops 0 (ts ++ more) with
      | error other => rfl
      | ok rest =>
          rw [short, long] at same
          cases same
  | ok rest =>
      cases long : skipTo stops 0 (ts ++ more) with
      | error other =>
          rw [short, long] at same
          cases same
      | ok whole =>
          rw [short, long] at same
          cases same
          have bound := (skip_to_suffix stops 0 ts rest short).length_le
          dsimp only
          rw [List.length_append, List.length_append, taken_behind ts rest more bound]
          by_cases shorter : rest.length < ts.length
          · rw [if_pos shorter, if_pos (by omega)]
            rfl
          · rw [if_neg shorter, if_neg (by omega)]
            rfl

theorem element_extend (stops closers : List String) (ts more : List Token)
    (expression : LocalAt .expression ts) (closing : Closing ("]" :: closers) ts) :
    outcome (element stops (ts ++ more)) = (outcome (element stops ts)).map fun r => (r.1, r.2 ++ more) := by
  have same := expression ("]" :: closers) more (fun _ => by simp) closing
  have skipped := unreadable_extend stops ts more (skip_to_append stops [] closers "]" ts more closing.closed)
  rw [outcome_element, outcome_element, skipped]
  cases found : reads .expression ts with
  | none =>
      have missing : reads .expression (ts ++ more) = none := by
        rw [Option.eq_none_iff_forall_ne_some]
        rintro ⟨e, rest⟩ read
        obtain ⟨left, _, short⟩ := same.back e rest read (.inl (by simp))
        rw [found] at short
        cases short
      rw [missing]
  | some read =>
      obtain ⟨e, rest⟩ := read
      rw [same.forth (.inl (by simp)) e rest found]
      dsimp only
      obtain ⟨xs, rfl, nested⟩ := reads_nested _ _ _ closing.matched e rest found
      cases rest with
      | nil =>
          have rest := closing_rest [] ("]" :: closers) closing nested
          cases (closing_nil [] rest).2
      | cons t after =>
          change (if stops.any (startsWith · (t :: after)) then _ else _) = _
          split <;> rfl

theorem local_outside {more : List Token} {outer : List String} {short long : Outcome α}
    (outside : outer = [])
    (quietly : QuietHead more → ∀ value rest, short ≠ some (value, rest))
    (taken : ∀ value rest, long = some (value, rest) → rest.length < more.length)
    (stopped : Barrier more → long = none) : Local more outer short long := by
  refine ⟨fun condition value rest read => ?_, fun value rest read condition => ?_⟩
  · obtain inside | quiet := condition
    · exact absurd outside inside
    · exact absurd read (quietly quiet value rest)
  · have shorter := taken value rest read
    obtain inside | barrier | bound := condition
    · exact absurd outside inside
    · rw [stopped barrier] at read
      cases read
    · omega

theorem barrier_quiet {q : Token} {rest : List Token} (barrier : Barrier (q :: rest)) : quiet q := by
  obtain ⟨_, _, same, mark⟩ := barrier
  cases same
  unfold quiet
  obtain closer | colon | ⟨comma, _⟩ := mark
  · simp [closer]
  · simp [colon]
  · simp [comma]

theorem run_length (start : List Token) (s : Script α) (ts : List Token) (value : α) (rest : List Token)
    (read : s.run start ts = some (value, rest)) : rest.length ≤ ts.length :=
  (run_leaves_suffix start s ts value rest read).length_le

theorem local_take_nil (enclosed : Bool) (outer : List String) (start more : List Token)
    (next : Token → Script α) (disciplined : (Script.take next).Disciplined enclosed [])
    (outside : outer = []) :
    Local more outer ((Script.take next).run start []) ((Script.take next).run (start ++ more) ([] ++ more)) := by
  cases more with
  | nil => exact local_extend [] outer _ _ rfl
  | cons q rest =>
      refine local_outside outside (fun _ _ _ read => by cases read) (fun value left read => ?_)
        fun barrier => ?_
      · exact Nat.lt_succ_of_le (run_length _ (next q) rest value left read)
      · rw [List.nil_append, run_take, (disciplined q).1 (barrier_quiet barrier), run_fail]

theorem comma_not_closing (q : Token) (comma : q.isPunctuation ",") : ¬ closes q := by
  rw [punctuation_iff] at comma
  rw [closes_iff, comma.2]
  exact fun closing => absurd closing.2 (by decide)

theorem local_if_take_nil (outer : List String) (start more : List Token) (test : Token → Bool)
    (yes : Token → Script α) (no : Script α) (outside : outer = [])
    (separates : ∀ q, quiet q → test q → (yes q).Separates q no)
    (otherwise : Local more outer (no.run start []) (no.run (start ++ more) ([] ++ more))) :
    Local more outer ((Script.ifTake test yes no).run start [])
      ((Script.ifTake test yes no).run (start ++ more) ([] ++ more)) := by
  cases more with
  | nil => exact otherwise
  | cons q rest =>
      rw [List.nil_append, run_if_take, run_if_take_nil]
      by_cases passed : test q
      · rw [if_pos passed]
        refine local_outside outside (fun quietly value left read => ?_) (fun value left read => ?_)
          fun barrier => ?_
        · obtain ⟨_, _, same, stop⟩ := quietly
          cases same
          rw [(separates q stop passed).2.1] at read
          cases read
        · exact Nat.lt_succ_of_le (run_length _ (yes q) rest value left read)
        · obtain ⟨comma, _, stuck⟩ := separates q (barrier_quiet barrier) passed
          obtain ⟨_, _, same, closing | colon | ⟨_, closer, others, rfl, closing⟩⟩ := barrier
          · cases same
            exact absurd closing (comma_not_closing q comma)
          · cases same
            rw [punctuation_iff] at comma colon
            exact absurd (comma.2.symm.trans colon.2) (by decide)
          · cases same
            exact stuck _ closer others closing
      · rw [if_neg passed]
        exact otherwise

theorem local_if_take_two_nil (outer : List String) (start more : List Token) (first second : Token → Bool)
    (yes : Token → Token → Script α) (no : Script α) (outside : outer = [])
    (silent : ∀ q, quiet q → ¬ first q ∧ ¬ second q)
    (otherwise : Local more outer (no.run start []) (no.run (start ++ more) ([] ++ more))) :
    Local more outer ((Script.ifTakeTwo first second yes no).run start [])
      ((Script.ifTakeTwo first second yes no).run (start ++ more) ([] ++ more)) := by
  match more with
  | [] => exact otherwise
  | [q] => exact otherwise
  | q :: u :: rest =>
      rw [List.nil_append, run_if_take_two, run_if_take_two_nil]
      by_cases passed : first q && second u
      · rw [if_pos passed]
        rw [Bool.and_eq_true] at passed
        refine local_outside outside (fun quietly value left read => ?_) (fun value left read => ?_)
          fun barrier => ?_
        · obtain ⟨_, _, same, stop⟩ := quietly
          cases same
          exact absurd passed.1 (silent q stop).1
        · have bound := run_length _ (yes q u) rest value left read
          simp only [List.length_cons]
          omega
        · exact absurd passed.1 (silent q (barrier_quiet barrier)).1
      · rw [if_neg passed]
        exact otherwise

theorem local_if_take_two_one (outer : List String) (start more : List Token) (t : Token)
    (first second : Token → Bool) (yes : Token → Token → Script α) (no : Script α)
    (outside : first t → outer = []) (silent : first t → ∀ q, quiet q → ¬ second q)
    (otherwise : Local more outer (no.run start [t]) (no.run (start ++ more) ([t] ++ more))) :
    Local more outer ((Script.ifTakeTwo first second yes no).run start [t])
      ((Script.ifTakeTwo first second yes no).run (start ++ more) ([t] ++ more)) := by
  cases more with
  | nil => exact otherwise
  | cons q rest =>
      rw [List.singleton_append, run_if_take_two, run_if_take_two_one]
      by_cases passed : first t && second q
      · rw [if_pos passed]
        rw [Bool.and_eq_true] at passed
        refine local_outside (outside passed.1) (fun quietly value left read => ?_)
          (fun value left read => ?_) fun barrier => ?_
        · obtain ⟨_, _, same, stop⟩ := quietly
          cases same
          exact absurd passed.2 (silent passed.1 q stop)
        · exact Nat.lt_succ_of_le (run_length _ (yes t q) rest value left read)
        · exact absurd passed.2 (silent passed.1 q (barrier_quiet barrier))
      · rw [if_neg passed]
        exact otherwise

theorem quiet_starts_no_operand (q : Token) (rest : List Token) (stop : quiet q) :
    ¬ startsOperand (q :: rest) := by
  have bracket := quiet_punctuation "[" (by decide) q stop
  have parenthesis := quiet_punctuation "(" (by decide) q stop
  simp [startsOperand, quiet_kind q stop, bracket, parenthesis]

theorem local_if_type_nil (outer : List String) (start more : List Token) (yes no : Script α)
    (outside : outer = [])
    (otherwise : Local more outer (no.run start []) (no.run (start ++ more) ([] ++ more))) :
    Local more outer ((Script.ifType yes no).run start [])
      ((Script.ifType yes no).run (start ++ more) ([] ++ more)) := by
  rw [List.nil_append, run_if_type, run_if_type, if_neg (by decide : ¬ startsOperand [] = true)]
  by_cases operand : startsOperand more
  · rw [if_pos operand]
    cases more with
    | nil => cases operand
    | cons q rest =>
        refine local_outside outside (fun quietly value left read => ?_) (fun value left read => ?_)
          fun barrier => ?_
        · obtain ⟨_, _, same, stop⟩ := quietly
          cases same
          exact absurd operand (quiet_starts_no_operand q rest stop)
        · obtain ⟨⟨_, middle⟩, type, after⟩ := Option.bind_eq_some_iff.mp read
          have typed := length_reads .type _ () middle type
          have bound := run_length _ yes middle value left after
          simp only [Production.least] at typed
          omega
        · exact absurd operand (quiet_starts_no_operand q rest (barrier_quiet barrier))
  · rw [if_neg operand]
    exact otherwise

theorem run_local (enclosed : Bool) (closers outer : List String) (start : List Token) (s : Script α)
    (ts more : List Token) (disciplined : s.Disciplined enclosed closers) (calls : s.Calls LocalAt start ts)
    (free : enclosed = true → outer ≠ []) (closing : Closing (closers ++ outer) ts)
    (bound : ts.length ≤ start.length) :
    Local more outer (s.run start ts) (s.run (start ++ more) (ts ++ more)) := by
  -- At the end of the tokens no bracket is open, and the production stands by itself.
  have outside (closers : List String) (closing : Closing (closers ++ outer) []) :
      closers = [] ∧ outer = [] ∧ enclosed = false := by
    obtain ⟨none, outside⟩ := closing_nil closers closing
    refine ⟨none, outside, ?_⟩
    cases enclosed with
    | true => exact absurd outside (free rfl)
    | false => rfl
  induction s generalizing closers ts with
  | done found => exact local_extend more outer _ _ rfl
  | fail => exact local_extend more outer _ _ rfl
  | here next ih =>
      rw [run_here, run_here, taken_behind start ts more bound]
      exact ih _ closers ts (disciplined _) calls closing bound
  | take next ih =>
      cases ts with
      | nil =>
          obtain ⟨rfl, empty, _⟩ := outside closers closing
          exact local_take_nil enclosed outer start more next disciplined empty
      | cons t after =>
          rw [run_take, List.cons_append, run_take]
          obtain ⟨stops, goes⟩ := disciplined t
          by_cases stop : quiet t
          · rw [stops stop]
            exact local_extend more outer _ _ rfl
          · obtain ⟨left, step, others⟩ := goes (closing.faithful t List.mem_cons_self) stop
            exact ih t left after others calls (closing_tail outer closing step) (Nat.le_of_succ_le bound)
  | ifTake test yes no yesIh noIh =>
      cases ts with
      | nil =>
          obtain ⟨rfl, empty, alone⟩ := outside closers closing
          exact local_if_take_nil outer start more test yes no empty (disciplined.2.2 rfl alone)
            (noIh [] [] disciplined.1 calls closing bound)
      | cons t after =>
          rw [List.cons_append, run_if_take, run_if_take]
          rw [calls_test] at calls
          by_cases passed : test t
          · rw [if_pos passed] at calls ⊢
            rw [if_pos passed]
            obtain ⟨left, step, others⟩ := disciplined.2.1 t (closing.faithful t List.mem_cons_self) passed
            exact yesIh t left after others calls (closing_tail outer closing step) (Nat.le_of_succ_le bound)
          · rw [if_neg passed] at calls ⊢
            rw [if_neg passed]
            exact noIh closers _ disciplined.1 calls closing bound
  | ifTakeTwo first second yes no yesIh noIh =>
      obtain ⟨other, both, plain, silent⟩ := disciplined
      match ts with
      | [] =>
          obtain ⟨rfl, empty, alone⟩ := outside closers closing
          exact local_if_take_two_nil outer start more first second yes no empty (silent rfl alone)
            (noIh [] [] other calls closing bound)
      | [t] =>
          have alone (found : first t) : closers = [] ∧ outer = [] ∧ enclosed = false :=
            outside closers (closing_tail outer closing (plain t (.inl found) closers))
          refine local_if_take_two_one outer start more t first second yes no (fun found => (alone found).2.1)
            (fun found q stop => ?_) (noIh closers [t] other calls closing bound)
          exact (silent (alone found).1 (alone found).2.2 q stop).2
      | t :: u :: after =>
          rw [List.cons_append, List.cons_append, run_if_take_two, run_if_take_two]
          rw [calls_test_two] at calls
          by_cases passed : first t && second u
          · rw [if_pos passed] at calls ⊢
            rw [if_pos passed]
            rw [Bool.and_eq_true] at passed
            have next := closing_tail outer closing (plain t (.inl passed.1) closers)
            refine yesIh t u closers after (both t u) calls
              (closing_tail outer next (plain u (.inr passed.2) closers)) ?_
            simp only [List.length_cons] at bound
            omega
          · rw [if_neg passed] at calls ⊢
            rw [if_neg passed]
            exact noIh closers _ other calls closing bound
  | ifType yes no yesIh noIh =>
      cases ts with
      | nil =>
          obtain ⟨rfl, empty, _⟩ := outside closers closing
          exact local_if_type_nil outer start more yes no empty (noIh [] [] disciplined.2 calls closing bound)
      | cons t after =>
          rw [run_if_type, run_if_type]
          change Local more outer _ (if startsOperand (t :: after) then _ else _)
          rw [calls_operand] at calls
          by_cases operand : startsOperand (t :: after)
          · rw [if_pos operand] at calls ⊢
            rw [if_pos operand]
            refine local_bind closers (calls.1 (closers ++ outer) more (fun other => by cases other) closing)
              (fun value rest type => ?_) fun value middle last rest read => run_length _ yes middle last rest read
            obtain ⟨xs, whole, nested⟩ := reads_nested .type _ _ closing.matched value rest type
            refine yesIh closers rest disciplined.1 (calls.2 rest type) ?_ ?_
            · rw [whole] at closing
              exact closing_rest [] _ closing nested
            · have shorter := length_reads .type _ value rest type
              omega
          · rw [if_neg operand] at calls ⊢
            rw [if_neg operand]
            exact noIh closers _ disciplined.2 calls closing bound
  | element stops next ih =>
      obtain ⟨⟨left, rfl⟩, others⟩ := disciplined
      rw [run_element, run_element]
      refine local_bind ("]" :: left) (local_extend more _ _ _
        (element_extend stops (left ++ outer) ts more calls.1 closing)) (fun e rest found => ?_)
        fun e middle last rest read => run_length _ (next e) middle last rest read
      obtain ⟨xs, rfl, nested⟩ := element_nested stops _ ts e rest (reads_nested _ _) closing.matched found
      refine ih e ("]" :: left) rest (others e) (calls.2 e rest found) (closing_rest [] _ closing nested) ?_
      simp only [List.length_append] at bound
      omega
  | closure next ih =>
      obtain ⟨left, rfl, others⟩ := disciplined
      rw [run_closure, run_closure]
      refine local_bind left (local_extend more _ _ _
        (closure_end_append [] (left ++ outer) ts more closing.closed)) (fun _ rest ended => ?_)
        fun _ middle last rest read => run_length _ next middle last rest read
      obtain ⟨xs, rfl, closed⟩ := closure_nested (left ++ outer) ts rest closing.matched ended
      refine ih left rest others (calls rest ended) (closing_rest ["\x7d"] _ closing closed) ?_
      simp only [List.length_append] at bound
      omega
  | call p next ih =>
      obtain ⟨left, rfl, inside, others⟩ := disciplined
      rw [List.append_assoc] at closing
      rw [run_call, run_call]
      have covered (between : p.enclosed = true) : left ++ outer ≠ [] := by
        obtain same | nonempty := inside between
        · simp [free same]
        · simp [nonempty]
      refine local_bind left (calls.1 (left ++ outer) more covered closing) (fun value rest found => ?_)
        fun value middle last rest read => run_length _ (next value) middle last rest read
      obtain ⟨xs, rfl, closed⟩ := reads_nested p ts _ closing.matched value rest found
      refine ih value left rest (others value) (calls.2 value rest found)
        (closing_rest p.closers _ closing closed) ?_
      simp only [List.length_append] at bound
      omega

theorem reads_local (p : Production) (ts : List Token) : LocalAt p ts := by
  induction p, ts using production_induction with
  | step p ts calls =>
      intro outer more free closing
      rw [reads_eq, reads_eq]
      exact run_local p.enclosed p.closers outer ts (script p) ts more (disciplined p) calls free closing
        (Nat.le_refl _)

end ScreenDispatch.Expr
