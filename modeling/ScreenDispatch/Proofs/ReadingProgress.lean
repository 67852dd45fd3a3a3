import ScreenDispatch.Proofs.FaultPlaces
import ScreenDispatch.Proofs.ReadingSteps
import ScreenDispatch.Proofs.Rereading

/-!
Reading goes forward. Wherever reading stands in the tokens of a source, also in what is thrown away later, it stands behind
the place where its production was begun, and what is handed on as the source of a node has a token at least.
-/
set_option autoImplicit false

namespace ScreenDispatch.Expr

open Token Script

variable {α : Type}

def Production.before : Production → List Token
  | .suffixes before _ | .collection before | .parenthesized before => before
  | _ => []

-- `run` is what has been taken since the production was begun. What goes on with a node has all that was taken of it, and
-- neither a source is handed on nor a value returned before enough is taken.
def Script.Moves (before : List Token) (least : Nat) : List Token → Script α → Prop
  | run, .done _ => least ≤ run.length
  | _, .fail => True
  | run, .here next => 1 ≤ run.length ∧ (next run).Moves before least run
  | run, .take next => ∀ t, (next t).Moves before least (run ++ [t])
  | run, .ifTake _ yes no => (∀ t, (yes t).Moves before least (run ++ [t])) ∧ no.Moves before least run
  | run, .ifTakeTwo _ _ yes no => (∀ t u, (yes t u).Moves before least (run ++ [t, u])) ∧ no.Moves before least run
  | run, .ifType yes no => (∀ type, 1 ≤ type.length → yes.Moves before least (run ++ type)) ∧ no.Moves before least run
  | run, .element _ next => ∀ piece e, 1 ≤ piece.length → (next e).Moves before least (run ++ piece)
  | run, .closure next => ∀ piece, 1 ≤ piece.length → next.Moves before least (run ++ piece)
  | run, .call q next =>
    (q.before = [] ∨ q.before = before ++ run) ∧
      ∀ piece value, q.least ≤ piece.length → (next value).Moves before least (run ++ piece)

theorem moves_ite (before run : List Token) (least : Nat) (c : Prop) [Decidable c] (yes no : Script α) :
    (if c then yes else no).Moves before least run ↔
      (c → yes.Moves before least run) ∧ (¬ c → no.Moves before least run) := by
  split <;> simp [*]

theorem plain_name_moves (t : Token) : (plainName t).Moves [] 1 [t] := by
  unfold plainName
  split <;> exact Nat.le_refl 1

theorem symbol_first_moves (t : Token) : (symbolFirst t).Moves [] 1 [t] := by
  have grown (piece : List Token) : 1 ≤ ([t] ++ piece).length := Nat.le_add_left 1 piece.length
  unfold symbolFirst
  split
  · exact ⟨fun digits => grown [digits], trivial⟩
  split
  · intro name
    dsimp only
    split
    · exact grown [name]
    · trivial
  split
  · exact ⟨.inr rfl, fun piece _ _ => grown piece⟩
  split
  · exact ⟨.inr rfl, fun piece _ _ => grown piece⟩
  split
  · exact fun piece _ => ⟨grown piece, grown piece⟩
  · trivial

theorem script_moves (p : Production) : (script p).Moves p.before p.least [] := by
  cases p with
  | primary =>
      intro t
      dsimp only [List.nil_append]
      cases t.kind with
      | ident =>
          dsimp only
          split
          · exact ⟨fun type _ => ⟨Nat.le_add_left 1 type.length, Nat.le_add_left 1 type.length⟩, plain_name_moves t⟩
          · exact plain_name_moves t
      | string | number => exact Nat.le_refl 1
      | arrow | punct | other => exact symbol_first_moves t
  | type | typeOperand | valueType | typeElements | functionResult | memberTypes | optionalArguments | typeArguments
  | marks | effects =>
      simp only [script, typeScript, typeOperandScript, valueTypeScript, typeElementsScript, typeElement,
        functionResultScript, memberTypesScript, optionalArgumentsScript, typeArgumentsScript, marksScript,
        effectsScript, resultMarks, Script.expect, Script.Moves, moves_ite, Production.before, Production.least]
      grind
  | suffixes | expression | collection | entries | items | parenthesized | tupleItems =>
      simp only [script, suffixesScript, expressionScript, collectionScript, entriesScript, itemsScript,
        parenthesizedScript, tupleEnd, tupleItemsScript, tupleItem, Script.expect, Script.Moves, moves_ite,
        Production.before, Production.least]
      grind

theorem taken_one (t : Token) (rest : List Token) : taken (t :: rest) rest = [t] := taken_from [t] rest

theorem taken_least_iff (ts rest : List Token) (suffix : rest <:+ ts) (n : Nat) :
    n ≤ (taken ts rest).length ↔ rest.length + n ≤ ts.length := by
  have size := congrArg List.length (taken_append ts rest suffix)
  rw [List.length_append] at size
  omega

theorem step_moves {before start ts rest : List Token} {least : Nat} {s t : Script α} (within : ts <:+ start)
    (step : Step start s ts t rest) (moves : s.Moves before least (taken start ts)) :
    t.Moves before least (taken start rest) := by
  have suffix := step_suffix step
  rw [taken_trans start ts rest within suffix]
  cases step with
  | here next =>
      rw [taken_self, List.append_nil]
      exact moves.2
  | take next t =>
      rw [taken_one]
      exact moves t
  | one test yes no t =>
      rw [taken_one]
      exact moves.1 t
  | two first second yes no t u =>
      rw [taken_two]
      exact moves.1 t u
  | notOne | notTwo | noOperand =>
      rw [taken_self, List.append_nil]
      exact moves.2
  | operand yes no _ _ opens read =>
      exact moves.1 _ ((taken_least_iff ts rest suffix 1).mpr (length_reads .type ts () rest read))
  | element stops next _ e _ read =>
      obtain ⟨shorter, _⟩ := outcome_some read
      exact moves _ e ((taken_least_iff ts rest suffix 1).mpr shorter)
  | closure next _ _ read =>
      obtain ⟨shorter, _⟩ := outcome_some read
      exact moves _ ((taken_least_iff ts rest suffix 1).mpr shorter)
  | call q next _ value _ read =>
      exact moves.2 _ value ((taken_least_iff ts rest suffix q.least).mpr (length_reads q ts value rest read))

theorem steps_move {before start ts rest : List Token} {least : Nat} {s t : Script α} (steps : Steps start s ts t rest)
    (within : ts <:+ start) (moves : s.Moves before least (taken start ts)) :
    rest <:+ start ∧ t.Moves before least (taken start rest) := by
  induction steps with
  | refl => exact ⟨within, moves⟩
  | step first onward ih => exact ih ((step_suffix first).trans within) (step_moves within first moves)

section Reached

variable {source start ts : List Token} {p : Production} {s : Script p.Value}

theorem Reached.moves (reached : Reached source p start s ts) :
    ts <:+ start ∧ s.Moves p.before p.least (taken start ts) := by
  refine steps_move reached.steps (List.suffix_refl start) ?_
  rw [taken_self]
  exact script_moves p

theorem begins_behind {before run : List Token} {least : Nat} {s : Script α} {q : Production} (begins : Begins s ts q)
    (moves : s.Moves before least run) : q.before = [] ∨ q.before = before ++ run := by
  cases begins with
  | call => exact moves.1
  | operand | element => exact .inl rfl

theorem Started.within (started : Started source p start) : p.before ++ start <:+ source := by
  induction started with
  | whole => exact List.suffix_refl source
  | @inside p start s ts q started steps begins ih =>
      obtain ⟨within, moves⟩ := Reached.moves ⟨started, steps⟩
      obtain nothing | all := begins_behind begins moves
      · rw [nothing, List.nil_append]
        exact (within.trans (List.suffix_append _ _)).trans ih
      · rw [all, List.append_assoc, taken_append start ts within]
        exact ih

end Reached

structure StandsAt (source : List Token) (i : Nat) (ts : List Token) : Prop where
  bound : i ≤ source.length
  left : ts = source.drop i

theorem stand_at (source outer inner : List Token) (n : Nat) (within : outer <:+ source) (suffix : inner <:+ outer)
    (few : inner.length + n ≤ outer.length) :
    ∃ i j, i + n ≤ j ∧ StandsAt source i outer ∧ StandsAt source j inner := by
  have size := within.length_le
  refine ⟨source.length - outer.length, source.length - inner.length, by omega, ⟨by omega, ?_⟩, ⟨by omega, ?_⟩⟩
  · exact List.suffix_iff_eq_drop.mp within
  · exact List.suffix_iff_eq_drop.mp (suffix.trans within)

theorem taken_between (source outer inner : List Token) (i j : Nat) (order : i ≤ j) (first : StandsAt source i outer)
    (second : StandsAt source j inner) : taken outer inner = (source.take j).drop i := by
  have last := second.bound
  rw [taken, first.left, second.left, List.length_drop, List.length_drop, List.drop_take]
  congr 1
  omega

-- The slices that are taken while a source is read, from where they begin to where reading stands: of a node or generic
-- argument, of another node when it is complete, of the operand of a prefix and of an element that is not readable.
inductive Sliced (source : List Token) : List Token → List Token → Prop where
  | node {p : Production} {start : List Token} {next : List Token → Script p.Value} {ts : List Token}
      (reached : Reached source p start (.here next) ts) : Sliced source (p.before ++ start) ts
  | primary {start : List Token} {e : Tree} {ts : List Token} (reached : Reached source .primary start (.done e) ts) :
      Sliced source start ts
  | operand {p : Production} {start : List Token} {yes no : Script p.Value} {ts rest : List Token}
      (reached : Reached source p start (.ifType yes no) ts) (opens : startsOperand ts)
      (read : reads .type ts = some ((), rest)) : Sliced source ts rest
  | unreadable {p : Production} {start : List Token} {stops : List String} {next : Tree → Script p.Value}
      {ts rest : List Token} {e : Tree} (reached : Reached source p start (.element stops next) ts)
      (kept : outcome (unreadable stops ts) = some (e, rest)) : Sliced source ts rest

theorem Reached.within {source start ts : List Token} {p : Production} {s : Script p.Value}
    (reached : Reached source p start s ts) : ts <:+ source :=
  (reached.moves.1.trans (List.suffix_append p.before start)).trans reached.started.within

theorem Sliced.behind {source outer inner : List Token} (sliced : Sliced source outer inner) :
    outer <:+ source ∧ inner <:+ outer ∧ inner.length + 1 ≤ outer.length := by
  cases sliced with
  | @node p start next _ reached =>
      obtain ⟨within, some, -⟩ := reached.moves
      have few := (taken_least_iff start inner within 1).mp some
      refine ⟨reached.started.within, within.trans (List.suffix_append p.before start), ?_⟩
      rw [List.length_append]
      omega
  | primary reached =>
      obtain ⟨within, some⟩ := reached.moves
      exact ⟨reached.started.within, within, (taken_least_iff outer inner within 1).mp some⟩
  | operand reached opens read =>
      exact ⟨reached.within, reads_suffix .type outer () inner read, length_reads .type outer () inner read⟩
  | @unreadable p start stops next _ _ e reached kept =>
      obtain ⟨-, shorter, skipped⟩ := unreadable_some stops outer e inner kept
      exact ⟨reached.within, skip_to_suffix stops 0 outer inner skipped, shorter⟩

theorem element_attempt (stops : List String) (ts : List Token) :
    (∃ e rest, reads .expression ts = some (e, rest) ∧ stops.any (startsWith · rest) ∧
      outcome (element stops ts) = some (e, rest)) ∨ element stops ts = unreadable stops ts := by
  change (∃ e rest, outcome (expression ts) = some (e, rest) ∧ _) ∨ _
  rw [element]
  cases expression ts with
  | error fault => exact .inr rfl
  | ok p =>
      dsimp only
      split
      · rename_i ended
        exact .inl ⟨p.value, p.rest, rfl, ended, rfl⟩
      · exact .inr rfl

theorem unreadable_ends (stops : List String) (ts : List Token) :
    (∃ rest, skipTo stops 0 ts = .ok rest ∧ outcome (unreadable stops ts) = some (.unparsed (taken ts rest), rest)) ∨
      ∃ fault, unreadable stops ts = .error fault := by
  cases result : unreadable stops ts with
  | error fault => exact .inr ⟨fault, rfl⟩
  | ok p =>
      obtain ⟨same, -, skipped⟩ := unreadable_some stops ts p.value p.rest (by rw [result]; rfl)
      exact .inl ⟨p.rest, skipped, by rw [outcome, same]⟩

structure GoesForward (source : List Token) : Prop where
  places : ∀ p start s ts, Reached source p start s ts →
    ∃ i j, i ≤ j ∧ StandsAt source i (p.before ++ start) ∧ StandsAt source j ts
  calls : ∀ p start s ts q, Reached source p start s ts → Begins s ts q → q.weight ts < p.weight start
  returns : ∀ p start value rest, Started source p start → reads p start = some (value, rest) →
    ∃ i j, i + p.least ≤ j ∧ StandsAt source i start ∧ StandsAt source j rest
  rewinds : ∀ p start stops next ts, Reached source p start (.element stops next) ts →
    (∃ e rest, reads .expression ts = some (e, rest) ∧ stops.any (startsWith · rest) ∧
      outcome (element stops ts) = some (e, rest)) ∨
    element stops ts = unreadable stops ts ∧
      ((∃ i j rest, i < j ∧ StandsAt source i ts ∧ StandsAt source j rest ∧ skipTo stops 0 ts = .ok rest ∧
        outcome (unreadable stops ts) = some (.unparsed (taken ts rest), rest)) ∨
      ∃ fault, unreadable stops ts = .error fault)
  slices : ∀ outer inner, Sliced source outer inner →
    ∃ i j, i < j ∧ StandsAt source i outer ∧ StandsAt source j inner ∧ taken outer inner = (source.take j).drop i

theorem goes_forward (source : List Token) : GoesForward source := by
  refine ⟨fun p start s ts reached => ?_, fun p start s ts q => started_lighter, fun p start value rest started read => ?_,
    fun p start stops next ts reached => ?_, fun outer inner sliced => ?_⟩
  · have within := reached.moves.1.trans (List.suffix_append p.before start)
    exact stand_at source (p.before ++ start) ts 0 reached.started.within within within.length_le
  · have within := (List.suffix_append p.before start).trans started.within
    exact stand_at source start rest p.least within (reads_suffix p start value rest read)
      (length_reads p start value rest read)
  · refine (element_attempt stops ts).imp_right fun rewound => ⟨rewound, ?_⟩
    refine (unreadable_ends stops ts).imp_left fun ⟨rest, skipped, kept⟩ => ?_
    obtain ⟨within, suffix, shorter⟩ := Sliced.behind (.unreadable reached kept)
    obtain ⟨i, j, order, outer, inner⟩ := stand_at source ts rest 1 within suffix shorter
    exact ⟨i, j, rest, order, outer, inner, skipped, kept⟩
  · obtain ⟨within, suffix, shorter⟩ := sliced.behind
    obtain ⟨i, j, order, first, second⟩ := stand_at source outer inner 1 within suffix shorter
    exact ⟨i, j, order, first, second, taken_between source outer inner i j (Nat.le_of_succ_le order) first second⟩

theorem read_fault (source : String) (error : ArgumentError) (failed : read source = .error error) :
    (scan source = [] ∧ error = .empty) ∨
      ∃ fault, scan source ≠ [] ∧ ofTokens (scan source) = .error fault ∧ error = .unreadable source fault := by
  unfold read at failed
  split at failed
  · rename_i nothing
    cases failed
    exact .inl ⟨nothing, rfl⟩
  · rename_i some
    split at failed
    · cases failed
    · rename_i fault found
      cases failed
      exact .inr ⟨fault, some, found, rfl⟩

/-- Every text comes to be an expression or an error, by steps of which each stays in the tokens of the text and none falls
behind the place where it was begun. What has tokens, and is no expression, fails at one of them or at the end. -/
theorem read_goes_forward (source : String) :
    GoesForward (scan source) ∧
    ((∃ tree, Reached (scan source) .expression (scan source) (.done tree) [] ∧
        read source = .ok (tree.map (textOf source.toList))) ∨
      (scan source = [] ∧ read source = .error .empty) ∨
      ∃ fault place, scan source ≠ [] ∧ read source = .error (.unreadable source fault) ∧
        (ArgumentError.unreadable source fault).message =
          "Cannot parse attribute argument " ++ Text.quoted source ++ ": " ++ (fault.cause.message ++ " at " ++ place) ∧
        (place = "end of input" ∨ ∃ t ∈ scan source, place = "offset " ++ toString t.start)) := by
  refine ⟨goes_forward (scan source), ?_⟩
  cases result : read source with
  | ok e =>
      obtain ⟨tree, parsed, rfl⟩ := (read_ok_iff source e).mp result
      exact .inl ⟨tree, ⟨.whole, (reads_iff_steps .expression _ tree []).mp parsed⟩, rfl⟩
  | error error =>
      refine .inr ?_
      obtain ⟨nothing, rfl⟩ | ⟨fault, some, failed, rfl⟩ := read_fault source error result
      · exact .inl ⟨nothing, rfl⟩
      · refine .inr ⟨fault, _, some, rfl, rfl, ?_⟩
        obtain none | ⟨t, present, here⟩ := of_tokens_place (scan source) fault failed
        · rw [none]
          exact .inl rfl
        · rw [here]
          exact .inr ⟨t, present, rfl⟩

def rewoundSource : String := "[a.b c]"

theorem rewound_text_goes_forward :
    read rewoundSource = .ok (.array "[a.b c]" [.unparsed "a.b c"]) ∧
    Sliced (scan rewoundSource) (scan rewoundSource) [] ∧
    ∃ i j, i < j ∧ StandsAt (scan rewoundSource) i (scan rewoundSource) ∧ StandsAt (scan rewoundSource) j [] ∧
      taken (scan rewoundSource) [] = ((scan rewoundSource).take j).drop i :=
  have whole : ∃ e, reads .primary (scan rewoundSource) = some (e, []) := ⟨_, by cbv⟩
  have sliced : Sliced (scan rewoundSource) (scan rewoundSource) [] := by
    obtain ⟨e, read⟩ := whole
    exact Sliced.node (p := .expression) ⟨.whole, .step (.call .primary _ _ e [] read) (.refl _ _)⟩
  ⟨by cbv, sliced, (read_goes_forward rewoundSource).1.slices _ _ sliced⟩

end ScreenDispatch.Expr
