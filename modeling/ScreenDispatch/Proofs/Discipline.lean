import ScreenDispatch.Proofs.Nesting

/-!
Which brackets a production closes. A script is disciplined if it closes exactly the brackets that
are open before it and those it opens itself, and if outside brackets it never goes on behind a
closer or a colon. Every production is disciplined, and so what it takes is nested.
-/
set_option autoImplicit false

namespace ScreenDispatch.Expr

open Token Script

variable {α : Type}

def Production.closers : Production → List String
  | .collection _ | .entries | .items => ["]"]
  | .parenthesized _ => [")"]
  | _ => []

def Production.enclosed : Production → Bool
  | .valueType | .typeElements | .tupleItems => true
  | _ => false

def quiet (t : Token) : Bool := closes t || t.isPunctuation ":" || t.isPunctuation ","

def Script.Separates (q : Token) (yes no : Script α) : Prop :=
  q.isPunctuation "," ∧ (∀ start, no.run start [] = none) ∧
    ∀ start closer rest, closes closer → yes.run start (closer :: rest) = none

def Script.Disciplined (enclosed : Bool) : List String → Script α → Prop
  | closers, .done _ => closers = []
  | _, .fail => True
  | closers, .here next => ∀ ts, (next ts).Disciplined enclosed closers
  | closers, .take next => ∀ t, (quiet t → next t = .fail) ∧
    (Faithful t → ¬ quiet t → ∃ left, advance closers t = some left ∧ (next t).Disciplined enclosed left)
  | closers, .ifTake test yes no => no.Disciplined enclosed closers ∧
    (∀ t, Faithful t → test t → ∃ left, advance closers t = some left ∧ (yes t).Disciplined enclosed left) ∧
    (closers = [] → enclosed = false → ∀ q, quiet q → test q → (yes q).Separates q no)
  | closers, .ifTakeTwo first second yes no => no.Disciplined enclosed closers ∧
    (∀ t u, (yes t u).Disciplined enclosed closers) ∧
    (∀ t, first t ∨ second t → ∀ outer, advance outer t = some outer) ∧
    (closers = [] → enclosed = false → ∀ q, quiet q → ¬ first q ∧ ¬ second q)
  | closers, .ifType yes no => yes.Disciplined enclosed closers ∧ no.Disciplined enclosed closers
  | closers, .element _ next => (∃ outer, closers = "]" :: outer) ∧ ∀ e, (next e).Disciplined enclosed closers
  | closers, .closure next => ∃ outer, closers = "\x7d" :: outer ∧ next.Disciplined enclosed outer
  | closers, .call p next => ∃ outer, closers = p.closers ++ outer ∧
    (p.enclosed → enclosed = true ∨ outer ≠ []) ∧ ∀ value, (next value).Disciplined enclosed outer

theorem quiet_iff (t : Token) :
    quiet t ↔ t.kind = .punct ∧ t.value ∈ [")", "]", "\x7d", ":", ","] := by
  simp only [quiet, Bool.or_eq_true, closes_iff, punctuation_iff, List.mem_cons, List.not_mem_nil, or_false]
  tauto

theorem disciplined_call (enclosed : Bool) (p : Production) (next : p.Value → Script α)
    (free : p.enclosed = false) (outer : List String) (onward : ∀ value, (next value).Disciplined enclosed outer) :
    (Script.call p next).Disciplined enclosed (p.closers ++ outer) :=
  ⟨outer, rfl, fun other => by simp [free] at other, onward⟩

theorem disciplined_if (enclosed : Bool) (closers : List String) (test : Token → Bool)
    (yes : Token → Script α) (no : Script α) (plain : ∀ t, test t → ∀ outer, advance outer t = some outer)
    (inside : closers = [] → enclosed = false → ∀ q, quiet q → ¬ test q)
    (taken : ∀ t, (yes t).Disciplined enclosed closers) (other : no.Disciplined enclosed closers) :
    (Script.ifTake test yes no).Disciplined enclosed closers :=
  ⟨other, fun t _ found => ⟨closers, plain t found closers, taken t⟩,
    fun outside free q stop found => absurd found (inside outside free q stop)⟩

theorem advance_symbol (symbol : String) (plain : symbol ∉ ["(", ")", "[", "]", "\x7b", "\x7d"])
    (t : Token) (found : t.isSymbol symbol) (outer : List String) : advance outer t = some outer := by
  refine advance_of_value outer t ?_
  rw [symbol_value symbol t found]
  exact plain

theorem quiet_symbol (symbol : String) (loud : symbol ∉ [")", "]", "\x7d", ":", ","]) (q : Token)
    (stop : quiet q) : ¬ q.isSymbol symbol := by
  intro found
  apply loud
  rw [← symbol_value symbol q found]
  exact ((quiet_iff q).mp stop).2

theorem quiet_kind (q : Token) (stop : quiet q) : q.kind = .punct := ((quiet_iff q).mp stop).1

theorem disciplined_symbol (enclosed : Bool) (closers : List String) (symbol : String)
    (yes : Token → Script α) (no : Script α)
    (plain : symbol ∉ ["(", ")", "[", "]", "\x7b", "\x7d"]) (loud : symbol ∉ [")", "]", "\x7d", ":", ","])
    (taken : ∀ t, (yes t).Disciplined enclosed closers) (other : no.Disciplined enclosed closers) :
    (Script.ifTake (isSymbol symbol) yes no).Disciplined enclosed closers :=
  disciplined_if enclosed closers _ yes no (advance_symbol symbol plain)
    (fun _ _ => quiet_symbol symbol loud) taken other

theorem disciplined_separator (enclosed : Bool) (closers : List String) (symbol : String)
    (yes : Token → Script α) (no : Script α)
    (plain : symbol ∉ ["(", ")", "[", "]", "\x7b", "\x7d"]) (inside : closers ≠ [] ∨ enclosed = true)
    (taken : ∀ t, (yes t).Disciplined enclosed closers) (other : no.Disciplined enclosed closers) :
    (Script.ifTake (isSymbol symbol) yes no).Disciplined enclosed closers := by
  refine disciplined_if enclosed closers _ yes no (advance_symbol symbol plain) ?_ taken other
  intro outside free
  obtain between | between := inside
  · exact absurd outside between
  · rw [between] at free
    cases free

theorem disciplined_closer (enclosed : Bool) (outer : List String) (symbol : String)
    (yes : Token → Script α) (no : Script α) (closing : symbol ∈ [")", "]", "\x7d"])
    (taken : ∀ t, (yes t).Disciplined enclosed outer)
    (other : no.Disciplined enclosed (symbol :: outer)) :
    (Script.ifTake (isSymbol symbol) yes no).Disciplined enclosed (symbol :: outer) := by
  refine ⟨other, fun t faithful found => ⟨outer, ?_, taken t⟩, fun outside => by cases outside⟩
  have punct := faithful_symbol t symbol faithful found (by grind)
  obtain ⟨kind, value⟩ := (punctuation_iff symbol t).mp punct
  rw [advance_closing _ _ t ((closes_iff t).mpr ⟨kind, value ▸ closing⟩), value]

theorem closer_of_parenthesis (t : Token) (opening : t.isPunctuation "(") : closerOf t = some ")" :=
  if_pos opening

theorem closer_of_bracket (t : Token) (opening : t.isPunctuation "[") : closerOf t = some "]" := by
  have value := ((punctuation_iff _ t).mp opening).2
  simp [closerOf, punctuation_iff, value, ((punctuation_iff _ t).mp opening).1]

theorem closer_of_closure (t : Token) (opening : t.isPunctuation "\x7b") : closerOf t = some "\x7d" := by
  have value := ((punctuation_iff _ t).mp opening).2
  simp [closerOf, punctuation_iff, value, ((punctuation_iff _ t).mp opening).1]

theorem quiet_punctuation (symbol : String) (loud : symbol ∉ [")", "]", "\x7d", ":", ","]) (q : Token)
    (stop : quiet q) : ¬ q.isPunctuation symbol := by
  intro found
  apply loud
  rw [← ((punctuation_iff symbol q).mp found).2]
  exact ((quiet_iff q).mp stop).2

theorem quiet_not_kind (kind : TokenKind) (other : kind ≠ .punct) (q : Token) (stop : quiet q) :
    q.kind ≠ kind := by
  rw [quiet_kind q stop]
  exact other.symm

theorem quiet_no_type_word (q : Token) (stop : quiet q) : ¬ isTypePrefix q := by
  simp [isTypePrefix, quiet_kind q stop]

theorem prefix_kind (t : Token) (word : isTypePrefix t) : t.kind = .ident := by
  simp only [isTypePrefix, Bool.and_eq_true, beq_iff_eq] at word
  exact word.1

theorem disciplined_result_marks (enclosed : Bool) : resultMarks.Disciplined enclosed [] :=
  disciplined_call enclosed .functionResult _ rfl [] fun _ =>
    disciplined_call enclosed .marks _ rfl [] fun _ => rfl

theorem disciplined_type : typeScript.Disciplined false [] :=
  disciplined_call _ .typeOperand _ rfl _ fun _ =>
    disciplined_symbol _ _ "&" _ _ (by decide) (by decide)
      (fun _ => disciplined_call _ .type _ rfl _ fun _ => rfl) rfl

theorem advance_loud (closers : List String) (t : Token) (loud : ¬ quiet t) :
    ∃ left, advance closers t = some left := by
  cases opened : closerOf t with
  | some closer => exact ⟨_, advance_opened closers t closer opened⟩
  | none => exact ⟨_, advance_plain closers t opened fun closing => loud (by simp [quiet, closing])⟩

theorem type_operand_quiet (t : Token) (rest : List Token) (stop : quiet t) :
    reads .typeOperand (t :: rest) = none := by
  rw [reads_type_operand, typeOperandScript, run_take, if_neg (quiet_no_type_word t stop),
    if_neg (quiet_not_kind _ (by decide) t stop), if_neg (quiet_punctuation "[" (by decide) t stop),
    if_neg (quiet_punctuation "(" (by decide) t stop), run_fail]

theorem disciplined_type_operand : typeOperandScript.Disciplined false [] := by
  refine fun t => ⟨fun stop => ?_, fun faithful loud => ?_⟩
  all_goals dsimp only
  · rw [if_neg (quiet_no_type_word t stop), if_neg (quiet_not_kind _ (by decide) t stop),
      if_neg (quiet_punctuation "[" (by decide) t stop), if_neg (quiet_punctuation "(" (by decide) t stop)]
  split
  · rename_i word
    exact ⟨[], advance_of_kind _ t (by simp [prefix_kind t word]), disciplined_call _ .typeOperand _ rfl _
      fun _ => rfl⟩
  split
  · rename_i name
    refine ⟨[], advance_of_kind _ t (by simp [name]), ?_⟩
    refine disciplined_call _ .optionalArguments _ rfl _ fun _ => ?_
    refine disciplined_call _ .memberTypes _ rfl _ fun _ => ?_
    exact disciplined_call _ .marks _ rfl _ fun _ => rfl
  split
  · rename_i opening
    refine ⟨["]"], advance_opened _ t _ (closer_of_bracket t opening), ?_⟩
    refine disciplined_call _ .type _ rfl _ fun _ => ?_
    refine ⟨["]"], rfl, fun _ => .inr (by decide), fun _ => ?_⟩
    refine disciplined_closer _ [] "]" _ _ (by decide) (fun _ => ?_) trivial
    exact disciplined_call _ .marks _ rfl _ fun _ => rfl
  split
  · rename_i opening
    refine ⟨[")"], advance_opened _ t _ (closer_of_parenthesis t opening), ?_⟩
    refine disciplined_closer _ [] ")" _ _ (by decide) (fun _ => disciplined_result_marks _) ?_
    refine ⟨[")"], rfl, fun _ => .inr (by decide), fun _ => ?_⟩
    exact disciplined_closer _ [] ")" _ _ (by decide) (fun _ => disciplined_result_marks _) trivial
  · obtain ⟨left, step⟩ := advance_loud [] t loud
    exact ⟨left, step, trivial⟩

theorem disciplined_value_type : valueTypeScript.Disciplined true [] :=
  disciplined_separator _ _ ":" _ _ (by decide) (.inr rfl)
    (fun _ => disciplined_call _ .type _ rfl _ fun _ => rfl) rfl

theorem advance_label (t : Token) (found : (t.kind == .ident) = true ∨ t.isSymbol ":" = true)
    (outer : List String) : advance outer t = some outer := by
  obtain name | colon := found
  · exact advance_of_kind outer t (by simp [beq_iff_eq.mp name])
  · exact advance_symbol ":" (by decide) t colon outer

theorem disciplined_label (closers : List String) (next : Script α)
    (onward : next.Disciplined true closers) :
    (Script.ifTakeTwo (·.kind == .ident) (isSymbol ":") (fun _ _ => next) next).Disciplined true closers :=
  ⟨onward, fun _ _ => onward, advance_label, fun _ free => by cases free⟩

theorem disciplined_type_elements : typeElementsScript.Disciplined true [] := by
  refine disciplined_label _ _ ?_
  refine disciplined_call _ .type _ rfl _ fun _ => ?_
  refine disciplined_separator _ _ "," _ _ (by decide) (.inr rfl) (fun _ => ?_) rfl
  exact ⟨[], rfl, fun _ => .inl rfl, fun _ => rfl⟩

theorem disciplined_function_result : functionResultScript.Disciplined false [] := by
  refine disciplined_call _ .effects _ rfl _ fun _ => ?_
  refine disciplined_symbol _ _ "->" _ _ (by decide) (by decide) (fun _ => ?_) rfl
  exact disciplined_call _ .type _ rfl _ fun _ => rfl

theorem disciplined_member_types : memberTypesScript.Disciplined false [] := by
  refine ⟨rfl, fun _ _ => ?_, fun t found outer => ?_, fun _ _ q stop => ?_⟩
  · refine disciplined_call _ .optionalArguments _ rfl _ fun _ => ?_
    exact disciplined_call _ .memberTypes _ rfl _ fun _ => rfl
  · obtain dot | name := found
    · exact advance_symbol "." (by decide) t dot outer
    · exact advance_of_kind outer t (by simp [beq_iff_eq.mp name])
  · exact ⟨quiet_symbol "." (by decide) q stop, by simp [quiet_kind q stop]⟩

theorem disciplined_optional_arguments : optionalArgumentsScript.Disciplined false [] :=
  disciplined_symbol _ _ "<" _ _ (by decide) (by decide)
    (fun _ => disciplined_call _ .typeArguments _ rfl _ fun _ => rfl) rfl

theorem disciplined_type_arguments : typeArgumentsScript.Disciplined false [] := by
  refine disciplined_call _ .type _ rfl _ fun _ first => ?_
  refine ⟨disciplined_symbol _ _ ">" _ _ (by decide) (by decide) (fun _ => rfl) trivial,
    fun t _ comma => ⟨[], advance_symbol "," (by decide) t comma _, ?_⟩, fun _ _ q stop comma => ?_⟩
  · exact disciplined_call _ .typeArguments _ rfl _ fun _ => rfl
  · refine ⟨(punctuation_iff "," q).mpr ⟨quiet_kind q stop, symbol_value "," q comma⟩, fun _ => rfl,
      fun start closer rest closing => ?_⟩
    have stop : quiet closer := by simp [quiet, closing]
    rw [run_call, reads_type_arguments, typeArgumentsScript, run_call, reads_type, typeScript, run_call,
      type_operand_quiet closer rest stop]
    rfl

theorem disciplined_marks : marksScript.Disciplined false [] := by
  have mark (t : Token) (found : isPostfixMark t) : t.isSymbol "?" ∨ t.isSymbol "!" := by
    rwa [isPostfixMark, Bool.or_eq_true] at found
  refine disciplined_if _ _ _ _ _ (fun t found outer => ?_) (fun _ _ q stop found => ?_)
    (fun _ => disciplined_call _ .marks _ rfl _ fun _ => rfl) rfl
  · obtain question | bang := mark t found
    · exact advance_symbol "?" (by decide) t question outer
    · exact advance_symbol "!" (by decide) t bang outer
  · obtain question | bang := mark q found
    · exact quiet_symbol "?" (by decide) q stop question
    · exact quiet_symbol "!" (by decide) q stop bang

theorem effect_kind (t : Token) (effect : isEffect t) : t.kind = .ident := by
  simp only [isEffect, Bool.and_eq_true, beq_iff_eq] at effect
  exact effect.1

theorem disciplined_effects : effectsScript.Disciplined false [] :=
  disciplined_if _ _ _ _ _ (fun t found => fun outer => advance_of_kind outer t (by simp [effect_kind t found]))
    (fun _ _ q stop found => quiet_not_kind .ident (by decide) q stop (effect_kind q found))
    (fun _ => disciplined_call _ .effects _ rfl _ fun _ => rfl) rfl

theorem disciplined_suffixes (before : List Token) (node : Tree) :
    (suffixesScript before node).Disciplined false [] := by
  refine disciplined_symbol _ _ "." _ _ (by decide) (by decide) (fun _ => ?_) ?_
  · refine fun name => ⟨fun stop => ?_, fun faithful loud => ?_⟩
    all_goals dsimp only
    · rw [if_neg]
      simp [quiet_kind name stop]
    · split
      · rename_i word
        refine ⟨[], advance_of_kind _ name (by grind), fun run => ?_⟩
        exact disciplined_call _ (.suffixes _ _) _ rfl _ fun _ => rfl
      · obtain ⟨left, step⟩ := advance_loud [] name loud
        exact ⟨left, step, trivial⟩
  · split
    · refine disciplined_symbol _ _ "<" _ _ (by decide) (by decide) (fun _ => ?_) rfl
      refine disciplined_call _ .typeArguments _ rfl _ fun _ => fun run => ?_
      exact disciplined_call _ (.suffixes _ _) _ rfl _ fun _ => rfl
    · rfl

theorem disciplined_expression : expressionScript.Disciplined false [] := by
  refine disciplined_call _ .primary _ rfl _ fun node => fun run => ?_
  exact disciplined_call _ (.suffixes _ _) _ rfl _ fun _ => rfl

theorem disciplined_plain_name (t : Token) : (plainName t).Disciplined false [] := by
  unfold plainName
  split <;> rfl

theorem symbol_first_quiet (t : Token) (stop : quiet t) : symbolFirst t = .fail := by
  unfold symbolFirst
  rw [if_neg fun sign => quiet_not_kind .other (by decide) t stop sign.1,
    if_neg (quiet_punctuation "." (by decide) t stop), if_neg (quiet_punctuation "[" (by decide) t stop),
    if_neg (quiet_punctuation "(" (by decide) t stop), if_neg (quiet_punctuation "\x7b" (by decide) t stop)]

theorem disciplined_symbol_first (t : Token) (loud : ¬ quiet t) :
    ∃ left, advance [] t = some left ∧ (symbolFirst t).Disciplined false left := by
  unfold symbolFirst
  split
  · rename_i sign
    refine ⟨[], advance_of_kind _ t (by simp [sign.1]), ?_⟩
    refine disciplined_if _ _ _ _ _ (fun u number outer => advance_of_kind outer u ?_)
      (fun _ _ q stop number => ?_) (fun _ => rfl) trivial
    · simp [beq_iff_eq.mp number]
    · exact quiet_not_kind .number (by decide) q stop (beq_iff_eq.mp number)
  split
  · rename_i dot
    refine ⟨[], advance_symbol "." (by decide) t (by simp [isSymbol, (punctuation_iff _ t).mp dot]) _, ?_⟩
    refine fun name => ⟨fun stop => if_neg (quiet_not_kind _ (by decide) name stop), fun faithful loud => ?_⟩
    dsimp only
    split
    · rename_i word
      exact ⟨[], advance_of_kind _ name (by simp [word]), rfl⟩
    · obtain ⟨left, step⟩ := advance_loud [] name loud
      exact ⟨left, step, trivial⟩
  split
  · rename_i opening
    exact ⟨["]"], advance_opened _ t _ (closer_of_bracket t opening),
      disciplined_call _ (.collection _) _ rfl [] fun _ => rfl⟩
  split
  · rename_i opening
    exact ⟨[")"], advance_opened _ t _ (closer_of_parenthesis t opening),
      disciplined_call _ (.parenthesized _) _ rfl [] fun _ => rfl⟩
  split
  · rename_i opening
    exact ⟨["\x7d"], advance_opened _ t _ (closer_of_closure t opening), [], rfl, fun _ => rfl⟩
  · obtain ⟨left, step⟩ := advance_loud [] t loud
    exact ⟨left, step, trivial⟩

theorem disciplined_primary : primaryScript.Disciplined false [] := by
  refine fun t => ⟨fun stop => ?_, fun faithful loud => ?_⟩
  all_goals dsimp only
  · rw [quiet_kind t stop]
    exact symbol_first_quiet t stop
  · cases kind : t.kind with
    | ident =>
        refine ⟨[], advance_of_kind _ t (by simp [kind]), ?_⟩
        dsimp only
        split
        · exact ⟨fun _ => rfl, disciplined_plain_name t⟩
        · exact disciplined_plain_name t
    | string | number => exact ⟨[], advance_of_kind _ t (by simp [kind]), rfl⟩
    | arrow | punct | other => exact disciplined_symbol_first t loud

theorem disciplined_collection (before : List Token) : (collectionScript before).Disciplined false ["]"] := by
  refine disciplined_separator _ _ ":" _ _ (by decide) (.inl (by decide)) (fun _ => ?_) ?_
  · exact disciplined_closer _ [] "]" _ _ (by decide) (fun _ => fun _ => rfl) trivial
  refine disciplined_closer _ [] "]" _ _ (by decide) (fun _ => fun _ => rfl) ?_
  refine ⟨⟨[], rfl⟩, fun first => ?_⟩
  refine disciplined_separator _ _ ":" _ _ (by decide) (.inl (by decide)) (fun _ => ?_) ?_
  · refine ⟨⟨[], rfl⟩, fun value => ?_⟩
    exact disciplined_call _ .entries _ rfl [] fun _ => fun _ => rfl
  · exact disciplined_call _ .items _ rfl [] fun _ => fun _ => rfl

theorem disciplined_entries : entriesScript.Disciplined false ["]"] := by
  refine disciplined_separator _ _ "," _ _ (by decide) (.inl (by decide)) (fun _ => ?_) ?_
  · refine disciplined_closer _ [] "]" _ _ (by decide) (fun _ => rfl) ?_
    refine ⟨⟨[], rfl⟩, fun key => ?_⟩
    refine disciplined_separator _ _ ":" _ _ (by decide) (.inl (by decide)) (fun _ => ?_) trivial
    refine ⟨⟨[], rfl⟩, fun value => ?_⟩
    exact disciplined_call _ .entries _ rfl [] fun _ => rfl
  · exact disciplined_closer _ [] "]" _ _ (by decide) (fun _ => rfl) trivial

theorem disciplined_items : itemsScript.Disciplined false ["]"] := by
  refine disciplined_separator _ _ "," _ _ (by decide) (.inl (by decide)) (fun _ => ?_) ?_
  · refine disciplined_closer _ [] "]" _ _ (by decide) (fun _ => rfl) ?_
    refine ⟨⟨[], rfl⟩, fun item => ?_⟩
    exact disciplined_call _ .items _ rfl [] fun _ => rfl
  · exact disciplined_closer _ [] "]" _ _ (by decide) (fun _ => rfl) trivial

theorem disciplined_tuple_end (enclosed : Bool) (before : List Token) (items : List Tree) :
    (tupleEnd before items).Disciplined enclosed [] :=
  disciplined_call _ .functionResult _ rfl _ fun _ => fun _ => rfl

theorem disciplined_parenthesized (before : List Token) :
    (parenthesizedScript before).Disciplined false [")"] := by
  refine disciplined_closer _ [] ")" _ _ (by decide) (fun _ => disciplined_tuple_end _ _ _) ?_
  refine ⟨[")"], rfl, fun _ => .inr (by decide), fun items => ?_⟩
  exact disciplined_closer _ [] ")" _ _ (by decide) (fun _ => disciplined_tuple_end _ _ _) trivial

theorem disciplined_tuple_items : tupleItemsScript.Disciplined true [] := by
  refine disciplined_label _ _ ?_
  refine disciplined_call _ .expression _ rfl _ fun item => ?_
  refine disciplined_separator _ _ "," _ _ (by decide) (.inr rfl) (fun _ => ?_) rfl
  exact ⟨[], rfl, fun _ => .inl rfl, fun _ => rfl⟩

theorem disciplined (p : Production) : (script p).Disciplined p.enclosed p.closers := by
  cases p with
  | type => exact disciplined_type
  | typeOperand => exact disciplined_type_operand
  | valueType => exact disciplined_value_type
  | typeElements => exact disciplined_type_elements
  | functionResult => exact disciplined_function_result
  | memberTypes => exact disciplined_member_types
  | optionalArguments => exact disciplined_optional_arguments
  | typeArguments => exact disciplined_type_arguments
  | marks => exact disciplined_marks
  | effects => exact disciplined_effects
  | suffixes before node => exact disciplined_suffixes before node
  | expression => exact disciplined_expression
  | primary => exact disciplined_primary
  | collection before => exact disciplined_collection before
  | entries => exact disciplined_entries
  | items => exact disciplined_items
  | parenthesized before => exact disciplined_parenthesized before
  | tupleItems => exact disciplined_tuple_items

def AllFaithful (ts : List Token) : Prop := ∀ t ∈ ts, Faithful t

-- No closer comes before the one that is awaited; brackets may stay open.
structure Matched (closers : List String) (ts : List Token) : Prop where
  faithful : AllFaithful ts
  closing : ∃ left, awaited closers ts = some left

theorem all_faithful_rest (xs : List Token) {rest : List Token} (faithful : AllFaithful (xs ++ rest)) :
    AllFaithful rest :=
  fun t present => faithful t (List.mem_append_right xs present)

theorem matched_rest (closers outer : List String) {xs rest : List Token}
    (matched : Matched (closers ++ outer) (xs ++ rest)) (closed : awaited closers xs = some []) :
    Matched outer rest := by
  obtain ⟨left, run⟩ := matched.closing
  exact ⟨all_faithful_rest xs matched.faithful, left, (awaited_closed closers outer xs rest closed).symm.trans run⟩

theorem matched_tail {closers left : List String} {t : Token} {rest : List Token} (outer : List String)
    (matched : Matched (closers ++ outer) (t :: rest)) (step : advance closers t = some left) :
    Matched (left ++ outer) rest := by
  obtain ⟨others, run⟩ := matched.closing
  rw [awaited_cons, advance_outer closers outer left t step] at run
  exact ⟨all_faithful_rest [t] matched.faithful, others, run⟩

theorem closes_cons {closers left : List String} {t : Token} {xs : List Token}
    (step : advance closers t = some left) (closed : awaited left xs = some []) :
    awaited closers (t :: xs) = some [] := by
  rw [awaited_cons, step]
  exact closed

theorem closes_append {closers left : List String} {xs ys : List Token}
    (first : awaited closers xs = some []) (second : awaited left ys = some []) :
    awaited (closers ++ left) (xs ++ ys) = some [] := by
  rw [awaited_closed closers left xs ys first, second]

-- What a production takes closes the brackets that were open for it, if closers match at all.
def TakesNested (p : Production) (ts : List Token) : Prop :=
  ∀ outer, Matched (p.closers ++ outer) ts → ∀ value rest, reads p ts = some (value, rest) →
    ∃ xs, ts = xs ++ rest ∧ awaited p.closers xs = some []

theorem element_nested (stops outer : List String) (ts : List Token) (e : Tree) (rest : List Token)
    (expression : TakesNested .expression ts) (matched : Matched outer ts)
    (read : outcome (element stops ts) = some (e, rest)) : ∃ xs, ts = xs ++ rest ∧ Nested xs := by
  obtain whole | ⟨-, -, skip⟩ := element_cases stops ts e rest read
  · exact expression outer matched e rest whole
  · obtain ⟨left, run⟩ := matched.closing
    exact skip_to_nested stops [] outer left ts rest skip run

theorem closure_nested (outer : List String) (ts rest : List Token) (matched : Matched ("\x7d" :: outer) ts)
    (ended : outcome (closureEnd 0 ts) = some ((), rest)) :
    ∃ xs, ts = xs ++ rest ∧ awaited ["\x7d"] xs = some [] := by
  obtain ⟨left, run⟩ := matched.closing
  exact closure_end_nested [] outer left ts rest ended run

theorem run_takes_nested (enclosed : Bool) (closers outer : List String) (start : List Token)
    (s : Script α) (ts : List Token) (value : α) (rest : List Token)
    (disciplined : s.Disciplined enclosed closers) (calls : s.Calls TakesNested start ts)
    (matched : Matched (closers ++ outer) ts) (read : s.run start ts = some (value, rest)) :
    ∃ xs, ts = xs ++ rest ∧ awaited closers xs = some [] := by
  -- `closers` follows the brackets that are open before the rest of the script.
  induction s generalizing closers ts with
  | done found =>
      cases read
      cases disciplined
      exact ⟨[], rfl, rfl⟩
  | fail => cases read
  | here next ih => exact ih _ closers ts (disciplined _) calls matched read
  | take next ih =>
      cases ts with
      | nil => cases read
      | cons t more =>
          obtain ⟨stops, goes⟩ := disciplined t
          by_cases stop : quiet t
          -- A token that may end an expression is never taken.
          · rw [run_take, stops stop] at read
            cases read
          · obtain ⟨left, step, others⟩ := goes (matched.faithful t List.mem_cons_self) stop
            obtain ⟨xs, rfl, closed⟩ := ih t left more others calls (matched_tail outer matched step) read
            exact ⟨t :: xs, rfl, closes_cons step closed⟩
  | ifTake test yes no yesIh noIh =>
      cases ts with
      | nil => exact noIh closers [] disciplined.1 calls matched read
      | cons t more =>
          rw [run_if_take] at read
          rw [calls_test] at calls
          split at read
          · rename_i passed
            rw [if_pos passed] at calls
            obtain ⟨left, step, others⟩ := disciplined.2.1 t (matched.faithful t List.mem_cons_self) passed
            obtain ⟨xs, rfl, closed⟩ := yesIh t left more others calls (matched_tail outer matched step) read
            exact ⟨t :: xs, rfl, closes_cons step closed⟩
          · rename_i other
            rw [if_neg other] at calls
            exact noIh closers _ disciplined.1 calls matched read
  | ifTakeTwo first second yes no yesIh noIh =>
      match ts with
      | [] => exact noIh closers [] disciplined.1 calls matched read
      | [t] => exact noIh closers [t] disciplined.1 calls matched read
      | t :: u :: more =>
          rw [run_if_take_two] at read
          rw [calls_test_two] at calls
          split at read
          · rename_i passed
            rw [if_pos passed] at calls
            rw [Bool.and_eq_true] at passed
            have label := disciplined.2.2.1 t (.inl passed.1) closers
            have colon := disciplined.2.2.1 u (.inr passed.2) closers
            obtain ⟨xs, rfl, closed⟩ := yesIh t u closers more (disciplined.2.1 t u) calls
              (matched_tail outer (matched_tail outer matched label) colon) read
            exact ⟨t :: u :: xs, rfl, closes_cons label (closes_cons colon closed)⟩
          · rename_i other
            rw [if_neg other] at calls
            exact noIh closers _ disciplined.1 calls matched read
  | ifType yes no yesIh noIh =>
      rw [run_if_type] at read
      rw [calls_operand] at calls
      split at read
      · rename_i operand
        rw [if_pos operand] at calls
        obtain ⟨⟨_, more⟩, type, after⟩ := Option.bind_eq_some_iff.mp read
        obtain ⟨xs, rfl, closed⟩ := calls.1 (closers ++ outer) matched () more type
        obtain ⟨ys, rfl, others⟩ := yesIh closers more disciplined.1 (calls.2 more type)
          (matched_rest [] _ matched closed) after
        exact ⟨xs ++ ys, by rw [List.append_assoc], closes_append closed others⟩
      · rename_i other
        rw [if_neg other] at calls
        exact noIh closers ts disciplined.2 calls matched read
  | element stops next ih =>
      obtain ⟨⟨e, more⟩, found, after⟩ := Option.bind_eq_some_iff.mp read
      obtain ⟨xs, rfl, closed⟩ := element_nested stops (closers ++ outer) ts e more calls.1 matched found
      obtain ⟨ys, rfl, others⟩ := ih e closers more (disciplined.2 e) (calls.2 e more found)
        (matched_rest [] _ matched closed) after
      exact ⟨xs ++ ys, by rw [List.append_assoc], closes_append closed others⟩
  | closure next ih =>
      obtain ⟨⟨_, more⟩, ended, after⟩ := Option.bind_eq_some_iff.mp read
      obtain ⟨left, rfl, last⟩ := disciplined
      obtain ⟨xs, rfl, closed⟩ := closure_nested (left ++ outer) ts more matched ended
      obtain ⟨ys, rfl, others⟩ := ih left more last (calls more ended)
        (matched_rest ["\x7d"] _ matched closed) after
      exact ⟨xs ++ ys, by rw [List.append_assoc], closes_append closed others⟩
  | call p next ih =>
      -- The call closes its own brackets, and the rest of the script those further out.
      obtain ⟨⟨v, more⟩, found, after⟩ := Option.bind_eq_some_iff.mp read
      obtain ⟨left, rfl, _, last⟩ := disciplined
      rw [List.append_assoc] at matched
      obtain ⟨xs, rfl, closed⟩ := calls.1 (left ++ outer) matched v more found
      obtain ⟨ys, rfl, others⟩ := ih v left more (last v) (calls.2 v more found)
        (matched_rest p.closers _ matched closed) after
      exact ⟨xs ++ ys, by rw [List.append_assoc], closes_append closed others⟩

theorem reads_nested (p : Production) (ts : List Token) : TakesNested p ts := by
  induction p, ts using production_induction with
  | step p ts calls =>
      intro outer matched value rest read
      rw [reads_eq] at read
      exact run_takes_nested p.enclosed p.closers outer ts (script p) ts value rest (disciplined p) calls matched
        read

end ScreenDispatch.Expr
