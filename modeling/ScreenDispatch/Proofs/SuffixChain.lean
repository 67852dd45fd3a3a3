import ScreenDispatch.Proofs.ReadsSuffix

/-!
What is read on behind a node: members and generic arguments, one after the other. An expression is the
node of a primary with such a chain behind it.
-/
set_option autoImplicit false

namespace ScreenDispatch.Expr

open Token Script

theorem suffixes_nil (before : List Token) (node : Tree) :
    reads (.suffixes before node) [] = some (node, []) := by
  rw [reads_eq]
  change (suffixesScript before node).run [] [] = _
  unfold suffixesScript
  rw [run_if_take_nil]
  split
  · rfl
  · rfl

theorem expression_from_primary (ts more : List Token) (node : Tree)
    (primary : reads .primary ts = some (node, more)) :
    reads .expression ts = reads (.suffixes (taken ts more) node) more := by
  rw [reads_eq]
  change expressionScript.run _ _ = _
  rw [expressionScript, run_call, primary, Option.bind_some, run_here, run_call]
  exact Option.bind_fun_some _

theorem suffixes_member (before : List Token) (node : Tree) (dot name : Token) (symbol : dot.isSymbol ".")
    (word : name.kind = .ident ∨ name.kind = .number) (ts : List Token) :
    reads (.suffixes before node) (dot :: name :: ts) =
      reads (.suffixes (before ++ [dot, name]) (.member (before ++ [dot, name]) node (unticked name.value))) ts := by
  rw [reads_eq]
  change (suffixesScript before node).run _ _ = _
  rw [suffixesScript, run_if_take, if_pos symbol, run_take, if_pos word, run_here, taken_two, run_call]
  exact Option.bind_fun_some _

theorem suffixes_arguments (before : List Token) (node : Tree) (opening : Token) (symbol : opening.isSymbol "<")
    (generic : takesArguments node) (xs ts : List Token) (arguments : List (List Token))
    (read : reads .typeArguments (xs ++ ts) = some (arguments, ts)) :
    reads (.suffixes before node) (opening :: xs ++ ts) =
      reads (.suffixes (before ++ opening :: xs) (.specialization (before ++ opening :: xs) node arguments)) ts := by
  have noDot : ¬ opening.isSymbol "." := fun dot => by
    have other := symbol_value "." opening dot
    rw [symbol_value "<" opening symbol] at other
    exact absurd other (by decide)
  rw [reads_eq, List.cons_append]
  change (suffixesScript before node).run _ _ = _
  rw [suffixesScript, run_if_take, if_neg noDot, if_pos generic, run_if_take, if_pos symbol, run_call, read,
    Option.bind_some, run_here, ← List.cons_append, taken_from, run_call]
  exact Option.bind_fun_some _

-- `e` is read on from `node`, which was read from `before`, and `rest` is left.
inductive Chain : List Token → Tree → List Token → Tree → List Token → Prop where
  | stop (before : List Token) (node : Tree) (ts : List Token) (noDot : ¬ startsWith "." ts) :
      Chain before node ts node ts
  | member (before : List Token) (node : Tree) (dot name : Token) (more : List Token) (e : Tree)
      (rest : List Token) (symbol : dot.isSymbol ".") (word : name.kind = .ident ∨ name.kind = .number)
      (onward : Chain (before ++ [dot, name]) (.member (before ++ [dot, name]) node (unticked name.value)) more e
        rest) :
      Chain before node (dot :: name :: more) e rest
  | arguments (before : List Token) (node : Tree) (opening : Token) (xs more : List Token)
      (arguments : List (List Token)) (e : Tree) (rest : List Token) (symbol : opening.isSymbol "<")
      (generic : takesArguments node) (typed : reads .typeArguments (xs ++ more) = some (arguments, more))
      (onward : Chain (before ++ opening :: xs) (.specialization (before ++ opening :: xs) node arguments) more e
        rest) :
      Chain before node (opening :: xs ++ more) e rest

theorem suffixes_chain (before : List Token) (node : Tree) (ts : List Token) (e : Tree) (rest : List Token)
    (read : reads (.suffixes before node) ts = some (e, rest)) : Chain before node ts e rest := by
  induction size : ts.length using Nat.strongRecOn generalizing before node ts with
  | ind n shorter =>
      have run := read
      rw [reads_eq] at run
      change (suffixesScript before node).run ts ts = _ at run
      unfold suffixesScript at run
      cases ts with
      | nil =>
          rw [suffixes_nil] at read
          cases read
          exact .stop before _ [] (by simp [startsWith])
      | cons t after =>
          rw [run_if_take] at run
          by_cases dot : t.isSymbol "."
          · rw [if_pos dot] at run
            cases after with
            | nil => cases run
            | cons name more =>
                rw [run_take] at run
                by_cases word : name.kind = .ident ∨ name.kind = .number
                · rw [suffixes_member before node t name dot word] at read
                  have fewer : more.length < n := by
                    simp only [List.length_cons] at size
                    omega
                  exact .member before node t name more e rest dot word (shorter _ fewer _ _ more read rfl)
                · rw [if_neg word] at run
                  cases run
          · rw [if_neg dot] at run
            have unchanged (same : some (node, t :: after) = some (e, rest)) :
                Chain before node (t :: after) e rest := by
              cases same
              exact .stop before _ (t :: after) dot
            by_cases generic : takesArguments node
            · rw [if_pos generic, run_if_take] at run
              by_cases opening : t.isSymbol "<"
              · rw [if_pos opening] at run
                obtain ⟨⟨arguments, more⟩, typed, _⟩ := Option.bind_eq_some_iff.mp run
                obtain ⟨xs, rfl⟩ := reads_suffix .typeArguments after arguments more typed
                rw [← List.cons_append, suffixes_arguments before node t opening generic xs more arguments typed]
                  at read
                have fewer : more.length < n := by
                  simp only [List.length_cons, List.length_append] at size
                  omega
                exact .arguments before node t xs more arguments e rest opening generic typed
                  (shorter _ fewer _ _ more read rfl)
              · rw [if_neg opening] at run
                exact unchanged run
            · rw [if_neg generic] at run
              exact unchanged run

theorem Chain.suffix {before ts rest : List Token} {node e : Tree} (chain : Chain before node ts e rest) :
    rest <:+ ts := by
  induction chain with
  | stop before node ts noDot => exact List.suffix_refl ts
  | member before node dot name more e rest symbol word onward ih => exact ih.trans ⟨[dot, name], rfl⟩
  | arguments before node opening xs more arguments e rest symbol generic typed onward ih =>
      exact ih.trans ⟨opening :: xs, rfl⟩

theorem Chain.no_dot {before ts rest : List Token} {node e : Tree} (chain : Chain before node ts e rest) :
    ¬ startsWith "." rest := by
  induction chain with
  | stop before node ts noDot => exact noDot
  | member before node dot name more e rest symbol word onward ih => exact ih
  | arguments before node opening xs more arguments e rest symbol generic typed onward ih => exact ih

theorem expression_chain (ts : List Token) (e : Tree) (rest : List Token)
    (read : reads .expression ts = some (e, rest)) :
    ∃ node more, reads .primary ts = some (node, more) ∧ Chain (taken ts more) node more e rest := by
  have longer := read
  rw [reads_eq] at read
  obtain ⟨⟨node, more⟩, primary, _⟩ := Option.bind_eq_some_iff.mp read
  rw [expression_from_primary ts more node primary] at longer
  exact ⟨node, more, primary, suffixes_chain _ node more e rest longer⟩

end ScreenDispatch.Expr
