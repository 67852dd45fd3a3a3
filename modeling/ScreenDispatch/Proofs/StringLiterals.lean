import ScreenDispatch.Proofs.NodesStandalone
import ScreenDispatch.Proofs.PrimaryNodes

/-!
String literals as expressions. A string node is read from one string token and from nothing else.
-/
set_option autoImplicit false

namespace ScreenDispatch.Expr

open Token Script

def NoString (e : Tree) : Prop := ∀ source value, e ≠ .string source value

def OneString (run : List Token) (e : Tree) : Prop :=
  NoString e ∨ ∃ t, run = [t] ∧ t.kind = .string ∧ e = .string [t] (contents t.value)

theorem PrimaryNode.one_string {run : List Token} {e : Tree} (node : PrimaryNode run e) : OneString run e := by
  cases node with
  | string t literal => exact .inr ⟨t, rfl, literal, rfl⟩
  | reference t ident other => exact .inl nofun
  | plain run e plain =>
      refine .inl fun source value string => ?_
      rw [string] at plain
      cases plain

theorem Chain.no_string {before ts rest : List Token} {node e : Tree} (chain : Chain before node ts e rest)
    (other : NoString node) : NoString e := by
  induction chain with
  | stop before node ts noDot => exact other
  | member before node dot name more e rest symbol word onward ih => exact ih fun _ _ same => by cases same
  | arguments before node opening xs more arguments e rest symbol generic typed onward ih =>
      exact ih fun _ _ same => by cases same

theorem expression_string (ts : List Token) (e : Tree) (rest : List Token)
    (read : reads .expression ts = some (e, rest)) : OneString (taken ts rest) e := by
  obtain ⟨run, node, more, rfl, primary, chain⟩ := expression_node_chain ts e rest read
  -- A chain that goes on ends in a member or a specialization.
  cases chain with
  | stop =>
      rw [taken_from]
      exact primary.one_string
  | member before node dot name more e rest symbol word onward =>
      exact .inl (onward.no_string fun _ _ same => by cases same)
  | arguments before node opening xs more arguments e rest symbol generic typed onward =>
      exact .inl (onward.no_string fun _ _ same => by cases same)

theorem string_primary (t : Token) (literal : t.kind = .string) (rest : List Token) :
    reads .primary (t :: rest) = some (.string [t] (contents t.value), rest) := by
  rw [reads_eq]
  change primaryScript.run _ _ = _
  rw [primaryScript, run_take, literal]
  rfl

theorem string_token_read (t : Token) (literal : t.kind = .string) :
    reads .expression [t] = some (.string [t] (contents t.value), []) := by
  rw [expression_from_primary _ _ _ (string_primary t literal []), suffixes_nil]

end ScreenDispatch.Expr
