import ScreenDispatch.Expr.Reader

/-!
The argument of an attribute as an expression. Text outside the grammar is kept unparsed, but
a `.self` at its end still counts as a member, so that the remark about it can say what is
wrong.
-/
set_option autoImplicit false

namespace ScreenDispatch

inductive ArgumentError where
  | empty
  | unreadable (source : String) (fault : Fault)
deriving DecidableEq, Repr

def ArgumentError.message : ArgumentError → String
  | .empty => "Attribute argument is empty"
  | .unreadable source fault =>
    "Cannot parse attribute argument " ++ Text.quoted source ++ ": " ++ fault.message

namespace Expr

def textOf (source : List Char) (tokens : List Token) : String :=
  match tokens.head?, tokens.getLast? with
  | some first, some last => String.ofList ((source.take last.stop).drop first.start)
  | _, _ => ""

def read (source : String) : Except ArgumentError (Expr String) :=
  match Token.scan source with
  | [] => .error .empty
  | tokens =>
    match ofTokens tokens with
    | .ok tree => .ok (tree.map (textOf source.toList))
    | .error fault => .error (.unreadable source fault)

-- What stands before `.self` at the end of a text, where white space may stand on both sides
-- of the dot. Both texts are reversed.
def beforeSelf? : List Char → Option (List Char)
  | 'f' :: 'l' :: 'e' :: 's' :: rest =>
    match rest.dropWhile Text.isBlank with
    | '.' :: before =>
      let base := before.dropWhile Text.isBlank
      if base.isEmpty then none else some base
    | _ => none
  | _ => none

def dropLineFeed : List Char → List Char
  | '\n' :: rest => rest
  | cs => cs

def selfBase? (cs : List Char) : Option (List Char) :=
  (beforeSelf? (dropLineFeed cs.reverse)).map List.reverse

theorem length_before_self {cs base : List Char} (h : beforeSelf? cs = some base) :
    base.length < cs.length := by
  unfold beforeSelf? at h
  split at h
  · rename_i rest
    have outer := (List.dropWhile_sublist (l := rest) Text.isBlank).length_le
    split at h
    · rename_i before dot
      have inner := (List.dropWhile_sublist (l := before) Text.isBlank).length_le
      simp only [Option.ite_none_left_eq_some, Option.some.injEq] at h
      rw [dot] at outer
      simp only [List.length_cons, ← h.2] at outer ⊢
      omega
    · simp at h
  · simp at h

theorem length_drop_line_feed (cs : List Char) : (dropLineFeed cs).length ≤ cs.length := by
  unfold dropLineFeed
  split <;> simp

theorem length_self_base {cs base : List Char} (h : selfBase? cs = some base) :
    base.length < cs.length := by
  obtain ⟨reversed, found, rfl⟩ := Option.map_eq_some_iff.1 h
  have shorter := length_before_self found
  have line := length_drop_line_feed cs.reverse
  simp only [List.length_reverse] at line ⊢
  omega

def ofArgument (text : String) : Expr String :=
  match read text with
  | .ok e => e
  | .error _ =>
    match h : selfBase? text.toList with
    | some base =>
      have := length_self_base h
      .member text (ofArgument (String.ofList base)) "self"
    | none => .unparsed text
termination_by text.toList.length
decreasing_by simpa

end Expr
end ScreenDispatch
