import ScreenDispatch.Expr.TypeName
import ScreenDispatch.Proofs.ScriptConditions
import ScreenDispatch.Proofs.SuffixChain

/-!
The nodes of primaries. A string and a reference are each read from a single token, and what is read from brackets
is neither.
-/
set_option autoImplicit false

namespace ScreenDispatch.Expr

open Token Script

def isPlain : Tree → Bool
  | .string _ _ | .reference _ _ | .member _ _ _ | .specialization _ _ _ => false
  | _ => true

inductive PrimaryNode : List Token → Tree → Prop where
  | string (t : Token) (literal : t.kind = .string) : PrimaryNode [t] (.string [t] (contents t.value))
  | reference (t : Token) (ident : t.kind = .ident) (other : isLiteralKeyword t.value = false) :
      PrimaryNode [t] (.reference [t] (unticked t.value))
  | plain (run : List Token) (e : Tree) (plain : isPlain e) : PrimaryNode run e

def shapeConditions : Conditions where
  good
    | .primary, run, e => PrimaryNode run e
    | .collection _, _, e => isPlain e
    | .parenthesized _, _, e => isPlain e
    | _, _, _ => True
  whole _ _ _ := True

theorem plain_name_shape (t : Token) (ident : t.kind = .ident) :
    (plainName t).Ensures shapeConditions (shapeConditions.good .primary) [t] := by
  unfold plainName
  split
  · exact .plain _ _ rfl
  · rename_i other
    exact .reference t ident (Bool.not_eq_true _ ▸ other)

theorem symbol_first_shape (t : Token) :
    (symbolFirst t).Ensures shapeConditions (shapeConditions.good .primary) [t] := by
  unfold symbolFirst
  split
  · exact ⟨fun digits _ => .plain _ _ rfl, trivial⟩
  split
  · intro name
    dsimp only
    split
    · exact .plain _ _ rfl
    · trivial
  split
  · exact fun piece e collection => .plain _ e collection
  split
  · exact fun piece e tuple => .plain _ e tuple
  split
  · exact fun piece => .plain _ _ rfl
  · trivial

theorem primary_shape : primaryScript.Ensures shapeConditions (shapeConditions.good .primary) [] := by
  intro t
  dsimp only [List.nil_append]
  cases kind : t.kind with
  | ident =>
      dsimp only
      split
      · exact ⟨fun type => .plain _ _ rfl, plain_name_shape t kind⟩
      · exact plain_name_shape t kind
  | string => exact .string t kind
  | number => exact .plain _ _ rfl
  | arrow | punct | other => exact symbol_first_shape t

theorem collection_shape (before : List Token) :
    (collectionScript before).Ensures shapeConditions (shapeConditions.good (.collection before)) [] := by
  refine ⟨fun colon _ => ⟨fun closing _ => rfl, trivial⟩, fun closing _ => rfl, fun _ _ _ => ?_⟩
  exact ⟨fun colon _ => fun _ _ _ _ _ _ => rfl, fun _ _ _ => rfl⟩

theorem tuple_end_shape (before run : List Token) (items : List Tree) :
    (tupleEnd before items).Ensures shapeConditions (shapeConditions.good (.parenthesized before)) run := by
  intro piece arrow _
  cases arrow <;> rfl

theorem parenthesized_shape (before : List Token) :
    (parenthesizedScript before).Ensures shapeConditions (shapeConditions.good (.parenthesized before)) [] :=
  ⟨fun _ _ => tuple_end_shape before _ [],
    fun _ items _ => ⟨fun _ _ => tuple_end_shape before _ items, trivial⟩⟩

theorem reads_shape (p : Production) (ts : List Token) : ∀ value rest, reads p ts = some (value, rest) →
    shapeConditions.good p (taken ts rest) value := by
  induction p, ts using production_induction with
  | step p ts calls =>
      have meets : (script p).Calls (Meets shapeConditions) ts ts :=
        Script.Calls.imp (fun q us good => ⟨good, fun _ _ _ _ _ => trivial⟩) ts (script p) ts calls
      have ensured := reads_ensure shapeConditions p ts meets
      cases p with
      | primary => exact ensured primary_shape
      | collection before => exact ensured (collection_shape before)
      | parenthesized before => exact ensured (parenthesized_shape before)
      | _ => exact fun _ _ _ => trivial

theorem expression_node_chain (ts : List Token) (e : Tree) (rest : List Token)
    (read : reads .expression ts = some (e, rest)) :
    ∃ run node more, ts = run ++ more ∧ PrimaryNode run node ∧ Chain run node more e rest := by
  obtain ⟨node, more, primary, chain⟩ := expression_chain ts e rest read
  obtain ⟨run, rfl⟩ := reads_suffix .primary ts node more primary
  have good := reads_shape .primary _ node more primary
  rw [taken_from] at good chain
  exact ⟨run, node, more, rfl, good, chain⟩

section TypeNames

variable {text : List Token → String}

theorem PrimaryNode.named {run : List Token} {node : Tree} (primary : PrimaryNode run node) (owner : String)
    (named : (node.map text).typeName? = some owner) :
    ∃ t, run = [t] ∧ node = .reference [t] (unticked t.value) ∧ t.kind = .ident ∧
      isLiteralKeyword t.value = false ∧ owner = unticked t.value := by
  cases primary with
  | string t literal => cases named
  | reference t ident other => exact ⟨t, rfl, rfl, ident, other, (Option.some.inj named).symm⟩
  | plain run e plain =>
      cases node with
      | reference | member | specialization => cases plain
      | _ => cases named

theorem member_name (run : List Token) (node : Tree) (name longer : String) :
    ((Expr.member run node name).map text).typeName? = some longer ↔
      ∃ owner, (node.map text).typeName? = some owner ∧
        (if name = "self" then owner else owner ++ "." ++ name) = longer := by
  rw [Expr.map, typeName?, Option.map_eq_some_iff]

theorem specialization_name (run : List Token) (node : Tree) (arguments : List (List Token)) (longer : String) :
    ((Expr.specialization run node arguments).map text).typeName? = some longer ↔
      ∃ owner, (node.map text).typeName? = some owner ∧
        owner ++ "<" ++ String.intercalate ", " (arguments.map text) ++ ">" = longer := by
  rw [Expr.map, typeName?, Option.map_eq_some_iff]

end TypeNames

end ScreenDispatch.Expr
