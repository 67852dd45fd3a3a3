import ScreenDispatch.Expr
import ScreenDispatch.Parsed
import ScreenDispatch.Text.Quoted
import ScreenDispatch.Token

/-!
Reading an expression from tokens. Every production that succeeds leaves a shorter rest, which
is why the readers below come to an end, and the source of a node is the run of tokens that
its production took. An entry of a collection that cannot be read, or that goes on after it
has been read, is skipped up to its end and kept unparsed.
-/
set_option autoImplicit false

namespace ScreenDispatch

inductive FaultCause where
  | expected (symbol : String)
  | expectedMember
  | expectedType (found : String)
  | expectedElement
  | unbalanced (closer : String)
  | unexpected (found : String)
  | unexpectedEnd
  | trailingInput
deriving DecidableEq, Repr

def FaultCause.message : FaultCause → String
  | .expected symbol => "expected " ++ Text.quoted symbol
  | .expectedMember => "expected member name"
  | .expectedType found => "expected a type, found " ++ Text.quoted found
  | .expectedElement => "expected an element"
  | .unbalanced closer => "unbalanced " ++ Text.quoted closer
  | .unexpected found => "unexpected " ++ Text.quoted found
  | .unexpectedEnd => "unexpected end of expression"
  | .trailingInput => "unexpected trailing input"

-- `place` is the token at which reading stopped, none at the end of the input.
structure Fault where
  cause : FaultCause
  place : Option Token
deriving DecidableEq, Repr

def Fault.message (fault : Fault) : String :=
  fault.cause.message ++ " at " ++
    match fault.place with
    | some t => "offset " ++ toString t.start
    | none => "end of input"

namespace Expr

open Token

abbrev Read (α : Type) (bound : Nat) := Except Fault (Parsed Token α bound)

abbrev Tree := Expr (List Token)

def failAt {α : Type} (cause : FaultCause) (ts : List Token) : Except Fault α :=
  .error ⟨cause, ts.head?⟩

def startsWith (symbol : String) : List Token → Bool
  | [] => false
  | t :: _ => t.isSymbol symbol

def after? (symbol : String) (ts : List Token) : Option (Parsed Token Unit ts.length) :=
  match ts with
  | [] => none
  | t :: rest => if t.isSymbol symbol then some ⟨(), rest, by simp⟩ else none

def taken (ts rest : List Token) : List Token := ts.take (ts.length - rest.length)

def expect (symbol : String) (ts : List Token) : Read Unit ts.length :=
  match after? symbol ts with
  | some p => .ok p
  | none => failAt (.expected symbol) ts

def unticked (name : String) : String :=
  let cs := name.toList
  if cs.length > 2 && cs.head? == some '\x60' && cs.getLast? == some '\x60' then
    String.ofList cs.tail.dropLast
  else name

def isTypePrefix (t : Token) : Bool :=
  t.kind == .ident && (t.value == "any" || t.value == "some")

def isEffect (t : Token) : Bool :=
  t.kind == .ident && (t.value == "async" || t.value == "throws")

def isLiteralKeyword (value : String) : Bool :=
  value == "true" || value == "false" || value == "nil"

def isPostfixMark (t : Token) : Bool := t.isSymbol "?" || t.isSymbol "!"

def opens (t : Token) : Bool :=
  t.isPunctuation "(" || t.isPunctuation "[" || t.isPunctuation "\x7b"

def closes (t : Token) : Bool :=
  t.isPunctuation ")" || t.isPunctuation "]" || t.isPunctuation "\x7d"

def skipMarks (ts : List Token) : List Token := ts.dropWhile isPostfixMark

def skipEffects (ts : List Token) : List Token := ts.dropWhile isEffect

def skipLabel : List Token → List Token
  | name :: colon :: rest =>
    if name.kind = .ident ∧ colon.isSymbol ":" then rest else name :: colon :: rest
  | ts => ts

@[grind! .] theorem length_skip_marks (ts : List Token) : (skipMarks ts).length ≤ ts.length :=
  (List.dropWhile_sublist _).length_le

@[grind! .] theorem length_skip_effects (ts : List Token) : (skipEffects ts).length ≤ ts.length :=
  (List.dropWhile_sublist _).length_le

@[grind! .] theorem length_skip_label (ts : List Token) : (skipLabel ts).length ≤ ts.length := by
  unfold skipLabel
  split
  · split <;> grind
  · exact Nat.le_refl _

mutual
def type (ts : List Token) : Read Unit ts.length := do
  let p ← typeOperand ts
  match after? "&" p.rest with
  | some q => return (← type q.rest).widen (by grind)
  | none => return p
termination_by 4 * ts.length + 1
decreasing_by all_goals grind

def typeOperand (ts : List Token) : Read Unit ts.length :=
  match ts with
  | [] => failAt .unexpectedEnd []
  | t :: rest =>
    if isTypePrefix t then do
      return (← typeOperand rest).widen (by simp)
    else if t.kind = .ident then do
      let p ← optionalArguments rest
      let q ← memberTypes p.rest
      return ⟨(), skipMarks q.rest, by grind⟩
    else if t.isPunctuation "[" then do
      let p ← type rest
      let q ← valueType p.rest
      let r ← expect "]" q.rest
      return ⟨(), skipMarks r.rest, by grind⟩
    else if t.isPunctuation "(" then do
      let p ← typeElements rest
      let q ← expect ")" p.rest
      let r ← functionResult q.rest
      return ⟨(), skipMarks r.rest, by grind⟩
    else failAt (.expectedType t.value) (t :: rest)
termination_by 4 * ts.length
decreasing_by all_goals grind

def valueType (ts : List Token) : Read Unit (ts.length + 1) :=
  match after? ":" ts with
  | some p => do return (← type p.rest).widen (by grind)
  | none => return .start ts
termination_by 4 * ts.length + 2
decreasing_by all_goals grind

def typeElements (ts : List Token) : Read Unit (ts.length + 1) :=
  if startsWith ")" ts then return .start ts
  else do return (← typeElementsFrom ts).widen (by simp)
termination_by 4 * ts.length + 3
decreasing_by all_goals grind

def typeElementsFrom (ts : List Token) : Read Unit ts.length := do
  let p ← type (skipLabel ts)
  match after? "," p.rest with
  | some q => return (← typeElementsFrom q.rest).widen (by grind)
  | none => return p.widen (by grind)
termination_by 4 * ts.length + 2
decreasing_by all_goals grind

-- Effect keywords and, after an arrow, the result; tells whether there is a result.
def functionResult (ts : List Token) : Read Bool (ts.length + 1) :=
  match after? "->" (skipEffects ts) with
  | some p => do return ((← type p.rest).map fun _ => true).widen (by grind)
  | none => return ⟨false, skipEffects ts, by grind⟩
termination_by 4 * ts.length + 2
decreasing_by all_goals grind

def memberTypes (ts : List Token) : Read Unit (ts.length + 1) :=
  match ts with
  | dot :: name :: rest =>
    if dot.isSymbol "." ∧ name.kind = .ident then do
      let p ← optionalArguments rest
      return (← memberTypes p.rest).widen (by grind)
    else return .start (dot :: name :: rest)
  | ts => return .start ts
termination_by 4 * ts.length
decreasing_by all_goals grind

def optionalArguments (ts : List Token) : Read Unit (ts.length + 1) :=
  match after? "<" ts with
  | some p => do return ((← typeArguments p.rest).map fun _ => ()).widen (by grind)
  | none => return .start ts
termination_by 4 * ts.length + 3
decreasing_by all_goals grind

def typeArguments (ts : List Token) : Read (List (List Token)) ts.length := do
  let p ← type ts
  match after? "," p.rest with
  | some q => return ((← typeArguments q.rest).map (taken ts p.rest :: ·)).widen (by grind)
  | none => return ((← expect ">" p.rest).map fun _ => [taken ts p.rest]).widen (by grind)
termination_by 4 * ts.length + 2
decreasing_by all_goals grind
end

def skipTo (stops : List String) : Nat → List Token → Except Fault (List Token)
  | _, [] => failAt (.expected "]") []
  | depth, t :: rest =>
    if t.kind = .punct then
      if depth = 0 ∧ stops.contains t.value then .ok (t :: rest)
      else if opens t then skipTo stops (depth + 1) rest
      else if closes t then
        match depth with
        | 0 => failAt (.unbalanced t.value) (t :: rest)
        | depth + 1 => skipTo stops depth rest
      else skipTo stops depth rest
    else skipTo stops depth rest

def unreadable (stops : List String) (ts : List Token) : Read Tree ts.length := do
  let rest ← skipTo stops 0 ts
  if h : rest.length < ts.length then return ⟨.unparsed (taken ts rest), rest, h⟩
  else failAt .expectedElement ts

-- Skips to the end of a closure; `depth` closures inside it are open.
def closureEnd (depth : Nat) (ts : List Token) : Read Unit ts.length :=
  match ts with
  | [] => failAt .unexpectedEnd []
  | t :: rest =>
    if t.isPunctuation "\x7b" then do return (← closureEnd (depth + 1) rest).widen (by simp)
    else if t.isPunctuation "\x7d" then
      match depth with
      | 0 => return ⟨(), rest, by simp⟩
      | depth + 1 => do return (← closureEnd depth rest).widen (by simp)
    else do return (← closureEnd depth rest).widen (by simp)

def takesArguments : Tree → Bool
  | .reference _ _ => true
  | .member _ _ name => name != "self"
  | _ => false

def suffixes (ts : List Token) (node : Tree) (rest : List Token) : Read Tree (rest.length + 1) :=
  match rest with
  | [] => return ⟨node, [], by simp⟩
  | t :: after =>
    if t.isSymbol "." then
      match after with
      | [] => failAt .unexpectedEnd []
      | name :: more =>
        if name.kind = .ident ∨ name.kind = .number then do
          let longer := .member (taken ts more) node (unticked name.value)
          return (← suffixes ts longer more).widen (by grind)
        else failAt .expectedMember (name :: more)
    else if t.isSymbol "<" ∧ takesArguments node then do
      let p ← typeArguments after
      let longer := .specialization (taken ts p.rest) node p.value
      return (← suffixes ts longer p.rest).widen (by grind)
    else return ⟨node, t :: after, by simp⟩
termination_by rest.length
decreasing_by all_goals grind

def startsOperand : List Token → Bool
  | [] => false
  | t :: _ => t.kind == .ident || t.isPunctuation "(" || t.isPunctuation "["

def implicitMemberName (ts : List Token) : Read String ts.length :=
  match ts with
  | [] => failAt .unexpectedEnd []
  | name :: rest =>
    if name.kind = .ident then return ⟨unticked name.value, rest, by simp⟩
    else failAt .expectedMember (name :: rest)

def contents (literal : String) : String := String.ofList literal.toList.tail.dropLast

mutual
def expression (ts : List Token) : Read Tree ts.length := do
  let p ← primary ts
  return (← suffixes ts p.value p.rest).widen (by grind)
termination_by 5 * ts.length + 1

def primary (ts : List Token) : Read Tree ts.length :=
  match ts with
  | [] => failAt .unexpectedEnd []
  | t :: rest =>
    match t.kind with
    | .ident =>
      if isTypePrefix t ∧ startsOperand rest then do
        let p ← type rest
        return ⟨.prefixed (taken (t :: rest) p.rest) t.value (taken rest p.rest), p.rest, by grind⟩
      else if isLiteralKeyword t.value then return ⟨.keyword [t], rest, by simp⟩
      else return ⟨.reference [t] (unticked t.value), rest, by simp⟩
    | .string => return ⟨.string [t] (contents t.value), rest, by simp⟩
    | .number => return ⟨.number [t], rest, by simp⟩
    | _ =>
      if t.kind = .other ∧ t.value = "-" ∧ (rest.head?.map (·.kind)) = some .number then
        return ⟨.number ((t :: rest).take 2), rest.tail, by
          simp only [List.length_tail, List.length_cons]; omega⟩
      else if t.isPunctuation "." then do
        let p ← implicitMemberName rest
        return ⟨.implicitMember (taken (t :: rest) p.rest) p.value, p.rest, by grind⟩
      else if t.isPunctuation "[" then do
        return (← collection (t :: rest) rest).widen (by simp)
      else if t.isPunctuation "(" then do
        return (← parenthesized (t :: rest) rest).widen (by simp)
      else if t.isPunctuation "\x7b" then do
        let p ← closureEnd 0 rest
        return ⟨.closure (taken (t :: rest) p.rest), p.rest, by grind⟩
      else failAt (.unexpected t.value) (t :: rest)
termination_by 5 * ts.length
decreasing_by all_goals grind

-- What follows the opening bracket of a dictionary or array, which began with `ts`.
def collection (ts rest : List Token) : Read Tree rest.length :=
  match after? ":" rest with
  | some p => do
    let q ← expect "]" p.rest
    return ⟨.dictionary (taken ts q.rest) [], q.rest, by grind⟩
  | none =>
    match after? "]" rest with
    | some p => return ⟨.array (taken ts p.rest) [], p.rest, by grind⟩
    | none => do
      let first ← element [":", ",", "]"] rest
      match after? ":" first.rest with
      | some p =>
        let value ← element [",", "]"] p.rest
        let q ← entries value.rest
        return ⟨.dictionary (taken ts q.rest) ((first.value, value.value) :: q.value), q.rest,
          by grind⟩
      | none =>
        let q ← items first.rest
        return ⟨.array (taken ts q.rest) (first.value :: q.value), q.rest, by grind⟩
termination_by 5 * rest.length + 3
decreasing_by all_goals grind

def element (stops : List String) (ts : List Token) : Read Tree ts.length :=
  match expression ts with
  | .ok p => if stops.any (startsWith · p.rest) then return p else unreadable stops ts
  | .error _ => unreadable stops ts
termination_by 5 * ts.length + 2

def entries (ts : List Token) : Read (List (Tree × Tree)) ts.length :=
  match after? "," ts with
  | none => do return (← expect "]" ts).map fun _ => []
  | some p =>
    match after? "]" p.rest with
    | some q => return ⟨[], q.rest, by grind⟩
    | none => do
      let key ← element [":"] p.rest
      let colon ← expect ":" key.rest
      let value ← element [",", "]"] colon.rest
      return ((← entries value.rest).map ((key.value, value.value) :: ·)).widen (by grind)
termination_by 5 * ts.length
decreasing_by all_goals grind

def items (ts : List Token) : Read (List Tree) ts.length :=
  match after? "," ts with
  | none => do return (← expect "]" ts).map fun _ => []
  | some p =>
    match after? "]" p.rest with
    | some q => return ⟨[], q.rest, by grind⟩
    | none => do
      let item ← element [",", "]"] p.rest
      return ((← items item.rest).map (item.value :: ·)).widen (by grind)
termination_by 5 * ts.length
decreasing_by all_goals grind

def parenthesized (ts rest : List Token) : Read Tree rest.length := do
  let p ← tupleItems rest
  let q ← expect ")" p.rest
  let r ← functionResult q.rest
  let node := if r.value then .functionType (taken ts r.rest) else .tuple (taken ts r.rest) p.value
  return ⟨node, r.rest, by grind⟩
termination_by 5 * rest.length + 4
decreasing_by all_goals grind

def tupleItems (ts : List Token) : Read (List Tree) (ts.length + 1) :=
  if startsWith ")" ts then return ⟨[], ts, by simp⟩
  else do return (← tupleItemsFrom ts).widen (by simp)
termination_by 5 * ts.length + 3

def tupleItemsFrom (ts : List Token) : Read (List Tree) ts.length := do
  let p ← expression (skipLabel ts)
  match after? "," p.rest with
  | some q => return ((← tupleItemsFrom q.rest).map (p.value :: ·)).widen (by grind)
  | none => return (p.map ([·])).widen (by grind)
termination_by 5 * ts.length + 2
decreasing_by all_goals grind
end

def ofTokens (ts : List Token) : Except Fault Tree := do
  let p ← expression ts
  if p.rest.isEmpty then return p.value else failAt .trailingInput p.rest

end Expr
end ScreenDispatch
