import ScreenDispatch.Expr.Reader

/-!
The productions of the reader as scripts. A script says token by token what a production takes,
tests and calls, so that what holds of every instruction holds of every production. A failure is
only the absence of an outcome here; its cause and place are left out.
-/
set_option autoImplicit false

namespace ScreenDispatch.Expr

open Token

-- A production that goes on with a node carries the tokens that were read before its input.
inductive Production where
  | type | typeOperand | valueType | typeElements | functionResult | memberTypes
  | optionalArguments | typeArguments | marks | effects
  | suffixes (before : List Token) (node : Tree)
  | expression | primary
  | collection (before : List Token) | entries | items
  | parenthesized (before : List Token) | tupleItems

@[reducible] def Production.Value : Production → Type
  | .functionResult => Bool
  | .typeArguments => List (List Token)
  | .suffixes _ _ | .expression | .primary | .collection _ | .parenthesized _ => Tree
  | .entries => List (Tree × Tree)
  | .items | .tupleItems => List Tree
  | _ => Unit

abbrev Outcome (α : Type) := Option (α × List Token)

def outcome {α : Type} {n : Nat} : Read α n → Outcome α
  | .ok p => some (p.value, p.rest)
  | .error _ => none

def reads : (p : Production) → List Token → Outcome p.Value
  | .type, ts => outcome (type ts)
  | .typeOperand, ts => outcome (typeOperand ts)
  | .valueType, ts => outcome (valueType ts)
  | .typeElements, ts => outcome (typeElementsFrom ts)
  | .functionResult, ts => outcome (functionResult ts)
  | .memberTypes, ts => outcome (memberTypes ts)
  | .optionalArguments, ts => outcome (optionalArguments ts)
  | .typeArguments, ts => outcome (typeArguments ts)
  | .marks, ts => some ((), skipMarks ts)
  | .effects, ts => some ((), skipEffects ts)
  | .suffixes before node, ts => outcome (suffixes (before ++ ts) node ts)
  | .expression, ts => outcome (expression ts)
  | .primary, ts => outcome (primary ts)
  | .collection before, ts => outcome (collection (before ++ ts) ts)
  | .entries, ts => outcome (entries ts)
  | .items, ts => outcome (items ts)
  | .parenthesized before, ts => outcome (parenthesized (before ++ ts) ts)
  | .tupleItems, ts => outcome (tupleItemsFrom ts)

inductive Script (α : Type) where
  | done (value : α)
  | fail
  | here (next : List Token → Script α)
  | take (next : Token → Script α)
  | ifTake (test : Token → Bool) (yes : Token → Script α) (no : Script α)
  | ifTakeTwo (first second : Token → Bool) (yes : Token → Token → Script α) (no : Script α)
  | ifType (yes no : Script α)
  | element (stops : List String) (next : Tree → Script α)
  | closure (next : Script α)
  | call (p : Production) (next : p.Value → Script α)

namespace Script

variable {α : Type}

def expect (symbol : String) (next : Script α) : Script α :=
  .ifTake (isSymbol symbol) (fun _ => next) .fail

def run (start : List Token) : Script α → List Token → Outcome α
  | done value, ts => some (value, ts)
  | fail, _ => none
  | here next, ts => (next (taken start ts)).run start ts
  | take _, [] => none
  | take next, t :: rest => (next t).run start rest
  | ifTake _ _ no, [] => no.run start []
  | ifTake test yes no, t :: rest =>
    if test t then (yes t).run start rest else no.run start (t :: rest)
  | ifTakeTwo first second yes no, ts =>
    match ts with
    | t :: u :: rest =>
      if first t && second u then (yes t u).run start rest else no.run start (t :: u :: rest)
    | ts => no.run start ts
  | ifType yes no, ts =>
    if startsOperand ts then (reads .type ts).bind fun r => yes.run start r.2 else no.run start ts
  | element stops next, ts =>
    (outcome (Expr.element stops ts)).bind fun r => (next r.1).run start r.2
  | closure next, ts => (outcome (closureEnd 0 ts)).bind fun r => next.run start r.2
  | call p next, ts => (reads p ts).bind fun r => (next r.1).run start r.2

theorem run_done (start ts : List Token) (value : α) :
    (done value).run start ts = some (value, ts) := rfl

theorem run_fail (start ts : List Token) : (fail : Script α).run start ts = none := rfl

theorem run_here (start ts : List Token) (next : List Token → Script α) :
    (here next).run start ts = (next (taken start ts)).run start ts := rfl

theorem run_take (start rest : List Token) (t : Token) (next : Token → Script α) :
    (take next).run start (t :: rest) = (next t).run start rest := rfl

theorem run_if_take_nil (start : List Token) (test : Token → Bool) (yes : Token → Script α)
    (no : Script α) : (ifTake test yes no).run start [] = no.run start [] := rfl

theorem run_if_take (start rest : List Token) (t : Token) (test : Token → Bool)
    (yes : Token → Script α) (no : Script α) :
    (ifTake test yes no).run start (t :: rest) =
      if test t then (yes t).run start rest else no.run start (t :: rest) := rfl

theorem run_if_take_two_nil (start : List Token) (first second : Token → Bool)
    (yes : Token → Token → Script α) (no : Script α) :
    (ifTakeTwo first second yes no).run start [] = no.run start [] := rfl

theorem run_if_take_two_one (start : List Token) (t : Token) (first second : Token → Bool)
    (yes : Token → Token → Script α) (no : Script α) :
    (ifTakeTwo first second yes no).run start [t] = no.run start [t] := rfl

theorem run_if_take_two (start rest : List Token) (t u : Token) (first second : Token → Bool)
    (yes : Token → Token → Script α) (no : Script α) :
    (ifTakeTwo first second yes no).run start (t :: u :: rest) =
      if first t && second u then (yes t u).run start rest else no.run start (t :: u :: rest) := rfl

theorem run_if_type (start ts : List Token) (yes no : Script α) :
    (ifType yes no).run start ts =
      if startsOperand ts then (reads .type ts).bind fun r => yes.run start r.2
      else no.run start ts := rfl

theorem run_element (start ts : List Token) (stops : List String) (next : Tree → Script α) :
    (element stops next).run start ts =
      (outcome (Expr.element stops ts)).bind fun r => (next r.1).run start r.2 := rfl

theorem run_closure (start ts : List Token) (next : Script α) :
    (closure next).run start ts = (outcome (closureEnd 0 ts)).bind fun r => next.run start r.2 := rfl

theorem run_call (start ts : List Token) (p : Production) (next : p.Value → Script α) :
    (call p next).run start ts = (reads p ts).bind fun r => (next r.1).run start r.2 := rfl

end Script

open Script

def typeElement : Script Unit :=
  .call .type fun _ => .ifTake (isSymbol ",") (fun _ => .call .typeElements .done) (.done ())

def resultMarks : Script Unit := .call .functionResult fun _ => .call .marks .done

def plainName (t : Token) : Script Tree :=
  if isLiteralKeyword t.value then .done (.keyword [t]) else .done (.reference [t] (unticked t.value))

def signedNumber (sign : Token) : Script Tree :=
  .ifTake (·.kind == .number) (fun digits => .done (.number [sign, digits])) .fail

def leadingDot (dot : Token) : Script Tree :=
  .take fun name =>
    if name.kind = .ident then .done (.implicitMember [dot, name] (unticked name.value)) else .fail

def symbolFirst (t : Token) : Script Tree :=
  if t.kind = .other ∧ t.value = "-" then signedNumber t
  else if t.isPunctuation "." then leadingDot t
  else if t.isPunctuation "[" then .call (.collection [t]) .done
  else if t.isPunctuation "(" then .call (.parenthesized [t]) .done
  else if t.isPunctuation "\x7b" then .closure (.here fun run => .done (.closure run))
  else .fail

def tupleItem : Script (List Tree) :=
  .call .expression fun item =>
    .ifTake (isSymbol ",") (fun _ => .call .tupleItems fun others => .done (item :: others))
      (.done [item])

def tupleEnd (before : List Token) (items : List Tree) : Script Tree :=
  .call .functionResult fun arrow => .here fun run =>
    .done (if arrow then .functionType (before ++ run) else .tuple (before ++ run) items)

def typeScript : Script Unit :=
  .call .typeOperand fun _ => .ifTake (isSymbol "&") (fun _ => .call .type .done) (.done ())

def typeOperandScript : Script Unit :=
  .take fun t =>
    if isTypePrefix t then .call .typeOperand .done
    else if t.kind = .ident then
      .call .optionalArguments fun _ => .call .memberTypes fun _ => .call .marks .done
    else if t.isPunctuation "[" then
      .call .type fun _ => .call .valueType fun _ => .expect "]" (.call .marks .done)
    else if t.isPunctuation "(" then
      .ifTake (isSymbol ")") (fun _ => resultMarks)
        (.call .typeElements fun _ => .expect ")" resultMarks)
    else .fail

def valueTypeScript : Script Unit :=
  .ifTake (isSymbol ":") (fun _ => .call .type .done) (.done ())

def typeElementsScript : Script Unit :=
  .ifTakeTwo (·.kind == .ident) (isSymbol ":") (fun _ _ => typeElement) typeElement

def functionResultScript : Script Bool :=
  .call .effects fun _ =>
    .ifTake (isSymbol "->") (fun _ => .call .type fun _ => .done true) (.done false)

def memberTypesScript : Script Unit :=
  .ifTakeTwo (isSymbol ".") (·.kind == .ident)
    (fun _ _ => .call .optionalArguments fun _ => .call .memberTypes .done) (.done ())

def optionalArgumentsScript : Script Unit :=
  .ifTake (isSymbol "<") (fun _ => .call .typeArguments fun _ => .done ()) (.done ())

def typeArgumentsScript : Script (List (List Token)) :=
  .call .type fun _ => .here fun first =>
    .ifTake (isSymbol ",") (fun _ => .call .typeArguments fun others => .done (first :: others))
      (.expect ">" (.done [first]))

def marksScript : Script Unit :=
  .ifTake isPostfixMark (fun _ => .call .marks .done) (.done ())

def effectsScript : Script Unit :=
  .ifTake isEffect (fun _ => .call .effects .done) (.done ())

def suffixesScript (before : List Token) (node : Tree) : Script Tree :=
  .ifTake (isSymbol ".")
    (fun _ => .take fun name =>
      if name.kind = .ident ∨ name.kind = .number then
        .here fun run =>
          .call (.suffixes (before ++ run) (.member (before ++ run) node (unticked name.value))) .done
      else .fail)
    (if takesArguments node then
      .ifTake (isSymbol "<")
        (fun _ => .call .typeArguments fun arguments => .here fun run =>
          .call (.suffixes (before ++ run) (.specialization (before ++ run) node arguments)) .done)
        (.done node)
    else .done node)

def expressionScript : Script Tree :=
  .call .primary fun node => .here fun run => .call (.suffixes run node) .done

def primaryScript : Script Tree :=
  .take fun t =>
    match t.kind with
    | .ident =>
      if isTypePrefix t then
        .ifType (.here fun run => .done (.prefixed run t.value run.tail)) (plainName t)
      else plainName t
    | .string => .done (.string [t] (contents t.value))
    | .number => .done (.number [t])
    | _ => symbolFirst t

def collectionScript (before : List Token) : Script Tree :=
  .ifTake (isSymbol ":")
    (fun _ => .expect "]" (.here fun run => .done (.dictionary (before ++ run) [])))
    (.ifTake (isSymbol "]") (fun _ => .here fun run => .done (.array (before ++ run) []))
      (.element [":", ",", "]"] fun first =>
        .ifTake (isSymbol ":")
          (fun _ => .element [",", "]"] fun value => .call .entries fun others => .here fun run =>
            .done (.dictionary (before ++ run) ((first, value) :: others)))
          (.call .items fun others => .here fun run =>
            .done (.array (before ++ run) (first :: others)))))

def entriesScript : Script (List (Tree × Tree)) :=
  .ifTake (isSymbol ",")
    (fun _ => .ifTake (isSymbol "]") (fun _ => .done [])
      (.element [":"] fun key => .expect ":" (.element [",", "]"] fun value =>
        .call .entries fun others => .done ((key, value) :: others))))
    (.expect "]" (.done []))

def itemsScript : Script (List Tree) :=
  .ifTake (isSymbol ",")
    (fun _ => .ifTake (isSymbol "]") (fun _ => .done [])
      (.element [",", "]"] fun item => .call .items fun others => .done (item :: others)))
    (.expect "]" (.done []))

def parenthesizedScript (before : List Token) : Script Tree :=
  .ifTake (isSymbol ")") (fun _ => tupleEnd before [])
    (.call .tupleItems fun items => .expect ")" (tupleEnd before items))

def tupleItemsScript : Script (List Tree) :=
  .ifTakeTwo (·.kind == .ident) (isSymbol ":") (fun _ _ => tupleItem) tupleItem

def script : (p : Production) → Script p.Value
  | .type => typeScript
  | .typeOperand => typeOperandScript
  | .valueType => valueTypeScript
  | .typeElements => typeElementsScript
  | .functionResult => functionResultScript
  | .memberTypes => memberTypesScript
  | .optionalArguments => optionalArgumentsScript
  | .typeArguments => typeArgumentsScript
  | .marks => marksScript
  | .effects => effectsScript
  | .suffixes before node => suffixesScript before node
  | .expression => expressionScript
  | .primary => primaryScript
  | .collection before => collectionScript before
  | .entries => entriesScript
  | .items => itemsScript
  | .parenthesized before => parenthesizedScript before
  | .tupleItems => tupleItemsScript

end ScreenDispatch.Expr
