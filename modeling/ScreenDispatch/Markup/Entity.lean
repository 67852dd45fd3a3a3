import ScreenDispatch.Markup.Fault
import ScreenDispatch.Markup.Scan

/-!
Entities and the expansion of references. While an entity is being expanded it is not
available, so expansion ends; a reference to it from inside itself is a fault.
-/
set_option autoImplicit false

namespace ScreenDispatch.Markup

inductive EntityValue where
  | text (cs : List Char)
  | external
  | unparsed
deriving DecidableEq, Repr

structure Entity where
  name : String
  value : EntityValue
deriving DecidableEq, Repr

-- The entities that may be expanded here, the names of those that are being expanded, and
-- whether others may be declared outside the document.
structure EntityScope where
  available : List Entity
  opened : List String
  openEnded : Bool
deriving Repr

inductive Lookup (scope : EntityScope) where
  | found (e : Entity) (mem : e ∈ scope.available)
  | recursive
  | undefined
  | skipped

def EntityScope.find (scope : EntityScope) (name : String) : Lookup scope :=
  if scope.opened.contains name then .recursive
  else
    match h : scope.available.find? (·.name == name) with
    | some e => .found e (List.mem_of_find?_eq_some h)
    | none => if scope.openEnded then .skipped else .undefined

def EntityScope.inside (scope : EntityScope) (e : Entity) : EntityScope :=
  { scope with
    available := scope.available.filter (·.name != e.name)
    opened := e.name :: scope.opened }

theorem EntityScope.length_inside {scope : EntityScope} {e : Entity} (h : e ∈ scope.available) :
    (scope.inside e).available.length < scope.available.length := by
  simp only [inside]
  exact List.length_filter_lt_length_iff_exists.2 ⟨e, h, by simp⟩

def predefined? (name : String) : Option Char :=
  [("lt", '<'), ("gt", '>'), ("amp", '&'), ("quot", '"'), ("apos", '\'')].lookup name

def character? (n : Nat) : Option Char :=
  if n.isValidChar ∧ isAllowed (Char.ofNat n) then some (Char.ofNat n) else none

def lineEnds : List Char → List Char
  | [] => []
  | '\r' :: '\n' :: rest => '\n' :: lineEnds rest
  | c :: rest => (if c = '\r' then '\n' else c) :: lineEnds rest

-- The text of an element. Inside an entity a carriage return is no line end any more.
def EntityScope.text (scope : EntityScope) (cs : List Char) : List Char :=
  if scope.opened.isEmpty then lineEnds cs else cs

def valueParts (place : List Char → List Char) (cs : List Char) : List ValuePart :=
  match cs with
  | [] => []
  | c :: rest =>
    if c = '<' then [.broken (place (c :: rest))]
    else if c = '&' then
      match scanReference rest with
      | .error (.invalid left) => [.broken (place left)]
      | .error _ => [.broken (place (c :: rest))]
      | .ok r => .reference r.value (place (c :: rest)) :: valueParts place r.rest
    else .char c :: valueParts place rest
termination_by cs.length
decreasing_by all_goals grind

-- The text of an attribute value in a tag or literal that began before `start`. White space is a
-- space each, a line end outside of entities one; what a number stands for is kept. Faults inside
-- an entity lie before `start`.
def expandValue (scope : EntityScope) (start : List Char) (parts : List ValuePart) :
    Except Stop (List Char) :=
  match parts with
  | [] => .ok []
  | .char '\r' :: .char '\n' :: rest => do
    return (if scope.opened.isEmpty then [' '] else [' ', ' ']) ++ (← expandValue scope start rest)
  | .char c :: rest => do
    return (if isSpace c then ' ' else c) :: (← expandValue scope start rest)
  | .broken rest :: _ => .error (.before rest .invalidToken)
  | .reference (.number n) here :: rest =>
    match character? n with
    | none => .error (.before here .badCharacterNumber)
    | some c => do return c :: (← expandValue scope start rest)
  | .reference (.entity name) here :: rest =>
    match predefined? name with
    | some c => do return c :: (← expandValue scope start rest)
    | none =>
      match scope.find name with
      | .recursive => .error (.before start .recursiveEntity)
      | .undefined => .error (.before start .undefinedEntity)
      | .skipped => expandValue scope start rest
      | .found e h =>
        match e.value with
        | .unparsed => .error (.before here .binaryEntity)
        | .external => .error (.before here .externalInAttribute)
        | .text cs => do
          have := EntityScope.length_inside h
          let inner ← expandValue (scope.inside e) start (valueParts (fun _ => start) cs)
          return inner ++ (← expandValue scope start rest)
termination_by (scope.available.length, parts.length)

end ScreenDispatch.Markup
