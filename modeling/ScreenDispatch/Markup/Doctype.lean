import ScreenDispatch.Markup.Entity
import ScreenDispatch.Markup.PrologPiece

/-!
What the document type declares: entities, and attributes with the values that stand for them
where an element does not give them. Of two declarations of one name the first counts. After a
reference to a parameter entity, which is not read, declarations count only in a document that
stands alone.
-/
set_option autoImplicit false

namespace ScreenDispatch.Markup

-- An attribute of the elements with this tag. A list of tokens has no white space but one space
-- between two tokens.
structure AttributeDeclaration where
  element : String
  name : QualifiedName
  isTokens : Bool
  value : Option String
deriving Repr

def singleSpaced : List Char → List Char
  | [] => []
  | c :: rest =>
    match c, singleSpaced rest with
    | ' ', [] => []
    | ' ', ' ' :: more => ' ' :: more
    | c, more => c :: more

def attributeValue (isTokens : Bool) (cs : List Char) : String :=
  String.ofList (if isTokens then (singleSpaced cs).dropWhile (· == ' ') else cs)

structure Doctype where
  entities : List Entity
  attributes : List AttributeDeclaration
  openEnded : Bool
  standsAlone : Bool
  missedSome : Bool
deriving Repr

namespace Doctype

def empty : Doctype := ⟨[], [], false, false, false⟩

def counts (d : Doctype) : Bool := !d.missedSome || d.standsAlone

def scope (d : Doctype) : EntityScope := ⟨d.entities, [], d.openEnded && !d.standsAlone⟩

def missParameter (d : Doctype) : Doctype := { d with openEnded := true, missedSome := true }

-- A predefined entity keeps its meaning, and a parameter entity has no name here.
def declareEntity (d : Doctype) (name : Option String) (value : EntityValue) : Doctype :=
  match name with
  | none => d
  | some name =>
    if (predefined? name).isSome ∨ d.entities.any (·.name == name) ∨ !d.counts then d
    else { d with entities := d.entities ++ [⟨name, value⟩] }

def declareAttribute (d : Doctype) (a : AttributeDeclaration) : Doctype :=
  if !d.counts ∨ d.attributes.any (fun b => b.element == a.element && b.name == a.name) then d
  else { d with attributes := d.attributes ++ [a] }

end Doctype

-- The replacement text of an entity, from its literal, behind which the document goes on with
-- `behind`: character references are expanded and line ends made one, other references kept.
def entityText (behind cs : List Char) : Except Stop (List Char) :=
  match cs with
  | [] => .ok []
  | '\r' :: '\n' :: rest => do return '\n' :: (← entityText behind rest)
  | c :: rest =>
    let stop (left : List Char) := Stop.before (left ++ behind)
    if c = '&' then
      match scanReference rest with
      | .error (.invalid left) => .error (stop left .invalidToken)
      | .error _ => .error (stop (c :: rest) .invalidToken)
      | .ok r =>
        match r.value with
        | .number n =>
          match character? n with
          | none => .error (stop (c :: rest) .badCharacterNumber)
          | some x => do return x :: (← entityText behind r.rest)
        | .entity name => do
          return '&' :: name.toList ++ ';' :: (← entityText behind r.rest)
    else if c = '%' then
      match scanPercent rest with
      | .ok p =>
        match p.value with
        | .parameter => .error (stop (c :: rest) .parameterReference)
        | _ => .error (stop rest .invalidToken)
      | .error (.invalid left) => .error (stop left .invalidToken)
      | .error _ => .error (stop (c :: rest) .invalidToken)
    else do return (if c = '\r' then '\n' else c) :: (← entityText behind rest)
termination_by cs.length
decreasing_by all_goals grind

def Doctype.defaultValue (d : Doctype) (isTokens : Bool) (quote : Char) (cs behind : List Char) :
    Except Stop String := do
  let start := quote :: (cs ++ behind)
  return attributeValue isTokens (← expandValue d.scope start (valueParts (· ++ behind) cs))

end ScreenDispatch.Markup
