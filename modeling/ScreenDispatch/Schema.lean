import ScreenDispatch.Declaration
import ScreenDispatch.Expr.Argument
import ScreenDispatch.Extension
import ScreenDispatch.Markup.Element
import ScreenDispatch.Text.Ordered

/-!
Reading a schema from the elements of a document. White space around a name, kind, label or
type does not count; what is missing or ill-formed is an error, and the first error in reading
order ends it.
-/
set_option autoImplicit false

namespace ScreenDispatch

open Markup (Element)

inductive SchemaError where
  | notASchema (tag : String)
  | missingAttribute (tag name : String)
  | emptyArgument (attributeName : Option String)
  | namedGroup
  | invalidName (name : String)
  | unknownAccess (declaration access : String)
  | duplicateDeclaration (name : String)
  | unknownDeclarations (names : List String)
deriving DecidableEq, Repr

def SchemaError.message : SchemaError → String
  | .notASchema tag => "Expected <schema> root element, found <" ++ tag ++ ">"
  | .missingAttribute tag name =>
    "<" ++ tag ++ "> is missing required attribute '" ++ name ++ "'"
  | .emptyArgument name => "<arg> of attribute '" ++ name.getD "None" ++ "' is empty"
  | .namedGroup => "<case> must not combine a name attribute with <element> children"
  | .invalidName name => "Invalid declaration name: " ++ Text.quoted name
  | .unknownAccess declaration access =>
    "Declaration '" ++ declaration ++ "' has unknown access level " ++ Text.quoted access ++
    "; expected one of: " ++ String.intercalate ", " (AccessLevel.all.map (·.name))
  | .duplicateDeclaration name => "Duplicate declaration '" ++ name ++ "' in schema"
  | .unknownDeclarations names =>
    "Declarations not found in schema: " ++ String.intercalate ", " names

def trimmed? (value : Option String) : Option String :=
  value.bind fun s => if Text.trimmed s = "" then none else some (Text.trimmed s)

def required (e : Element) (name : String) : Except SchemaError String :=
  match trimmed? (e.get? name) with
  | some value => .ok value
  | none => .error (.missingAttribute e.tag name)

def Slot.ofElement (e : Element) : Except SchemaError Slot := do
  let type ← required e "type"
  return ⟨trimmed? (e.get? "label"), trimmed? (e.get? "name"), type⟩

def argumentOfElement (owner : Option String) (e : Element) : Except SchemaError (Expr String) :=
  match trimmed? e.text with
  | some text => .ok (Expr.ofArgument text)
  | none => .error (.emptyArgument owner)

def Attribute.ofElement (e : Element) : Except SchemaError Attribute := do
  let arguments ← (e.childrenNamed "arg").mapM (argumentOfElement (e.get? "name"))
  return ⟨← required e "name", arguments⟩

def Case.ofPlain (attributes : List Attribute) (e : Element) : Except SchemaError Case := do
  let slots ← (e.childrenNamed "param").mapM Slot.ofElement
  return ⟨← required e "name", slots, attributes⟩

def Case.ofMember (attributes : List Attribute) (e : Element) : Except SchemaError Case := do
  let name ← required e "name"
  return ⟨name, ← (e.childrenNamed "param").mapM Slot.ofElement, attributes⟩

def casesOfElement (e : Element) : Except SchemaError (List Case) := do
  let attributes ← (e.childrenNamed "attribute").mapM Attribute.ofElement
  match e.childrenNamed "element" with
  | [] => return [← Case.ofPlain attributes e]
  | members =>
    if (e.get? "name").isSome then .error .namedGroup
    else members.mapM (Case.ofMember attributes)

def checkedAccess (declaration : String) : Option String → Except SchemaError (Option String)
  | none => .ok none
  | some access =>
    if (AccessLevel.ofName? access).isSome then .ok (some access)
    else .error (.unknownAccess declaration access)

def Declaration.ofElement (e : Element) : Except SchemaError Declaration := do
  let name ← required e "name"
  if !Text.isIdentifierLine name.toList then .error (.invalidName name)
  let access ← checkedAccess name (e.get? "access")
  let cases ← (e.childrenNamed "case").mapM casesOfElement
  return ⟨name, Text.trimmed ((e.get? "kind").getD "enum"), access, cases.flatten⟩

def firstRepeated? (seen : List String) : List String → Option String
  | [] => none
  | name :: rest => if name ∈ seen then some name else firstRepeated? (name :: seen) rest

namespace Schema

def ofElement (root : Element) : Except SchemaError Schema := do
  if root.tag != "schema" then .error (.notASchema root.tag)
  let declarations ← (root.childrenNamed "declaration").mapM Declaration.ofElement
  match firstRepeated? [] (declarations.map (·.name)) with
  | some name => .error (.duplicateDeclaration name)
  | none => return ⟨(trimmed? (root.get? "version")).getD "unversioned", declarations⟩

def names (schema : Schema) : List String := schema.declarations.map (·.name)

def find? (schema : Schema) (name : String) : Option Declaration :=
  schema.declarations.find? (·.name == name)

def missing (schema : Schema) (names : List String) : List String :=
  Text.ordered (names.filter fun name => !schema.names.contains name)

def select (schema : Schema) (names : List String) : Except SchemaError (List Declaration) :=
  if names.isEmpty then .ok schema.declarations
  else if (schema.missing names).isEmpty then
    .ok (schema.declarations.filter fun d => names.contains d.name)
  else .error (.unknownDeclarations (schema.missing names))

end Schema
end ScreenDispatch
