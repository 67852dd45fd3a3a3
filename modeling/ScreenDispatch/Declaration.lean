import ScreenDispatch.Expr

/-!
Declarations that screens are generated for: an enum with its cases, the associated values of
each case and the attributes on it.
-/
set_option autoImplicit false

namespace ScreenDispatch

-- An associated value, written `label name: Type`.
structure Slot where
  label : Option String
  name : Option String
  type : String
deriving DecidableEq, Repr

structure Attribute where
  name : String
  arguments : List (Expr String)
deriving Repr

structure Case where
  name : String
  slots : List Slot
  attributes : List Attribute
deriving Repr

structure Declaration where
  name : String
  kind : String
  access : Option String
  cases : List Case
deriving Repr

structure Schema where
  version : String
  declarations : List Declaration
deriving Repr

def Declaration.isEnum (d : Declaration) : Bool := d.kind == "enum"

def Slot.signature (slot : Slot) : String :=
  match slot.label, slot.name with
  | none, _ => slot.type
  | some label, none => label ++ ": " ++ slot.type
  | some label, some name =>
    if name = label then label ++ ": " ++ slot.type else label ++ " " ++ name ++ ": " ++ slot.type

def Case.signature (c : Case) : String :=
  if c.slots.isEmpty then c.name
  else c.name ++ "(" ++ String.intercalate ", " (c.slots.map Slot.signature) ++ ")"

end ScreenDispatch
