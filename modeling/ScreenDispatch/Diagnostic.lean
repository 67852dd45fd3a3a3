/-!
Diagnostics of an expansion. A screen error stops the declaration it is found in; unused
mapping keys are only a warning.
-/
set_option autoImplicit false

namespace ScreenDispatch

inductive Severity where
  | error | warning
deriving DecidableEq, Repr

def Severity.name : Severity → String
  | .error => "error"
  | .warning => "warning"

inductive ScreenError where
  | notAnEnum
  | invalidScreenAttribute
  | invalidMappingArgument
  | unsupportedTypeExpression
deriving DecidableEq, Repr

namespace ScreenError

def all : List ScreenError :=
  [notAnEnum, invalidScreenAttribute, invalidMappingArgument, unsupportedTypeExpression]

def id : ScreenError → String
  | notAnEnum => "notAnEnum"
  | invalidScreenAttribute => "invalidScreenAttribute"
  | invalidMappingArgument => "invalidMappingArgument"
  | unsupportedTypeExpression => "unsupportedTypeExpression"

def message : ScreenError → String
  | notAnEnum => "@Screens can only be applied to an enum"
  | invalidScreenAttribute =>
    "@Screen expects a View type and/or a parameter mapping " ++
    "(e.g., @Screen(MyView.self), @Screen([\"id\": \"detailId\"]), " ++
    "@Screen(MyView.self, [\"id\": \"detailId\"]))"
  | invalidMappingArgument =>
    "@Screen's second argument must be a dictionary literal (e.g., [\"id\": \"detailId\"])"
  | unsupportedTypeExpression =>
    "@Screen's View type expression is not supported. " ++
    "Use simple types, module-qualified types, or generic types " ++
    "(e.g., MyView.self, Module.MyView.self, GenericView<Int>.self)"

end ScreenError

structure UnknownScreenError where
  id : String
deriving DecidableEq, Repr

def UnknownScreenError.message (e : UnknownScreenError) : String :=
  "Unknown screen macro error: " ++ e.id

def ScreenError.ofId (id : String) : Except UnknownScreenError ScreenError :=
  match ScreenError.all.find? (·.id == id) with
  | some error => .ok error
  | none => .error ⟨id⟩

inductive Finding where
  | failure (error : ScreenError)
  | unusedKeys (keys : List String) (caseName : String)
deriving DecidableEq, Repr

structure Anchor where
  declaration : String
  caseName : Option String
deriving DecidableEq, Repr

structure Diagnostic where
  finding : Finding
  anchor : Anchor
deriving DecidableEq, Repr

def Anchor.text (anchor : Anchor) : String :=
  match anchor.caseName with
  | none => anchor.declaration
  | some name => anchor.declaration ++ "." ++ name

namespace Diagnostic

def severity (d : Diagnostic) : Severity :=
  match d.finding with
  | .failure _ => .error
  | .unusedKeys _ _ => .warning

def id (d : Diagnostic) : String :=
  match d.finding with
  | .failure error => error.id
  | .unusedKeys _ _ => "unusedMappingKeys"

def domainId (d : Diagnostic) : String := "ScreenMacros." ++ d.id

def message (d : Diagnostic) : String :=
  match d.finding with
  | .failure error => error.message
  | .unusedKeys keys caseName =>
    "Mapping keys [" ++ String.intercalate ", " (keys.map fun key => "\"" ++ key ++ "\"") ++
    "] do not match any parameter labels in case '" ++ caseName ++ "' and will be ignored"

def line (d : Diagnostic) : String :=
  d.severity.name ++ "[" ++ d.id ++ "] " ++ d.anchor.text ++ ": " ++ d.message

end Diagnostic
end ScreenDispatch
