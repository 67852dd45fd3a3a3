import ScreenDispatch.Switch
import ScreenDispatch.Text.Quoted

/-!
The extension that makes an enum a view. It takes over the access level of the enum.
-/
set_option autoImplicit false

namespace ScreenDispatch

inductive AccessLevel where
  | pub | internal | fileprivate | priv
deriving DecidableEq, Repr

namespace AccessLevel

def all : List AccessLevel := [pub, internal, fileprivate, priv]

def name : AccessLevel → String
  | pub => "public"
  | internal => "internal"
  | fileprivate => "fileprivate"
  | priv => "private"

def ofName? (s : String) : Option AccessLevel := all.find? (·.name == s)

end AccessLevel

structure UnknownAccess where
  access : String
deriving DecidableEq, Repr

def UnknownAccess.message (e : UnknownAccess) : String :=
  "Unknown access level: " ++ Text.quoted e.access

def accessModifier : Option String → Except UnknownAccess String
  | none => .ok ""
  | some access =>
    match AccessLevel.ofName? access with
    | some level => .ok (level.name ++ " ")
    | none => .error ⟨access⟩

def extensionLines (typeName modifier : String) (switch : List String) : List String :=
  [modifier ++ "extension " ++ typeName ++ ": View, ScreenMacros.Screens \x7b",
    indent ++ "@MainActor @ViewBuilder",
    indent ++ modifier ++ "var body: some View \x7b"] ++
  switch.map (indent ++ indent ++ ·) ++
  [indent ++ "\x7d", "\x7d"]

def renderExtension (typeName modifier : String) (switch : List String) : String :=
  String.intercalate "\n" (extensionLines typeName modifier switch)

structure Extension where
  typeName : String
  modifier : String
  arms : List Arm
  source : String
deriving DecidableEq

end ScreenDispatch
