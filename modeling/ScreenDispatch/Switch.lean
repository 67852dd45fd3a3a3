import ScreenDispatch.Initializer
import ScreenDispatch.Screen

/-!
The switch over the cases of an enum: one arm for each case, which binds the associated values
and calls the initializer of the view.
-/
set_option autoImplicit false

namespace ScreenDispatch

structure Arm where
  caseName : String
  viewType : String
  parameters : List Parameter
  mapping : Mapping
  inferred : Bool
deriving DecidableEq

def indent : String := "    "

def Parameter.binding (p : Parameter) : String :=
  match p.label with
  | none => "let " ++ p.name
  | some label => label ++ ": let " ++ p.name

namespace Arm

def remapped (arm : Arm) : Nat := arm.parameters.countP fun p => arm.mapping.contains p.sourceKey

def pattern (arm : Arm) : String :=
  if arm.parameters.isEmpty then "." ++ arm.caseName
  else
    "." ++ arm.caseName ++ "(" ++
      String.intercalate ", " (arm.parameters.map Parameter.binding) ++ ")"

def initializer (arm : Arm) (policy : UnlabeledPolicy) : String :=
  arm.viewType ++ "(" ++
    String.intercalate ", " ((arguments arm.parameters arm.mapping policy).map Argument.render) ++
    ")"

def lines (arm : Arm) (policy : UnlabeledPolicy) : List String :=
  ["case " ++ arm.pattern ++ ":", indent ++ arm.initializer policy]

end Arm

def switchLines (arms : List Arm) (policy : UnlabeledPolicy) : List String :=
  "switch self \x7b" :: arms.flatMap (·.lines policy) ++ ["\x7d"]

end ScreenDispatch
