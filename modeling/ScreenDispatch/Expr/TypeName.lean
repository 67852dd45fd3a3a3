import ScreenDispatch.Expr

/-!
Type references: a name with members and generic arguments, such as `Module.View<Int>.self`.
-/
set_option autoImplicit false

namespace ScreenDispatch.Expr

def typeName? : Expr String → Option String
  | .reference _ name => some name
  | .member _ base name =>
    base.typeName?.map fun owner => if name = "self" then owner else owner ++ "." ++ name
  | .specialization _ base arguments =>
    base.typeName?.map fun owner => owner ++ "<" ++ String.intercalate ", " arguments ++ ">"
  | _ => none

end ScreenDispatch.Expr
