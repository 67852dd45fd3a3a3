import ScreenDispatch.Expr

/-!
String literals. A backslash escapes the next character, and one before an opening parenthesis
begins an interpolation; only the text before the first interpolation is known without running
the program.
-/
set_option autoImplicit false

namespace ScreenDispatch.Expr

def interpolationStart : List Char → Option Nat
  | [] => none
  | ['\\'] => none
  | '\\' :: c :: rest => if c = '(' then some 0 else (interpolationStart rest).map (· + 2)
  | _ :: rest => (interpolationStart rest).map (· + 1)

def isInterpolated (value : String) : Bool := (interpolationStart value.toList).isSome

-- The text before the first interpolation; none for a literal that begins with one.
def leadingSegment (value : String) : Option String :=
  match interpolationStart value.toList with
  | none => some value
  | some 0 => none
  | some (n + 1) => some (String.ofList (value.toList.take (n + 1)))

end ScreenDispatch.Expr
