/-!
Columns of a report: texts filled up to a width, counts with a comma between groups of three
digits.
-/
set_option autoImplicit false

namespace ScreenDispatch.Text

def blanks (n : Nat) : String := String.ofList (List.replicate n ' ')

def padRight (width : Nat) (s : String) : String := s ++ blanks (width - s.length)

def padLeft (width : Nat) (s : String) : String := blanks (width - s.length) ++ s

def columnWidth (texts : List String) : Nat := texts.foldl (fun w s => max w s.length) 0

def grouped (n : Int) : String :=
  (if n < 0 then "-" else "") ++ String.ofList (groups (Nat.toDigits 10 n.natAbs))
where
  groups : List Char → List Char
    | [] => []
    | d :: rest =>
      if rest.length % 3 = 0 ∧ rest ≠ [] then d :: ',' :: groups rest else d :: groups rest

end ScreenDispatch.Text
