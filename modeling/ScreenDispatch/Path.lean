/-!
Paths as they are written: leading slashes and the names between slashes. Empty names and `.`
do not count, `..` does. Exactly two leading slashes are kept as two, more count as one.
-/
set_option autoImplicit false

namespace ScreenDispatch

structure Path where
  slashes : Nat
  parts : List String
deriving DecidableEq, Repr

namespace Path

def keptSlashes (n : Nat) : Nat := if n = 2 then 2 else min n 1

def pieces : List Char → List (List Char)
  | [] => [[]]
  | c :: rest =>
    if c = '/' then [] :: pieces rest
    else
      match pieces rest with
      | [] => [[c]]
      | piece :: more => (c :: piece) :: more

def ofString (text : String) : Path :=
  ⟨keptSlashes (text.toList.takeWhile (· == '/')).length,
    ((pieces text.toList).map String.ofList).filter fun part => part != "" && part != "."⟩

def isAbsolute (p : Path) : Bool := p.slashes != 0

def text (p : Path) : String :=
  if p.slashes = 0 ∧ p.parts = [] then "."
  else String.ofList (List.replicate p.slashes '/') ++ String.intercalate "/" p.parts

def name (p : Path) : String := p.parts.getLast?.getD ""

def parent (p : Path) : Path := ⟨p.slashes, p.parts.dropLast⟩

-- What the right path is, seen from the left one.
def join (p q : Path) : Path := if q.isAbsolute then q else ⟨p.slashes, p.parts ++ q.parts⟩

def holdsNul (p : Path) : Bool := p.parts.any fun part => part.toList.contains '\x00'

theorem length_parent (p : Path) (h : p.parts ≠ []) :
    p.parent.parts.length < p.parts.length := by
  have := List.length_pos_iff.mpr h
  simp only [parent, List.length_dropLast]
  omega

theorem pieces_plain (cs : List Char) (h : '/' ∉ cs) : pieces cs = [cs] := by
  induction cs with
  | nil => rfl
  | cons c rest ih =>
    simp only [List.mem_cons, not_or] at h
    simp [pieces, Ne.symm h.1, ih h.2]

end Path
end ScreenDispatch
