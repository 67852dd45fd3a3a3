/-!
Sets of characters given by ranges of code points, and maps of characters given by runs
that all move by the same distance.
-/
set_option autoImplicit false

namespace ScreenDispatch.Text

structure CodeRange where
  first : Nat
  last : Nat
deriving Repr, DecidableEq

def CodeRange.has (range : CodeRange) (c : Char) : Bool :=
  decide (range.first ≤ c.toNat) && decide (c.toNat ≤ range.last)

abbrev CharSet := List CodeRange

def CharSet.has (set : CharSet) (c : Char) : Bool := set.any (·.has c)

-- Every `stride`-th code point from `first` to `last` moves by `distance`.
structure CaseRun where
  first : Nat
  last : Nat
  stride : Nat
  distance : Int
deriving Repr, DecidableEq

def CaseRun.covers (run : CaseRun) (c : Char) : Bool :=
  decide (run.first ≤ c.toNat) && decide (c.toNat ≤ run.last) &&
    (c.toNat - run.first) % run.stride == 0

def shift (runs : List CaseRun) (c : Char) : Char :=
  match runs.find? (·.covers c) with
  | some run => Char.ofNat (Int.ofNat c.toNat + run.distance).toNat
  | none => c

end ScreenDispatch.Text
