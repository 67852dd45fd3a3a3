import ScreenDispatch.Declaration

/-!
Parameters: the associated values of a case as the generated code binds them.
-/
set_option autoImplicit false

namespace ScreenDispatch

structure Parameter where
  label : Option String
  name : String
deriving DecidableEq, Repr

def Parameter.sourceKey (p : Parameter) : String := p.label.getD p.name

-- The parameter of the slot at `index`. A labeled slot binds its own name or else its label;
-- one without a label is numbered.
def Slot.parameter (index : Nat) (slot : Slot) : Parameter :=
  match slot.label with
  | none => ⟨none, "param" ++ toString index⟩
  | some label =>
    match slot.name with
    | none => ⟨some label, label⟩
    | some name => ⟨some label, if name = "" then label else name⟩

def parametersFrom (index : Nat) : List Slot → List Parameter
  | [] => []
  | slot :: rest => slot.parameter index :: parametersFrom (index + 1) rest

def parameters (slots : List Slot) : List Parameter := parametersFrom 0 slots

def Case.parameters (c : Case) : List Parameter := ScreenDispatch.parameters c.slots

end ScreenDispatch
