import ScreenDispatch.Text.Quoted
import ScreenDispatch.Text.Shortest

/-!
Values of any kind, as settings come in before they are checked.
-/
set_option autoImplicit false

namespace ScreenDispatch

-- A number with a fraction is given by its bits; the keys of a dictionary are distinct.
inductive RawValue where
  | null
  | bool (b : Bool)
  | int (n : Int)
  | float (bits : UInt64)
  | text (s : String)
  | list (items : List RawValue)
  | dict (entries : List (String × RawValue))
deriving Repr, Inhabited

namespace RawValue

def typeName : RawValue → String
  | null => "NoneType"
  | bool _ => "bool"
  | int _ => "int"
  | float _ => "float"
  | text _ => "str"
  | list _ => "list"
  | dict _ => "dict"

def isNull : RawValue → Bool
  | null => true
  | _ => false

def isFilled : RawValue → Bool
  | null => false
  | bool b => b
  | int n => n != 0
  | float bits => bits.toNat % Nat.pow 2 63 != 0
  | text s => s != ""
  | list items => !items.isEmpty
  | dict entries => !entries.isEmpty

def shown : RawValue → String
  | null => "None"
  | bool b => if b then "True" else "False"
  | int n => toString n
  | float bits => Text.floatText bits
  | text s => Text.quoted s
  | list items => "[" ++ String.intercalate ", " (items.map shown) ++ "]"
  | dict entries =>
    "\x7b" ++ String.intercalate ", " (entries.map fun e => Text.quoted e.1 ++ ": " ++ e.2.shown) ++
      "\x7d"
termination_by v => sizeOf v
decreasing_by
  · have := List.sizeOf_lt_of_mem ‹_›
    simp only [list.sizeOf_spec]
    omega
  · have := List.sizeOf_lt_of_mem ‹_›
    cases e
    simp only [dict.sizeOf_spec, Prod.mk.sizeOf_spec] at *
    omega

def ofText? : Option String → RawValue
  | none => null
  | some s => text s

def items? : RawValue → Option (List RawValue)
  | list items => some items
  | text s => some (s.toList.map fun c => text (String.singleton c))
  | dict entries => some (entries.map fun (key, _) => text key)
  | _ => none

end RawValue

end ScreenDispatch
