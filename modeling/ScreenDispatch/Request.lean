import ScreenDispatch.Path
import ScreenDispatch.RawValue

/-!
What is asked for before it is checked. Declaration names may come in any shape; a list of names
and of lists of names is what the command line makes of them.
-/
set_option autoImplicit false

namespace ScreenDispatch

inductive RawPlace where
  | value | entry | name
deriving DecidableEq, Repr

structure ShapeError where
  place : RawPlace
  typeName : String
deriving DecidableEq, Repr

namespace RawValue

def nameText : RawValue → Except ShapeError String
  | text s => .ok s
  | other => .error ⟨.name, other.typeName⟩

def entryNames : RawValue → Except ShapeError (List String)
  | text s => .ok [s]
  | list items => items.mapM nameText
  | other => .error ⟨.entry, other.typeName⟩

def names : RawValue → Except ShapeError (List String)
  | null => .ok []
  | list entries => do return (← entries.mapM entryNames).flatten
  | other => .error ⟨.value, other.typeName⟩

def ofGroups : Option (List (List String)) → RawValue
  | none => null
  | some groups => list (groups.map fun group => list (group.map text))

theorem map_name_text (names : List String) : (names.map text).mapM nameText = .ok names := by
  induction names with
  | nil => rfl
  | cons name rest ih => rw [List.map_cons, List.mapM_cons, ih]; rfl

theorem map_entry_names (groups : List (List String)) :
    (groups.map fun group => list (group.map text)).mapM entryNames = .ok groups := by
  induction groups with
  | nil => rfl
  | cons group rest ih =>
    rw [List.map_cons, List.mapM_cons, ih]
    simp only [entryNames, map_name_text]
    rfl

theorem names_of_groups (groups : Option (List (List String))) :
    (ofGroups groups).names = .ok (groups.getD []).flatten := by
  cases groups with
  | none => rfl
  | some groups => simp only [ofGroups, names, map_entry_names]; rfl

end RawValue

-- The value of a flag that takes one value. `empty` is a flag that is given without one.
inductive FlagValue (α : Type) where
  | absent
  | empty
  | given (a : α)
deriving DecidableEq, Repr

namespace FlagValue

variable {α : Type}

def isAbsent : FlagValue α → Bool
  | absent => true
  | _ => false

def raw (f : α → String) : FlagValue α → RawValue
  | absent => .null
  | empty => .list []
  | given a => .text (f a)

end FlagValue

structure Request where
  schema : FlagValue Path
  outputDir : FlagValue Path
  declarations : RawValue
  imports : RawValue
  unlabeled : RawValue
  listing : Bool
  info : RawValue
  filter : RawValue

end ScreenDispatch
