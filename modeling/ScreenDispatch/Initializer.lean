import ScreenDispatch.Mapping
import ScreenDispatch.Parameter

/-!
Arguments of a view initializer. The mapping decides about the label of a parameter that it
names, and the policy about parameters without a label; the label `_` stands for none.
-/
set_option autoImplicit false

namespace ScreenDispatch

inductive UnlabeledPolicy where
  | positional | labeled
deriving DecidableEq, Repr, Inhabited

namespace UnlabeledPolicy

def all : List UnlabeledPolicy := [positional, labeled]

def name : UnlabeledPolicy → String
  | positional => "positional"
  | labeled => "labeled"

def ofName? (s : String) : Option UnlabeledPolicy :=
  all.find? (·.name == s)

end UnlabeledPolicy

structure Argument where
  label : Option String
  value : String
deriving DecidableEq, Repr

def Argument.render (a : Argument) : String :=
  match a.label with
  | none => a.value
  | some label => label ++ ": " ++ a.value

def targetLabel (mapping : Mapping) (policy : UnlabeledPolicy) (p : Parameter) : String :=
  match mapping.get? p.sourceKey with
  | some label => label
  | none => if p.label.isNone ∧ policy = .positional then "_" else p.sourceKey

def Parameter.argument (mapping : Mapping) (policy : UnlabeledPolicy) (p : Parameter) : Argument :=
  let label := targetLabel mapping policy p
  ⟨if label = "_" then none else some label, p.name⟩

def arguments (parameters : List Parameter) (mapping : Mapping) (policy : UnlabeledPolicy) :
    List Argument :=
  parameters.map (·.argument mapping policy)

end ScreenDispatch
