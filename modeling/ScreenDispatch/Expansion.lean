import ScreenDispatch.Extension

/-!
Expansion of a declaration into its extension. The first error ends it and is then the only
diagnostic; otherwise the warnings of all cases are kept.
-/
set_option autoImplicit false

namespace ScreenDispatch

structure Expansion where
  declaration : String
  extension : Option Extension
  diagnostics : List Diagnostic
deriving DecidableEq

namespace Expansion

def succeeded (e : Expansion) : Bool := e.extension.isSome

def errors (e : Expansion) : List Diagnostic := e.diagnostics.filter (·.severity == .error)

def warnings (e : Expansion) : List Diagnostic := e.diagnostics.filter (·.severity == .warning)

def failed (declaration : String) (diagnostic : Diagnostic) : Expansion :=
  ⟨declaration, none, [diagnostic]⟩

end Expansion

structure ResolvedCase where
  arm : Arm
  warning : Option Diagnostic
deriving DecidableEq

def Case.resolve (declaration : String) (c : Case) : Except Diagnostic ResolvedCase :=
  let anchor : Anchor := ⟨declaration, some c.name⟩
  match Screen.resolve c.attributes c.name with
  | .error error => .error ⟨.failure error, anchor⟩
  | .ok screen =>
    .ok ⟨⟨c.name, screen.viewType, c.parameters, screen.mapping, screen.inferred⟩,
      unusedKeysWarning screen.mapping c.parameters c.name anchor⟩

def Declaration.expand (d : Declaration) (policy : UnlabeledPolicy) :
    Except UnknownAccess Expansion :=
  if !d.isEnum then .ok (.failed d.name ⟨.failure .notAnEnum, ⟨d.name, none⟩⟩)
  else
    match d.cases.mapM (Case.resolve d.name) with
    | .error diagnostic => .ok (.failed d.name diagnostic)
    | .ok resolved => do
      let arms := resolved.map (·.arm)
      let modifier ← accessModifier d.access
      let source := renderExtension d.name modifier (switchLines arms policy)
      return ⟨d.name, some ⟨d.name, modifier, arms, source⟩, resolved.filterMap (·.warning)⟩

def expandAll (declarations : List Declaration) (policy : UnlabeledPolicy) :
    Except UnknownAccess (List Expansion) :=
  declarations.mapM (·.expand policy)

end ScreenDispatch
