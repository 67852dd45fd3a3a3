import ScreenDispatch.Expansion
import ScreenDispatch.Listing
import ScreenDispatch.Schema

/-!
What generation would write for one declaration, case by case.
-/
set_option autoImplicit false

namespace ScreenDispatch

structure CaseDetail where
  signature : String
  pattern : String
  initializer : String
  inferred : Bool
deriving DecidableEq, Repr

structure DeclarationDetail where
  summary : DeclarationSummary
  cases : List CaseDetail
  diagnostics : List Diagnostic
deriving DecidableEq, Repr

def CaseDetail.ofArm (policy : UnlabeledPolicy) (c : Case) (arm : Arm) : CaseDetail :=
  ⟨c.signature, arm.pattern, arm.initializer policy, arm.inferred⟩

def Declaration.detail (d : Declaration) (policy : UnlabeledPolicy) :
    Except UnknownAccess DeclarationDetail := do
  let expansion ← d.expand policy
  let arms := (expansion.extension.map (·.arms)).getD []
  return ⟨d.summary, d.cases.zipWith (CaseDetail.ofArm policy) arms, expansion.diagnostics⟩

def Schema.detail? (schema : Schema) (name : String) (policy : UnlabeledPolicy) :
    Except UnknownAccess (Option DeclarationDetail) :=
  match schema.find? name with
  | none => .ok none
  | some d => (d.detail policy).map some

def CaseDetail.line (signatureWidth patternWidth : Nat) (c : CaseDetail) : String :=
  "    " ++ Text.padRight signatureWidth c.signature ++ "  " ++
    Text.padRight patternWidth c.pattern ++ "  -> " ++ c.initializer ++
    (if c.inferred then "" else "  (explicit)")

def DeclarationSummary.qualifier (s : DeclarationSummary) : String :=
  match s.access with
  | none | some "" => s.kind
  | some access => access ++ " " ++ s.kind

def DeclarationDetail.text (detail : DeclarationDetail) : String :=
  let signatureWidth := Text.columnWidth (detail.cases.map (·.signature))
  let patternWidth := Text.columnWidth (detail.cases.map (·.pattern))
  let remarks :=
    if detail.diagnostics.isEmpty then []
    else ["", "  Diagnostics (" ++ toString detail.diagnostics.length ++ "):"] ++
      detail.diagnostics.map ("    " ++ ·.line)
  String.intercalate "\n"
    ([detail.summary.name ++ " (" ++ detail.summary.qualifier ++ ")", "",
      "  Cases (" ++ toString detail.cases.length ++ "):"] ++
      detail.cases.map (·.line signatureWidth patternWidth) ++ remarks ++ [""])

end ScreenDispatch
