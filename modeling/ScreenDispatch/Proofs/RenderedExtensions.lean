import ScreenDispatch.Proofs.RunStages

/-!
The extension of a declaration that expands: its name, its access level and its arms, and the text that is made of
them.
-/
set_option autoImplicit false

namespace ScreenDispatch

def Declaration.extensionOf (d : Declaration) (policy : UnlabeledPolicy) (modifier : String) (arms : List Arm) :
    Extension :=
  ⟨d.name, modifier, arms, renderExtension d.name modifier (switchLines arms policy)⟩

structure Rendered (d : Declaration) (policy : UnlabeledPolicy) (found : List ResolvedCase) (modifier : String)
    (e : Expansion) : Prop where
  cases : List.Forall₂ (ContributionOf d.name) d.cases found
  access : accessModifier d.access = .ok modifier
  extended : e.extension = some (d.extensionOf policy modifier (found.map (·.arm)))
  warnings : e.diagnostics = found.filterMap (·.warning)

theorem expansion_rendered (d : Declaration) (policy : UnlabeledPolicy) (e : Expansion) (x : Extension)
    (done : d.expand policy = .ok e) (extended : e.extension = some x) :
    ∃ found modifier, Rendered d policy found modifier e := by
  rw [Declaration.expand] at done
  split at done
  · obtain rfl := Except.ok.inj done
    cases extended
  · split at done
    · obtain rfl := Except.ok.inj done
      cases extended
    · rename_i found run
      obtain ⟨modifier, known, same⟩ := bind_ok _ _ _ done
      obtain rfl := Except.ok.inj same
      exact ⟨found, modifier, (map_m_ok _ _ _ run).imp (case_resolve_ok d.name), known, rfl, rfl⟩

theorem extension_rendered (d : Declaration) (policy : UnlabeledPolicy) (x : Extension)
    (expands : d.extension? policy = some x) :
    ∃ found modifier, List.Forall₂ (ContributionOf d.name) d.cases found ∧ accessModifier d.access = .ok modifier ∧
      x = d.extensionOf policy modifier (found.map (·.arm)) := by
  rw [Declaration.extension?] at expands
  split at expands
  · rename_i e done
    obtain ⟨found, modifier, rendered⟩ := expansion_rendered d policy e x done expands
    exact ⟨found, modifier, rendered.cases, rendered.access, Option.some.inj (expands.symm.trans rendered.extended)⟩
  · cases expands

end ScreenDispatch
