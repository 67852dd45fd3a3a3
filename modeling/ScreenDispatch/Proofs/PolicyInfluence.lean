import ScreenDispatch.Proofs.ExpansionForms
import ScreenDispatch.Proofs.MappingUse

/-!
What the policy about unlabeled values decides. Two expansions of a declaration under the two policies differ in the
labels of those values that have no label of their own and none from the mapping, and in nothing else.
-/
set_option autoImplicit false

namespace ScreenDispatch

def Parameter.isFree (mapping : Mapping) (p : Parameter) : Bool := p.label.isNone && !mapping.contains p.name

def Arm.freeNames (arm : Arm) : List String := (arm.parameters.filter (Parameter.isFree arm.mapping)).map (·.name)

def labelSize (names : List String) : Nat := (names.map fun name => name.length + 2).sum

def ArmOf (c : Case) (arm : Arm) : Prop :=
  ∃ screen, Screen.resolve c.attributes c.name = .ok screen ∧
    arm = ⟨c.name, screen.viewType, c.parameters, screen.mapping, screen.inferred⟩

theorem numbered_unmarked (index : Nat) (slot : Slot) (unlabeled : (slot.parameter index).label = none) :
    (slot.parameter index).name ≠ "_" := by
  obtain ⟨label, name, type⟩ := slot
  cases label with
  | none =>
      intro same
      have letters := congrArg (fun text : String => text.toList.head?) same
      simp [Slot.parameter] at letters
  | some label => cases name <;> cases unlabeled

theorem unlabeled_unmarked (first : Nat) (slots : List Slot) (p : Parameter) (present : p ∈ parametersFrom first slots)
    (unlabeled : p.label = none) : p.name ≠ "_" := by
  induction slots generalizing first with
  | nil => cases present
  | cons slot rest ih =>
      obtain rfl | later := List.mem_cons.mp present
      · exact numbered_unmarked first slot unlabeled
      · exact ih (first + 1) later

section Argument

variable (mapping : Mapping) (p : Parameter)

theorem argument_bound (bound : p.isFree mapping = false) (policy other : UnlabeledPolicy) :
    p.argument mapping policy = p.argument mapping other := by
  have target : targetLabel mapping policy p = targetLabel mapping other p := by
    rw [targetLabel, targetLabel]
    cases found : mapping.get? p.sourceKey with
    | some label => rfl
    | none =>
        have labeled : p.label.isNone = false := by
          by_contra missing
          have unlabeled : p.label = none := by simpa using missing
          have key : p.sourceKey = p.name := by rw [Parameter.sourceKey, unlabeled]; rfl
          rw [Parameter.isFree, unlabeled, Mapping.contains_iff_get, ← key, found] at bound
          cases bound
        simp [labeled]
  rw [Parameter.argument, Parameter.argument, target]

theorem argument_free (free : p.isFree mapping = true) (unmarked : p.name ≠ "_") :
    p.argument mapping .positional = ⟨none, p.name⟩ ∧ p.argument mapping .labeled = ⟨some p.name, p.name⟩ := by
  rw [Parameter.isFree, Bool.and_eq_true, Bool.not_eq_true', Mapping.contains_iff_get] at free
  have unlabeled : p.label = none := by simpa using free.1
  have key : p.sourceKey = p.name := by rw [Parameter.sourceKey, unlabeled]; rfl
  have missing : mapping.get? p.name = none := by simpa using free.2
  simp [Parameter.argument, targetLabel, key, missing, unlabeled, unmarked]

theorem argument_grows (unmarked : p.label = none → p.name ≠ "_") :
    (p.argument mapping .labeled).render.length =
      (p.argument mapping .positional).render.length + if p.isFree mapping then p.name.length + 2 else 0 := by
  by_cases free : p.isFree mapping = true
  · have unlabeled : p.label = none := by
      rw [Parameter.isFree, Bool.and_eq_true] at free
      simpa using free.1
    obtain ⟨short, long⟩ := argument_free mapping p free (unmarked unlabeled)
    rw [short, long, if_pos free]
    have colon : (": " : String).length = 2 := rfl
    simp only [Argument.render, String.length_append, colon]
    omega
  · rw [if_neg free, argument_bound mapping p (by simpa using free) .labeled .positional, Nat.add_zero]

end Argument

section Size

def lineSize (lines : List String) : Nat := (lines.map String.length).sum

theorem length_intercalate (separator : String) (lines : List String) :
    (String.intercalate separator lines).length = lineSize lines + separator.length * (lines.length - 1) := by
  induction lines with
  | nil => rfl
  | cons line rest ih =>
      cases rest with
      | nil => simp [lineSize]
      | cons next others =>
          rw [String.intercalate_cons_cons, String.length_append, String.length_append, ih]
          simp only [lineSize, List.map_cons, List.sum_cons, List.length_cons, Nat.add_sub_cancel, Nat.mul_add,
            Nat.mul_one]
          omega

theorem line_size_append (lines others : List String) : lineSize (lines ++ others) = lineSize lines + lineSize others := by
  rw [lineSize, List.map_append, List.sum_append, lineSize, lineSize]

theorem line_size_indented (margin : String) (lines : List String) :
    lineSize (lines.map (margin ++ ·)) = margin.length * lines.length + lineSize lines := by
  induction lines with
  | nil => rfl
  | cons line rest ih =>
      simp only [lineSize, List.map_cons, List.sum_cons, String.length_append, List.length_cons, Nat.mul_add,
        Nat.mul_one] at ih ⊢
      omega

-- No value without a label is called like the mark for no label.
def Arm.Unmarked (arm : Arm) : Prop := ∀ p ∈ arm.parameters, p.label = none → p.name ≠ "_"

theorem arguments_grow (mapping : Mapping) (parameters : List Parameter)
    (unmarked : ∀ p ∈ parameters, p.label = none → p.name ≠ "_") :
    lineSize ((arguments parameters mapping .labeled).map Argument.render) =
      lineSize ((arguments parameters mapping .positional).map Argument.render) +
        labelSize ((parameters.filter (Parameter.isFree mapping)).map (·.name)) := by
  induction parameters with
  | nil => rfl
  | cons p rest ih =>
      have own := argument_grows mapping p (unmarked p List.mem_cons_self)
      have others := ih fun q present => unmarked q (List.mem_cons_of_mem _ present)
      simp only [arguments, lineSize, labelSize, List.map_cons, List.sum_cons, List.filter_cons] at others own ⊢
      split at own
      · rename_i free
        rw [if_pos free, List.map_cons, List.map_cons, List.sum_cons]
        omega
      · rename_i bound
        rw [if_neg bound]
        omega

theorem initializer_grows (arm : Arm) (unmarked : arm.Unmarked) :
    (arm.initializer .labeled).length = (arm.initializer .positional).length + labelSize arm.freeNames := by
  have grown := arguments_grow arm.mapping arm.parameters unmarked
  simp only [Arm.initializer, String.length_append, length_intercalate, List.length_map, arguments] at grown ⊢
  rw [grown, Arm.freeNames]
  omega

theorem arms_grow (arms : List Arm) (unmarked : ∀ arm ∈ arms, arm.Unmarked) :
    lineSize (arms.flatMap (·.lines .labeled)) =
      lineSize (arms.flatMap (·.lines .positional)) + (arms.map fun arm => labelSize arm.freeNames).sum := by
  induction arms with
  | nil => rfl
  | cons arm rest ih =>
      have own := initializer_grows arm (unmarked arm List.mem_cons_self)
      have others := ih fun other present => unmarked other (List.mem_cons_of_mem _ present)
      rw [List.flatMap_cons, List.flatMap_cons, line_size_append, line_size_append, others, List.map_cons, List.sum_cons]
      simp only [Arm.lines, lineSize, List.map_cons, List.map_nil, List.sum_cons, List.sum_nil, String.length_append, own]
      omega

theorem line_count (arms : List Arm) (policy : UnlabeledPolicy) :
    (arms.flatMap (·.lines policy)).length = 2 * arms.length := by
  induction arms with
  | nil => rfl
  | cons arm rest ih =>
      rw [List.flatMap_cons, List.length_append, ih, List.length_cons, Arm.lines]
      simp only [List.length_cons, List.length_nil]
      omega

theorem extension_grows (name modifier : String) (arms : List Arm) (unmarked : ∀ arm ∈ arms, arm.Unmarked) :
    (renderExtension name modifier (switchLines arms .labeled)).length =
      (renderExtension name modifier (switchLines arms .positional)).length +
        (arms.map fun arm => labelSize arm.freeNames).sum := by
  have grown := arms_grow arms unmarked
  have size (policy : UnlabeledPolicy) : lineSize (switchLines arms policy) =
      lineSize ["switch self \x7b", "\x7d"] + lineSize (arms.flatMap (·.lines policy)) := by
    rw [switchLines, List.cons_append, ← List.singleton_append, line_size_append, line_size_append,
      show ["switch self \x7b", "\x7d"] = ["switch self \x7b"] ++ ["\x7d"] from rfl, line_size_append]
    omega
  have count (policy : UnlabeledPolicy) : (switchLines arms policy).length = 2 * arms.length + 2 := by
    rw [switchLines, List.cons_append, List.length_cons, List.length_append, line_count, List.length_singleton]
  simp only [renderExtension, length_intercalate, extensionLines, line_size_append, line_size_indented, List.length_append,
    List.length_map, size, count, grown]
  omega

end Size

theorem initializer_without_free (arm : Arm) (none : arm.freeNames = []) :
    arm.initializer .labeled = arm.initializer .positional := by
  have same : arguments arm.parameters arm.mapping .labeled = arguments arm.parameters arm.mapping .positional := by
    refine List.map_congr_left fun p present => argument_bound arm.mapping p ?_ _ _
    rw [Arm.freeNames, List.map_eq_nil_iff, List.filter_eq_nil_iff] at none
    simpa using none p present
  rw [Arm.initializer, Arm.initializer, same]

theorem switch_without_free (arms : List Arm) (none : ∀ arm ∈ arms, arm.freeNames = []) :
    switchLines arms .labeled = switchLines arms .positional := by
  have same : arms.flatMap (·.lines .labeled) = arms.flatMap (·.lines .positional) := by
    refine List.flatMap_congr fun arm present => ?_
    rw [Arm.lines, Arm.lines, initializer_without_free arm (none arm present)]
  rw [switchLines, switchLines, same]

theorem free_of_size (arms : List Arm) (zero : (arms.map fun arm => labelSize arm.freeNames).sum = 0) :
    ∀ arm ∈ arms, arm.freeNames = [] := by
  intro arm present
  have own : labelSize arm.freeNames = 0 := List.sum_eq_zero_iff.mp zero _ (List.mem_map_of_mem present)
  cases names : arm.freeNames with
  | nil => rfl
  | cons name others =>
      rw [names, labelSize, List.map_cons, List.sum_cons] at own
      omega

structure DifferInFreeLabels (d : Declaration) (positional labeled : Extension) : Prop where
  cases : List.Forall₂ ArmOf d.cases positional.arms
  arms : labeled.arms = positional.arms
  patterns : labeled.arms.map Arm.pattern = positional.arms.map Arm.pattern
  header : labeled.typeName = positional.typeName ∧ labeled.modifier = positional.modifier
  shortText : positional.source =
    renderExtension positional.typeName positional.modifier (switchLines positional.arms .positional)
  longText : labeled.source = renderExtension labeled.typeName labeled.modifier (switchLines labeled.arms .labeled)
  longer : labeled.source.length =
    positional.source.length + (positional.arms.map fun arm => labelSize arm.freeNames).sum
  same : labeled.source = positional.source ↔
    ∀ arm ∈ positional.arms, ∀ p ∈ arm.parameters, p.label = none → p.name ∈ arm.mapping.keys
  rendered : ∀ arm ∈ positional.arms, ∀ p ∈ arm.parameters, p.label ≠ none ∨ p.sourceKey ∈ arm.mapping.keys →
    (p.argument arm.mapping .labeled).render = (p.argument arm.mapping .positional).render

theorem no_free_names_iff (arm : Arm) :
    arm.freeNames = [] ↔ ∀ p ∈ arm.parameters, p.label = none → p.name ∈ arm.mapping.keys := by
  rw [Arm.freeNames, List.map_eq_nil_iff, List.filter_eq_nil_iff]
  simp [Parameter.isFree, Mapping.contains]

theorem bound_of_labeled_or_mapped (mapping : Mapping) (p : Parameter)
    (given : p.label ≠ none ∨ p.sourceKey ∈ mapping.keys) : p.isFree mapping = false := by
  obtain ⟨label, name⟩ := p
  cases label with
  | some label => rfl
  | none =>
      have key : name ∈ mapping.keys := by simpa [Parameter.sourceKey] using given
      simp [Parameter.isFree, Mapping.contains, key]

theorem differ_in_free_labels (d : Declaration) (modifier : String) (arms : List Arm)
    (cases : List.Forall₂ ArmOf d.cases arms) :
    DifferInFreeLabels d ⟨d.name, modifier, arms, renderExtension d.name modifier (switchLines arms .positional)⟩
      ⟨d.name, modifier, arms, renderExtension d.name modifier (switchLines arms .labeled)⟩ := by
  have unmarked : ∀ arm ∈ arms, arm.Unmarked := by
    intro arm present p inside unlabeled
    obtain ⟨c, -, screen, -, rfl⟩ := forall₂_source _ _ cases arm present
    exact unlabeled_unmarked 0 c.slots p inside unlabeled
  have longer := extension_grows d.name modifier arms unmarked
  have same : renderExtension d.name modifier (switchLines arms .labeled) =
      renderExtension d.name modifier (switchLines arms .positional) ↔
        ∀ arm ∈ arms, ∀ p ∈ arm.parameters, p.label = none → p.name ∈ arm.mapping.keys := by
    refine ⟨fun same arm present => ?_, fun named => ?_⟩
    · have zero : (arms.map fun arm => labelSize arm.freeNames).sum = 0 := by
        rw [same] at longer
        omega
      exact (no_free_names_iff arm).mp (free_of_size arms zero arm present)
    · have none : ∀ arm ∈ arms, arm.freeNames = [] := fun arm present => (no_free_names_iff arm).mpr (named arm present)
      rw [switch_without_free arms none]
  -- The two texts stay closed from here on: comparing them would unfold how they are put together.
  generalize shortText : renderExtension d.name modifier (switchLines arms .positional) = short at longer same ⊢
  generalize longText : renderExtension d.name modifier (switchLines arms .labeled) = long at longer same ⊢
  refine ⟨cases, rfl, rfl, ⟨rfl, rfl⟩, shortText.symm, longText.symm, longer, same, fun arm _ p _ given => ?_⟩
  rw [argument_bound arm.mapping p (bound_of_labeled_or_mapped arm.mapping p given) .labeled .positional]

/-- Expanding a declaration under the two policies succeeds or fails alike, with the same diagnostics. The extensions
have the same arms, and the labeled one is longer by the labels of the parameters without a label that no mapping
names. -/
theorem policy_decides_free_labels (d : Declaration)
    (admissible : d.access = none ∨ ∃ level : AccessLevel, d.access = some level.name) :
    ∃ positional labeled, d.expand .positional = .ok positional ∧ d.expand .labeled = .ok labeled ∧
      labeled.succeeded = positional.succeeded ∧ labeled.diagnostics = positional.diagnostics ∧
      ∀ short, positional.extension = some short →
        ∃ long, labeled.extension = some long ∧ DifferInFreeLabels d short long := by
  obtain ⟨modifier, known⟩ := access_modifier_admissible d.access admissible
  rw [Declaration.expand, Declaration.expand, known]
  split
  · exact ⟨_, _, rfl, rfl, rfl, rfl, nofun⟩
  · split
    · exact ⟨_, _, rfl, rfl, rfl, rfl, nofun⟩
    · rename_i found run
      have cases : List.Forall₂ ArmOf d.cases (found.map (·.arm)) := by
        rw [List.forall₂_map_right_iff]
        refine (map_m_ok _ _ _ run).imp fun c r resolved => ?_
        obtain ⟨screen, screened, arm, -⟩ := case_resolve_ok d.name c r resolved
        exact ⟨screen, screened, arm⟩
      refine ⟨_, _, rfl, rfl, ?_, rfl, fun short extended => ?_⟩
      -- Closed by the constructor alone: `rfl` would compare the two texts.
      · simp only [Expansion.succeeded, Option.isSome_some]
      · cases extended
        exact ⟨_, rfl, differ_in_free_labels d modifier _ cases⟩

def mixedDeclaration : Declaration :=
  ⟨"ScreenID", "enum", some "public",
    [⟨"detail", [⟨none, none, "Int"⟩, ⟨none, none, "Int"⟩, ⟨some "_", some "id", "Int"⟩, ⟨some "id", none, "Int"⟩],
      [⟨"Screen", [.dictionary "" [(.string "" "param0", .string "" "_")]]⟩]⟩]⟩

def mixedArm : Arm :=
  ⟨"detail", "Detail", [⟨none, "param0"⟩, ⟨none, "param1"⟩, ⟨some "_", "id"⟩, ⟨some "id", "id"⟩],
    .ofList [("param0", "_")], true⟩

def mixedExtension (policy : UnlabeledPolicy) : Extension :=
  ⟨"ScreenID", "public ", [mixedArm], renderExtension "ScreenID" "public " (switchLines [mixedArm] policy)⟩

theorem mixed_expansion (policy : UnlabeledPolicy) :
    mixedDeclaration.expand policy = .ok ⟨"ScreenID", some (mixedExtension policy), []⟩ := by
  have resolved : mixedDeclaration.cases.mapM (Case.resolve "ScreenID") = .ok [⟨mixedArm, none⟩] := by cbv
  have enum : mixedDeclaration.isEnum = true := rfl
  have known : accessModifier mixedDeclaration.access = .ok "public " := rfl
  rw [Declaration.expand, enum, show mixedDeclaration.name = "ScreenID" from rfl, resolved, known]
  rfl

theorem mixed_declaration_differs :
    mixedArm.initializer .positional = "Detail(param0, param1, id, id: id)" ∧
      mixedArm.initializer .labeled = "Detail(param0, param1: param1, id, id: id)" ∧
      (mixedExtension .labeled).source.length = (mixedExtension .positional).source.length + 8 ∧
      DifferInFreeLabels mixedDeclaration (mixedExtension .positional) (mixedExtension .labeled) := by
  obtain ⟨positional, labeled, first, second, -, -, differ⟩ :=
    policy_decides_free_labels mixedDeclaration (.inr ⟨.pub, rfl⟩)
  obtain rfl := Except.ok.inj ((mixed_expansion .positional).symm.trans first)
  obtain rfl := Except.ok.inj ((mixed_expansion .labeled).symm.trans second)
  obtain ⟨extension, same, differs⟩ := differ _ rfl
  obtain rfl := Option.some.inj same
  have added : labelSize mixedArm.freeNames = 8 := by cbv
  have longer := differs.longer
  rw [show (mixedExtension .positional).arms = [mixedArm] from rfl, List.map_singleton, List.sum_singleton, added] at longer
  exact ⟨by cbv, by cbv, longer, differs⟩

end ScreenDispatch
