import Mathlib
import ScreenDispatch.Proofs.ExpansionForms
import ScreenDispatch.Switch

/-!
Which entries of a mapping count. A key that is warned about has no influence on what is generated for a
case, and every other key labels the arguments of the parameters that have it.
-/
set_option autoImplicit false

namespace ScreenDispatch

namespace Mapping

def without (m : Mapping) (keys : List String) : Mapping :=
  ⟨m.entries.filter fun entry => !keys.contains entry.1, (List.filter_sublist.map Prod.fst).nodup m.nodup⟩

def revalued (m : Mapping) (keys : List String) (value : String → String) : Mapping :=
  ⟨m.entries.map fun entry => if keys.contains entry.1 then (entry.1, value entry.1) else entry, by
    have same : Prod.fst ∘ (fun entry : String × String =>
        if keys.contains entry.1 then (entry.1, value entry.1) else entry) = Prod.fst := by
      funext entry
      dsimp only [Function.comp]
      split <;> rfl
    rw [List.map_map, same]
    exact m.nodup⟩

theorem get_without (m : Mapping) (keys : List String) (key : String) :
    (m.without keys).get? key = if key ∈ keys then none else m.get? key := by
  unfold get? without
  dsimp only
  induction m.entries with
  | nil => simp
  | cons entry rest ih =>
      obtain ⟨name, value⟩ := entry
      rw [List.filter_cons, List.lookup_cons]
      dsimp only
      by_cases listed : name ∈ keys
      · rw [if_neg (by simpa using listed), ih]
        by_cases same : key = name
        · rw [same, if_pos listed, if_pos listed]
        · rw [beq_false_of_ne same]
      · rw [if_pos (by simpa using listed), List.lookup_cons, ih]
        by_cases same : key = name
        · rw [same, if_neg listed, if_neg listed, beq_self_eq_true]
        · rw [beq_false_of_ne same]

theorem get_revalued_other (m : Mapping) (keys : List String) (value : String → String) (key : String)
    (other : key ∉ keys) : (m.revalued keys value).get? key = m.get? key := by
  unfold get? revalued
  dsimp only
  induction m.entries with
  | nil => rfl
  | cons entry rest ih =>
      obtain ⟨name, old⟩ := entry
      rw [List.map_cons, List.lookup_cons]
      dsimp only
      by_cases listed : name ∈ keys
      · have different : key ≠ name := fun same => other (same ▸ listed)
        rw [if_pos (by simpa using listed), List.lookup_cons, ih, beq_false_of_ne different]
      · rw [if_neg (by simpa using listed), List.lookup_cons, ih]

theorem contains_iff_get (m : Mapping) (key : String) : m.contains key = (m.get? key).isSome := by
  unfold contains keys get?
  induction m.entries with
  | nil => rfl
  | cons entry rest ih =>
      obtain ⟨name, value⟩ := entry
      rw [List.map_cons, List.contains_cons, List.lookup_cons, ih]
      cases key == name <;> rfl

end Mapping

def listedKeys : Option Diagnostic → List String
  | some ⟨.unusedKeys keys _, _⟩ => keys
  | _ => []

theorem listed_unused_keys (mapping : Mapping) (parameters : List Parameter) (caseName : String) (anchor : Anchor) :
    listedKeys (unusedKeysWarning mapping parameters caseName anchor) = unusedKeys mapping parameters := by
  unfold unusedKeysWarning
  split
  · rename_i empty
    rw [empty]
    rfl
  · rfl

def Arm.withMapping (arm : Arm) (mapping : Mapping) : Arm := { arm with mapping := mapping }

structure SameUse (arm other : Arm) (policy : UnlabeledPolicy) : Prop where
  arguments : arguments other.parameters other.mapping policy = arguments arm.parameters arm.mapping policy
  pattern : other.pattern = arm.pattern
  initializer : other.initializer policy = arm.initializer policy
  remapped : other.remapped = arm.remapped

theorem same_use_of_agree (arm : Arm) (mapping : Mapping) (policy : UnlabeledPolicy)
    (agree : ∀ p ∈ arm.parameters, mapping.get? p.sourceKey = arm.mapping.get? p.sourceKey) :
    SameUse arm (arm.withMapping mapping) policy := by
  have given : arguments arm.parameters mapping policy = arguments arm.parameters arm.mapping policy := by
    refine List.map_congr_left fun p present => ?_
    rw [Parameter.argument, Parameter.argument, targetLabel, targetLabel, agree p present]
  refine ⟨given, rfl, ?_, ?_⟩
  · change arm.viewType ++ "(" ++ String.intercalate ", " ((arguments arm.parameters mapping policy).map _) ++ ")" = _
    rw [given]
    rfl
  · refine List.countP_congr fun p present => ?_
    change mapping.contains p.sourceKey = true ↔ _
    rw [Mapping.contains_iff_get, Mapping.contains_iff_get, agree p present]

theorem argument_of_mapped (mapping : Mapping) (policy : UnlabeledPolicy) (p : Parameter) (label : String)
    (mapped : mapping.get? p.sourceKey = some label) :
    p.argument mapping policy = ⟨if label = "_" then none else some label, p.name⟩ := by
  rw [Parameter.argument, targetLabel, mapped]

theorem remapped_without_key (arm : Arm) (key label : String) (mapped : arm.mapping.get? key = some label) :
    (arm.withMapping (arm.mapping.without [key])).remapped + arm.parameters.countP (·.sourceKey == key) =
      arm.remapped := by
  unfold Arm.remapped Arm.withMapping
  dsimp only
  induction arm.parameters with
  | nil => rfl
  | cons p rest ih =>
      rw [List.countP_cons, List.countP_cons, List.countP_cons, ← ih, Mapping.contains_iff_get,
        Mapping.contains_iff_get, Mapping.get_without]
      by_cases same : p.sourceKey = key
      · simp [same, mapped]
        omega
      · simp [same]
        omega

theorem used_key_of_unlisted (mapping : Mapping) (parameters : List Parameter) (key label : String)
    (mapped : mapping.get? key = some label) (unlisted : key ∉ unusedKeys mapping parameters) :
    ∃ p ∈ parameters, p.sourceKey = key := by
  have present : key ∈ mapping.keys := by
    rw [← List.contains_iff_mem, ← Mapping.contains, Mapping.contains_iff_get, mapped]
    rfl
  by_contra unused
  refine unlisted ((mem_unused_keys mapping parameters key).mpr ⟨present, fun p member same => ?_⟩)
  exact unused ⟨p, member, same⟩

def Arm.listed (arm : Arm) (anchor : Anchor) : List String :=
  listedKeys (unusedKeysWarning arm.mapping arm.parameters arm.caseName anchor)

/-- The keys that are warned about are those of no parameter, and without them or with other values for them
all is as before; every other key labels the arguments of all parameters that have it. -/
theorem mapping_used_as_listed (arm : Arm) (policy : UnlabeledPolicy) (anchor : Anchor) :
    ((arm.listed anchor).Pairwise (· ≤ ·) ∧ (arm.listed anchor).Nodup ∧
      ∀ key, key ∈ arm.listed anchor ↔ key ∈ arm.mapping.keys ∧ ∀ p ∈ arm.parameters, p.sourceKey ≠ key) ∧
    SameUse arm (arm.withMapping (arm.mapping.without (arm.listed anchor))) policy ∧
    (∀ value, SameUse arm (arm.withMapping (arm.mapping.revalued (arm.listed anchor) value)) policy) ∧
    ∀ key label, arm.mapping.get? key = some label → key ∉ arm.listed anchor →
      (∃ p ∈ arm.parameters, p.sourceKey = key) ∧
      (∀ (i : Nat) (p : Parameter), arm.parameters[i]? = some p → p.sourceKey = key → ∀ either,
        (arguments arm.parameters arm.mapping either)[i]? =
          some ⟨if label = "_" then none else some label, p.name⟩) ∧
      (arm.withMapping (arm.mapping.without [key])).remapped + arm.parameters.countP (·.sourceKey == key) =
        arm.remapped := by
  have same : arm.listed anchor = unusedKeys arm.mapping arm.parameters := listed_unused_keys _ _ _ anchor
  have members := mem_unused_keys arm.mapping arm.parameters
  have outside (p : Parameter) (present : p ∈ arm.parameters) :
      p.sourceKey ∉ unusedKeys arm.mapping arm.parameters :=
    fun unused => ((members p.sourceKey).mp unused).2 p present rfl
  rw [same]
  refine ⟨⟨unused_keys_sorted _ _, unused_keys_nodup _ _, members⟩, ?_, fun value => ?_,
    fun key label mapped unlisted => ⟨?_, fun i p here source either => ?_, ?_⟩⟩
  · refine same_use_of_agree arm _ policy fun p present => ?_
    rw [Mapping.get_without, if_neg (outside p present)]
  · exact same_use_of_agree arm _ policy fun p present =>
      Mapping.get_revalued_other arm.mapping _ value p.sourceKey (outside p present)
  · exact used_key_of_unlisted arm.mapping arm.parameters key label mapped unlisted
  · rw [arguments, List.getElem?_map, here, Option.map_some,
      argument_of_mapped arm.mapping either p label (source ▸ mapped)]
  · exact remapped_without_key arm key label mapped

def sharedKeyArm : Arm :=
  ⟨"detail", "DetailView", [⟨some "id", "id"⟩, ⟨none, "param1"⟩, ⟨some "id", "other"⟩],
    .ofList [("typo", "x"), ("id", "detailId"), ("param1", "_")], false⟩

theorem shared_key_used_as_listed :
    sharedKeyArm.listed ⟨"ScreenID", some "detail"⟩ = ["typo"] ∧
      sharedKeyArm.mapping.get? "id" = some "detailId" ∧
      SameUse sharedKeyArm (sharedKeyArm.withMapping (sharedKeyArm.mapping.without ["typo"])) .labeled ∧
      (arguments sharedKeyArm.parameters sharedKeyArm.mapping .positional)[2]? = some ⟨some "detailId", "other"⟩ ∧
      (sharedKeyArm.withMapping (sharedKeyArm.mapping.without ["id"])).remapped + 2 = sharedKeyArm.remapped := by
  have listed : sharedKeyArm.listed ⟨"ScreenID", some "detail"⟩ = ["typo"] := by cbv
  obtain ⟨_, deleted, _, used⟩ := mapping_used_as_listed sharedKeyArm .labeled ⟨"ScreenID", some "detail"⟩
  rw [listed] at deleted used
  obtain ⟨_, labelled, fewer⟩ := used "id" "detailId" (by decide) (by decide)
  exact ⟨listed, by decide, deleted, labelled 2 ⟨some "id", "other"⟩ rfl rfl .positional, fewer⟩

end ScreenDispatch
