import Mathlib.Data.List.Nodup
import ScreenDispatch.Switch
import ScreenDispatch.Text.Identifier

/-!
The names that the pattern of a case binds. They are distinct if the declared names are, as long as none of
these is the numbered name of a value without a label.
-/
set_option autoImplicit false

namespace ScreenDispatch

def numberedName (index : Nat) : String := "param" ++ toString index

def Slot.declaredName? (slot : Slot) : Option String :=
  slot.label.map fun label =>
    match slot.name with
    | none => label
    | some name => if name = "" then label else name

structure DistinctlyDeclared (slots : List Slot) : Prop where
  labels : (slots.filterMap (·.label)).Nodup
  names : (slots.filterMap (·.name)).Nodup
  apart : ∀ name ∈ slots.filterMap (·.name), name ∉ slots.filterMap (·.label)

instance (slots : List Slot) : Decidable (DistinctlyDeclared slots) :=
  decidable_of_iff ((slots.filterMap (·.label)).Nodup ∧ (slots.filterMap (·.name)).Nodup ∧
      ∀ name ∈ slots.filterMap (·.name), name ∉ slots.filterMap (·.label))
    ⟨fun ⟨labels, names, apart⟩ => ⟨labels, names, apart⟩, fun ⟨labels, names, apart⟩ => ⟨labels, names, apart⟩⟩

theorem numbered_name_injective (i j : Nat) (same : numberedName i = numberedName j) : i = j := by
  have digits : Nat.toDigits 10 i = Nat.toDigits 10 j := by
    have texts := (String.append_right_inj "param").mp same
    simpa only [Nat.toString_eq_repr, Nat.toList_repr] using congrArg String.toList texts
  simpa using congrArg (fun cs => Nat.ofDigitChars 10 cs 0) digits

theorem numbered_identifier (index : Nat) : Text.isIdentifier (numberedName index).toList = true := by
  have digits : (toString index).toList.all Text.isIdentifierChar = true := by
    rw [Nat.toString_eq_repr, Nat.toList_repr, List.all_eq_true]
    intro c member
    have digit := Nat.isDigit_of_mem_toDigits (by decide) (by decide) member
    simp only [Text.isIdentifierChar, Bool.or_eq_true, Bool.and_eq_true, decide_eq_true_eq]
    simp only [Char.isDigit, Bool.and_eq_true, decide_eq_true_eq] at digit
    exact .inr digit
  have text : (numberedName index).toList = 'p' :: ("aram".toList ++ (toString index).toList) := by
    simp [numberedName]
  rw [text, Text.isIdentifier, List.all_append, digits]
  decide

def Slot.boundName (slot : Slot) (index : Nat) : String := slot.declaredName?.getD (numberedName index)

theorem parameter_name (index : Nat) (slot : Slot) : (slot.parameter index).name = slot.boundName index := by
  obtain ⟨label, name, type⟩ := slot
  cases label with
  | none => rfl
  | some label => cases name <;> rfl

theorem parameters_from_get (first i : Nat) (slots : List Slot) :
    (parametersFrom first slots)[i]? = slots[i]?.map fun slot => slot.parameter (first + i) := by
  induction slots generalizing first i with
  | nil => rfl
  | cons slot rest ih =>
      cases i with
      | zero => rfl
      | succ i =>
          rw [parametersFrom, List.getElem?_cons_succ, List.getElem?_cons_succ, ih]
          congr 2
          funext slot
          congr 1
          omega

theorem length_parameters_from (first : Nat) (slots : List Slot) :
    (parametersFrom first slots).length = slots.length := by
  induction slots generalizing first with
  | nil => rfl
  | cons slot rest ih => rw [parametersFrom, List.length_cons, List.length_cons, ih]

theorem slot_names {P : String → Prop} (numbered : ∀ index, P (numberedName index)) (index : Nat) (slot : Slot)
    (label : ∀ label ∈ slot.label, P label) (name : ∀ name ∈ slot.name, P name) :
    P (slot.parameter index).name ∧ ∀ label ∈ (slot.parameter index).label, P label := by
  obtain ⟨outer, inner, type⟩ := slot
  cases outer with
  | none => exact ⟨numbered index, nofun⟩
  | some outer =>
      cases inner with
      | none => exact ⟨label outer rfl, label⟩
      | some inner =>
          refine ⟨?_, label⟩
          simp only [Slot.parameter]
          split
          · exact label outer rfl
          · exact name inner rfl

theorem parameter_names {P : String → Prop} (numbered : ∀ index, P (numberedName index)) (first : Nat) (slots : List Slot)
    (labels : ∀ slot ∈ slots, ∀ label ∈ slot.label, P label) (names : ∀ slot ∈ slots, ∀ name ∈ slot.name, P name) :
    ∀ p ∈ parametersFrom first slots, P p.name ∧ ∀ label ∈ p.label, P label := by
  induction slots generalizing first with
  | nil => exact nofun
  | cons slot rest ih =>
      obtain ⟨label, others⟩ := List.forall_mem_cons.mp labels
      obtain ⟨name, more⟩ := List.forall_mem_cons.mp names
      exact List.forall_mem_cons.mpr ⟨slot_names numbered first slot label name, ih (first + 1) others more⟩

theorem binding_name_at (slots : List Slot) (i : Nat) :
    ((parameters slots).map (·.name))[i]? = slots[i]?.map fun slot => slot.boundName i := by
  rw [List.getElem?_map, parameters, parameters_from_get, Option.map_map]
  congr 1
  funext slot
  rw [Function.comp, parameter_name, Nat.zero_add]

theorem binding_names_nodup_iff (slots : List Slot) :
    ((parameters slots).map (·.name)).Nodup ↔ ∀ (i j : Nat) (a b : Slot), slots[i]? = some a →
      slots[j]? = some b → a.boundName i = b.boundName j → i = j := by
  have length : ((parameters slots).map (·.name)).length = slots.length := by
    rw [List.length_map, parameters, length_parameters_from]
  rw [List.nodup_iff_getElem?_ne_getElem?]
  constructor
  · intro distinct i j a b first second same
    have never (k l : Nat) (c d : Slot) (here : slots[k]? = some c) (there : slots[l]? = some d)
        (equal : c.boundName k = d.boundName l) : ¬ k < l := by
      intro less
      obtain ⟨bound, _⟩ := List.getElem?_eq_some_iff.mp there
      refine distinct k l less (length ▸ bound) ?_
      rw [binding_name_at, binding_name_at, here, there, Option.map_some, Option.map_some, equal]
    have below := never i j a b first second same
    have above := never j i b a second first same.symm
    omega
  · intro apart i j less bound same
    have inside : j < slots.length := length ▸ bound
    have within : i < slots.length := by omega
    rw [binding_name_at, binding_name_at, List.getElem?_eq_getElem inside, List.getElem?_eq_getElem within] at same
    have equal := apart i j _ _ (List.getElem?_eq_getElem within) (List.getElem?_eq_getElem inside)
      (Option.some.inj same)
    omega

theorem filter_map_apart {α : Type} (f : α → Option String) (xs : List α) (distinct : (xs.filterMap f).Nodup)
    (i j : Nat) (a b : α) (first : xs[i]? = some a) (second : xs[j]? = some b) (name : String)
    (left : f a = some name) (right : f b = some name) : i = j := by
  have pairs := List.pairwise_iff_getElem.mp (List.pairwise_filterMap.mp distinct)
  obtain ⟨inside, rfl⟩ := List.getElem?_eq_some_iff.mp first
  obtain ⟨within, rfl⟩ := List.getElem?_eq_some_iff.mp second
  obtain less | same | greater := Nat.lt_trichotomy i j
  · exact absurd rfl (pairs i j inside within less name left name right)
  · exact same
  · exact absurd rfl (pairs j i within inside greater name right name left)

theorem declared_name_cases (slot : Slot) (name : String) (declared : slot.declaredName? = some name) :
    slot.name = some name ∨ slot.label = some name := by
  obtain ⟨label, inner, type⟩ := slot
  cases label with
  | none => cases declared
  | some label =>
      cases inner with
      | none => exact .inr declared
      | some inner =>
          change some (if inner = "" then label else inner) = some name at declared
          split at declared
          · exact .inr declared
          · exact .inl declared

theorem declared_names_apart (slots : List Slot) (distinct : DistinctlyDeclared slots) (i j : Nat) (a b : Slot)
    (first : slots[i]? = some a) (second : slots[j]? = some b) (name : String)
    (left : a.declaredName? = some name) (right : b.declaredName? = some name) : i = j := by
  have mixed (c d : Slot) (k l : Nat) (here : slots[k]? = some c) (there : slots[l]? = some d)
      (inner : c.name = some name) (label : d.label = some name) : False :=
    distinct.apart name (List.mem_filterMap.mpr ⟨c, List.mem_of_getElem? here, inner⟩)
      (List.mem_filterMap.mpr ⟨d, List.mem_of_getElem? there, label⟩)
  obtain inner | label := declared_name_cases a name left
  · obtain other | label := declared_name_cases b name right
    · exact filter_map_apart _ slots distinct.names i j a b first second name inner other
    · exact (mixed a b i j first second inner label).elim
  · obtain inner | other := declared_name_cases b name right
    · exact (mixed b a j i second first inner label).elim
    · exact filter_map_apart _ slots distinct.labels i j a b first second name label other

def NoNumberedNameDeclared (slots : List Slot) : Prop :=
  ∀ (i : Nat) (slot : Slot), slots[i]? = some slot → slot.label = none →
    ∀ other ∈ slots, other.declaredName? ≠ some (numberedName i)

theorem bound_unlabeled (slot : Slot) (index : Nat) (unlabeled : slot.label = none) :
    slot.boundName index = numberedName index := by
  rw [Slot.boundName, Slot.declaredName?, unlabeled]
  rfl

theorem bound_declared (slot : Slot) (index : Nat) (name : String) (declared : slot.declaredName? = some name) :
    slot.boundName index = name := by
  rw [Slot.boundName, declared]
  rfl

theorem declared_name_none_iff (slot : Slot) : slot.declaredName? = none ↔ slot.label = none :=
  Option.map_eq_none_iff

theorem bound_names_apart (slots : List Slot) (distinct : DistinctlyDeclared slots)
    (free : NoNumberedNameDeclared slots) (i j : Nat) (a b : Slot) (first : slots[i]? = some a)
    (second : slots[j]? = some b) (same : a.boundName i = b.boundName j) : i = j := by
  cases left : a.declaredName? with
  | none =>
      have unlabeled := (declared_name_none_iff a).mp left
      rw [bound_unlabeled a i unlabeled] at same
      cases right : b.declaredName? with
      | none =>
          rw [bound_unlabeled b j ((declared_name_none_iff b).mp right)] at same
          exact numbered_name_injective i j same
      | some name =>
          rw [bound_declared b j name right] at same
          exact absurd (same ▸ right) (free i a first unlabeled b (List.mem_of_getElem? second))
  | some name =>
      rw [bound_declared a i name left] at same
      cases right : b.declaredName? with
      | none =>
          have unlabeled := (declared_name_none_iff b).mp right
          rw [bound_unlabeled b j unlabeled] at same
          exact absurd (same ▸ left) (free j b second unlabeled a (List.mem_of_getElem? first))
      | some other =>
          rw [bound_declared b j other right] at same
          exact declared_names_apart slots distinct i j a b first second name left (same ▸ right)

theorem numbered_name_free (slots : List Slot)
    (apart : ∀ (i j : Nat) (a b : Slot), slots[i]? = some a → slots[j]? = some b →
      a.boundName i = b.boundName j → i = j) : NoNumberedNameDeclared slots := by
  intro i slot here unlabeled other present declared
  obtain ⟨j, bound, rfl⟩ := List.getElem_of_mem present
  have there := List.getElem?_eq_getElem bound
  have same := apart i j slot _ here there (by rw [bound_unlabeled slot i unlabeled, bound_declared _ j _ declared])
  rw [same, there, Option.some_inj] at here
  rw [here, (declared_name_none_iff slot).mpr unlabeled] at declared
  cases declared

theorem argument_values (parameters : List Parameter) (mapping : Mapping) (policy : UnlabeledPolicy) :
    (arguments parameters mapping policy).map (·.value) = parameters.map (·.name) := by
  rw [arguments, List.map_map]
  rfl

/-- The arguments refer to the names that the pattern binds, in order. Where the declared names of a case are
distinct, no name is bound twice exactly if none of them is the numbered name of a value without a label. -/
theorem bound_names_distinct_iff (slots : List Slot) (distinct : DistinctlyDeclared slots) :
    (∀ mapping policy, (arguments (parameters slots) mapping policy).map (·.value) =
      (parameters slots).map (·.name)) ∧
    (((parameters slots).map (·.name)).Nodup ↔ NoNumberedNameDeclared slots) := by
  refine ⟨argument_values (parameters slots), ?_⟩
  rw [binding_names_nodup_iff]
  exact ⟨numbered_name_free slots, bound_names_apart slots distinct⟩

def shiftedSlots : List Slot :=
  [⟨some "param0", none, "Int"⟩, ⟨none, some "unused", "Int"⟩, ⟨some "id", some "param2", "Int"⟩]

theorem shifted_names_distinct :
    DistinctlyDeclared shiftedSlots ∧ NoNumberedNameDeclared shiftedSlots ∧
      ((parameters shiftedSlots).map (·.name)).Nodup := by
  have distinct : DistinctlyDeclared shiftedSlots := by decide
  have bound : ((parameters shiftedSlots).map (·.name)).Nodup := by decide
  have exactly := (bound_names_distinct_iff shiftedSlots distinct).2
  exact ⟨distinct, exactly.mp bound, bound⟩

def numberedLabelSlots : List Slot := [⟨some "param1", none, "Int"⟩, ⟨none, none, "Int"⟩]

theorem numbered_label_bound_twice :
    DistinctlyDeclared numberedLabelSlots ∧ ¬ ((parameters numberedLabelSlots).map (·.name)).Nodup ∧
      (⟨"detail", "Detail", parameters numberedLabelSlots, .empty, true⟩ : Arm).pattern =
        ".detail(param1: let param1, let param1)" ∧
      (⟨"detail", "Detail", parameters numberedLabelSlots, .empty, true⟩ : Arm).initializer .positional =
        "Detail(param1: param1, param1)" := by
  decide

end ScreenDispatch
