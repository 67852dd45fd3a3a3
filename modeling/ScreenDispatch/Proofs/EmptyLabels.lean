import ScreenDispatch.Proofs.LineStructure
import ScreenDispatch.Proofs.MappingOrder

/-!
Labels of the arguments of an initializer. An argument has a label with something in it or none at all, unless a mapping
gives an empty text for its parameter: this is taken for a label.
-/
set_option autoImplicit false

namespace ScreenDispatch

def Case.mappingEntries (c : Case) : List (Expr String × Expr String) :=
  match screenArguments c.attributes with
  | .dictionary _ entries :: _ => entries
  | _ :: .dictionary _ entries :: _ => entries
  | _ => []

def LastEntry (entries : List (Expr String × Expr String)) (key : String) (value : Expr String) : Prop :=
  ∃ before k after, entries = before ++ (k, value) :: after ∧ k.segment? = some key ∧ value.segment?.isSome = true ∧
    ∀ entry ∈ after, entry.1.segment? = some key → entry.2.segment? = none

def Blanks (entries : List (Expr String × Expr String)) (key : String) : Prop :=
  ∃ source, LastEntry entries key (.string source "")

structure Passes (entries : List (Expr String × Expr String)) (p : Parameter) (a : Argument) : Prop where
  value : a.value = p.name
  shown : (a.label = none ∧ a.render = p.name) ∨ ∃ label, a.label = some label ∧ a.render = label ++ ": " ++ p.name
  empty : a.label = some "" ↔ Blanks entries p.sourceKey

theorem leading_segment_empty_iff (value : String) : Expr.leadingSegment value = some "" ↔ value = "" := by
  constructor
  · intro leading
    unfold Expr.leadingSegment at leading
    split at leading
    · exact Option.some.inj leading
    · cases leading
    · rename_i n start
      have front := String.ofList_eq_empty_iff.mp (Option.some.inj leading)
      rw [List.take_eq_nil_iff] at front
      obtain never | letters := front
      · cases never
      · exact String.toList_eq_nil_iff.mp letters
  · rintro rfl
    rfl

theorem segment_empty_iff (e : Expr String) : e.segment? = some "" ↔ ∃ source, e = .string source "" := by
  cases e with
  | string source value =>
      rw [Expr.segment?, leading_segment_empty_iff]
      simp
  | _ => simp [Expr.segment?]

theorem get_of_entries_append (entries : List (Expr String × Expr String)) (k v : Expr String) (key : String) :
    (Mapping.ofEntries (entries ++ [(k, v)])).get? key =
      if k.segment? = some key ∧ v.segment?.isSome = true then v.segment? else (Mapping.ofEntries entries).get? key := by
  simp only [Mapping.ofEntries, List.filterMap_append]
  rcases named : k.segment? with _ | name
  · simp [named]
  · rcases told : v.segment? with _ | value
    · simp [named, told]
    · simp only [List.filterMap_cons, List.filterMap_nil, named, told, Mapping.of_list_append, Mapping.get_insert,
        Option.some.injEq, Option.isSome_some, and_true, eq_comm]

theorem last_entry_append (entries : List (Expr String × Expr String)) (k v : Expr String) (key : String)
    (value : Expr String) :
    LastEntry (entries ++ [(k, v)]) key value ↔
      if k.segment? = some key ∧ v.segment?.isSome = true then value = v else LastEntry entries key value := by
  constructor
  · rintro ⟨before, other, after, split, named, told, others⟩
    obtain rfl | ⟨front, last, rfl⟩ := List.eq_nil_or_concat' after
    · obtain ⟨-, same⟩ := List.append_inj' split rfl
      obtain ⟨rfl, rfl⟩ := Prod.mk.inj (List.cons.inj same).1
      rw [if_pos ⟨named, told⟩]
    · rw [← List.cons_append, ← List.append_assoc] at split
      obtain ⟨rfl, same⟩ := List.append_inj' split rfl
      have passed := others (k, v) (by simp [(List.cons.inj same).1])
      rw [if_neg fun counts => by simp [passed counts.1] at counts]
      exact ⟨before, other, front, rfl, named, told, fun entry inside => others entry (List.mem_append_left _ inside)⟩
  · by_cases counts : k.segment? = some key ∧ v.segment?.isSome = true
    · rw [if_pos counts]
      rintro rfl
      exact ⟨entries, k, [], rfl, counts.1, counts.2, nofun⟩
    · rw [if_neg counts]
      rintro ⟨before, other, after, rfl, named, told, others⟩
      refine ⟨before, other, after ++ [(k, v)], by simp, named, told, fun entry inside same => ?_⟩
      obtain earlier | last := List.mem_append.mp inside
      · exact others entry earlier same
      · obtain rfl := List.mem_singleton.mp last
        exact Option.not_isSome_iff_eq_none.mp fun text => counts ⟨same, text⟩

theorem get_of_entries_iff (entries : List (Expr String × Expr String)) (key label : String) :
    (Mapping.ofEntries entries).get? key = some label ↔
      ∃ value, LastEntry entries key value ∧ value.segment? = some label := by
  induction entries using List.reverseRec with
  | nil =>
      refine iff_of_false nofun ?_
      rintro ⟨value, ⟨before, k, after, split, -⟩, -⟩
      exact absurd split (by simp)
  | append_singleton front last ih =>
      obtain ⟨k, v⟩ := last
      rw [get_of_entries_append]
      simp only [last_entry_append]
      by_cases counts : k.segment? = some key ∧ v.segment?.isSome = true
      · simp only [if_pos counts, exists_eq_left]
      · simp only [if_neg counts]
        exact ih

theorem blanks_iff (entries : List (Expr String × Expr String)) (key : String) :
    Blanks entries key ↔ (Mapping.ofEntries entries).get? key = some "" := by
  rw [get_of_entries_iff]
  constructor
  · rintro ⟨source, last⟩
    exact ⟨_, last, (segment_empty_iff _).mpr ⟨source, rfl⟩⟩
  · rintro ⟨value, last, empty⟩
    obtain ⟨source, rfl⟩ := (segment_empty_iff value).mp empty
    exact ⟨source, last⟩

theorem resolved_mapping (c : Case) (screen : Screen) (resolved : Screen.resolve c.attributes c.name = .ok screen) :
    screen.mapping = .ofEntries c.mappingEntries := by
  rw [resolve_arguments] at resolved
  have comes := (comes_to_iff _ _ _).mpr resolved
  rw [Case.mappingEntries]
  generalize screenArguments c.attributes = given at comes
  cases comes with
  | inferred => rfl
  | mapped => rfl
  | typed first viewType named => cases named <;> rfl
  | typedAndMapped first viewType source entries others named => cases named <;> rfl

theorem target_label_empty_iff (mapping : Mapping) (policy : UnlabeledPolicy) (p : Parameter) (filled : p.sourceKey ≠ "") :
    targetLabel mapping policy p = "" ↔ mapping.get? p.sourceKey = some "" := by
  rw [targetLabel]
  cases mapping.get? p.sourceKey with
  | some label => simp
  | none =>
      simp only [reduceCtorEq, iff_false]
      split
      · decide
      · exact filled

theorem argument_passes (entries : List (Expr String × Expr String)) (policy : UnlabeledPolicy) (p : Parameter)
    (filled : p.sourceKey ≠ "") : Passes entries p (p.argument (.ofEntries entries) policy) := by
  refine ⟨rfl, ?_, ?_⟩
  · rw [Parameter.argument]
    by_cases bare : targetLabel (.ofEntries entries) policy p = "_"
    · exact .inl ⟨if_pos bare, by rw [if_pos bare]; rfl⟩
    · exact .inr ⟨_, if_neg bare, by rw [if_neg bare]; rfl⟩
  · rw [blanks_iff, ← target_label_empty_iff _ policy p filled]
    simp only [Parameter.argument, Option.ite_none_left_eq_some, Option.some.injEq]
    exact ⟨And.right, fun empty => ⟨by simp [empty], empty⟩⟩

theorem given_filled (value setting : Option String) (stripped : StrippedIfGiven value setting) :
    ∀ text ∈ setting, text ≠ "" := by
  rintro text rfl
  exact stripped.1

theorem parameters_filled (group member : Markup.Element) (c : Case) (read : CaseOf group member c) :
    ∀ p ∈ c.parameters, p.name ≠ "" ∧ p.sourceKey ≠ "" := by
  have numbered (index : Nat) : numberedName index ≠ "" := Text.identifier_filled _ (numbered_identifier index)
  have slots (slot : Slot) (inside : slot ∈ c.slots) : ∃ e, SlotOf e slot := by
    obtain ⟨e, -, told⟩ := forall₂_source _ _ read.slots slot inside
    exact ⟨e, told⟩
  intro p inside
  obtain ⟨name, label⟩ := parameter_names numbered 0 c.slots
    (fun slot among => by
      obtain ⟨e, told⟩ := slots slot among
      exact given_filled _ _ told.label)
    (fun slot among => by
      obtain ⟨e, told⟩ := slots slot among
      exact given_filled _ _ told.name) p inside
  refine ⟨name, ?_⟩
  rw [Parameter.sourceKey]
  cases given : p.label with
  | none => exact name
  | some own => exact label own given

structure PassesAll (policy : UnlabeledPolicy) (c : Case) (arm : Arm) : Prop where
  parameters : arm.parameters = c.parameters
  names : ∀ p ∈ arm.parameters, p.name ≠ ""
  arguments : List.Forall₂ (Passes c.mappingEntries) arm.parameters (arguments arm.parameters arm.mapping policy)

theorem contribution_passes (declaration : String) (policy : UnlabeledPolicy) (c : Case) (r : ResolvedCase)
    (contributed : ContributionOf declaration c r) (filled : ∀ p ∈ c.parameters, p.name ≠ "" ∧ p.sourceKey ≠ "") :
    PassesAll policy c r.arm := by
  obtain ⟨screen, resolved, same, -⟩ := contributed
  rw [same]
  refine ⟨rfl, fun p inside => (filled p inside).1, ?_⟩
  rw [resolved_mapping c screen resolved, arguments, List.forall₂_map_right_iff, List.forall₂_same]
  exact fun p inside => argument_passes c.mappingEntries policy p (filled p inside).2

/-- Each argument is passed by the name of its parameter or behind a label, and the label is empty exactly if the last
entry of the mapping for the parameter has an empty literal as its value. -/
theorem empty_labels_from_empty_literals (root : Markup.Element) (schema : Schema)
    (accepted : Schema.ofElement root = .ok schema) (d : Declaration) (declared : d ∈ schema.declarations)
    (policy : UnlabeledPolicy) (x : Extension) (expands : d.extension? policy = some x) :
    List.Forall₂ (PassesAll policy) d.cases x.arms := by
  have read := (schema_ok_iff root schema).mp accepted
  obtain ⟨e, -, declares⟩ := forall₂_source _ _ read.declarations d declared
  have filled (c : Case) (among : c ∈ d.cases) : ∀ p ∈ c.parameters, p.name ≠ "" ∧ p.sourceKey ≠ "" := by
    obtain ⟨place, -, told⟩ := forall₂_source _ _ declares.cases c among
    exact parameters_filled place.1 place.2 c told
  obtain ⟨found, modifier, each, -, rfl⟩ := extension_rendered d policy x expands
  refine List.forall₂_map_right_iff.mpr (((List.forall₂_and_left _ _).mpr ⟨filled, each⟩).imp ?_)
  exact fun c r ⟨keys, contributed⟩ => contribution_passes d.name policy c r contributed keys

def idEntry (value : String) : Expr String × Expr String := (.string "\"id\"" "id", .string ("\"" ++ value ++ "\"") value)

def mappedDeclaration (source : String) (entries : List (Expr String × Expr String)) : Declaration :=
  screenDeclaration (screenCase "detail" "id" "id" (.dictionary source entries))

def mappedArm (label : String) : Arm := ⟨"detail", "Detail", [⟨some "id", "id"⟩], .ofList [("id", label)], true⟩

def refilledSource : String := "[\"id\": \"\", \"id\": \"key\"]"

def refilledDeclaration : Declaration := mappedDeclaration refilledSource [idEntry "", idEntry "key"]

theorem refilled_label_passes :
    ∃ schema x, Schema.ofElement (screenRoot "1" "detail" "id" "id" refilledSource) = .ok schema ∧
      schema.declarations = [refilledDeclaration] ∧ refilledDeclaration.extension? .positional = some x ∧
      List.Forall₂ (PassesAll .positional) refilledDeclaration.cases x.arms ∧
      ¬ Blanks [idEntry "", idEntry "key"] "id" := by
  have accepted : Schema.ofElement (screenRoot "1" "detail" "id" "id" refilledSource) =
      .ok ⟨"1", [refilledDeclaration]⟩ := by cbv
  have expands : refilledDeclaration.extension? .positional =
      some (refilledDeclaration.extensionOf .positional "" [mappedArm "key"]) := by decide +kernel
  have passes := empty_labels_from_empty_literals _ _ accepted refilledDeclaration List.mem_cons_self _ _ expands
  refine ⟨_, _, accepted, rfl, expands, passes, ?_⟩
  obtain ⟨all, -⟩ := List.forall₂_cons.mp passes
  obtain ⟨first, -⟩ := List.forall₂_cons.mp all.arguments
  exact fun blanks => absurd (first.empty.mpr blanks) (by decide)

def blankSource : String := "[\"id\": \"\"]"

def blankDeclaration : Declaration := mappedDeclaration blankSource [idEntry ""]

theorem blank_label_rendered :
    Schema.ofElement (screenRoot "1" "detail" "id" "id" blankSource) = .ok ⟨"1", [blankDeclaration]⟩ ∧
      blankDeclaration.extension? .positional =
        some (blankDeclaration.extensionOf .positional "" [mappedArm ""]) ∧
      arguments (mappedArm "").parameters (mappedArm "").mapping .positional = [⟨some "", "id"⟩] ∧
      (mappedArm "").initializer .positional = "Detail(: id)" := by
  refine ⟨by cbv, ?_, ?_, ?_⟩
  · decide +kernel
  · decide
  · decide

end ScreenDispatch
