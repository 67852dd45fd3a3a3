import ScreenDispatch.Proofs.DeclarationDetails
import ScreenDispatch.Proofs.RepeatedRuns

/-!
Groups of cases taken apart. The document in which every member of a group is a case of its own, with the attributes
of the group, is read to the same schema, and the runs over the two documents come to the same.
-/
set_option autoImplicit false

namespace ScreenDispatch

namespace Markup.Element

-- A group without a name of its own; one that has a name is refused, whole or taken apart.
def isUnnamedGroup (e : Element) : Bool :=
  e.tag == "case" && !(e.childrenNamed "element").isEmpty && (e.get? "name").isNone

def standingAlone (group member : Element) : Element :=
  .node "case" ((member.get? "name").toList.map ("name", ·)) none
    (group.childrenNamed "attribute" ++ member.childrenNamed "param")

def takenApart (inside : Bool) (e : Element) : List Element :=
  if inside && e.isUnnamedGroup then (e.childrenNamed "element").map e.standingAlone else [e]

mutual

-- What an element is replaced by; `inside` says that there is a declaration around it.
def ungroup (inside : Bool) : Element → List Element
  | .node tag attributes text children =>
      takenApart inside (.node tag attributes text (ungroupAll (inside || tag == "declaration") children))

def ungroupAll (inside : Bool) : List Element → List Element
  | [] => []
  | e :: rest => ungroup inside e ++ ungroupAll inside rest

end

def settled (inside : Bool) (e : Element) : Element :=
  .node e.tag e.attributes e.text (ungroupAll (inside || e.tag == "declaration") e.children)

def ungrouped (root : Element) : Element := root.settled false

theorem ungroup_eq (inside : Bool) (e : Element) : ungroup inside e = takenApart inside (e.settled inside) := by
  cases e
  rfl

theorem ungroup_named (inside : Bool) (e : Element) (tag : String) (other : tag ≠ "case") :
    (ungroup inside e).filter (·.tag == tag) = if e.tag == tag then [e.settled inside] else [] := by
  rw [ungroup_eq, takenApart]
  split
  · rename_i group
    have own : (e.settled inside).tag = "case" := by
      simp only [isUnnamedGroup, Bool.and_eq_true, beq_iff_eq] at group
      exact group.2.1.1
    have none : (e.tag == tag) = false := beq_eq_false_iff_ne.mpr fun same => other (same.symm.trans own)
    rw [none, if_neg Bool.false_ne_true, List.filter_eq_nil_iff]
    intro alone member
    obtain ⟨m, -, rfl⟩ := List.mem_map.mp member
    exact fun same => other (beq_iff_eq.mp same).symm
  · rw [List.filter_singleton, cond_eq_ite]
    rfl

theorem children_settled (inside : Bool) (e : Element) (tag : String) (other : tag ≠ "case") :
    (e.settled inside).childrenNamed tag =
      (e.childrenNamed tag).map (settled (inside || e.tag == "declaration")) := by
  change (ungroupAll (inside || e.tag == "declaration") e.children).filter (·.tag == tag) =
    (e.children.filter (·.tag == tag)).map (settled (inside || e.tag == "declaration"))
  induction e.children with
  | nil => rfl
  | cons child rest ih =>
      rw [ungroupAll, List.filter_append, ih, ungroup_named _ child tag other, List.filter_cons]
      split <;> rfl

theorem ungroup_cases (inside : Bool) (e : Element) :
    (ungroup inside e).filter (·.tag == "case") = if e.tag == "case" then ungroup inside e else [] := by
  rw [ungroup_eq, takenApart]
  split
  · rename_i group
    have own : (e.tag == "case") = true := by
      simp only [isUnnamedGroup, Bool.and_eq_true] at group
      exact group.2.1.1
    rw [own, if_pos rfl, List.filter_eq_self]
    intro alone member
    obtain ⟨m, -, rfl⟩ := List.mem_map.mp member
    rfl
  · rw [List.filter_singleton, cond_eq_ite]
    rfl

theorem cases_settled (inside : Bool) (e : Element) (declaration : e.tag = "declaration") :
    (e.settled inside).childrenNamed "case" = (e.childrenNamed "case").flatMap (ungroup true) := by
  have below : (inside || e.tag == "declaration") = true := by rw [declaration]; exact Bool.or_true inside
  change (ungroupAll (inside || e.tag == "declaration") e.children).filter (·.tag == "case") =
    (e.children.filter (·.tag == "case")).flatMap (ungroup true)
  rw [below]
  induction e.children with
  | nil => rfl
  | cons child rest ih =>
      rw [ungroupAll, List.filter_append, ih, ungroup_cases, List.filter_cons]
      split
      · rw [List.flatMap_cons]
      · rfl

theorem named_own (e : Element) (tag : String) : (e.childrenNamed tag).filter (·.tag == tag) = e.childrenNamed tag := by
  rw [childrenNamed, List.filter_filter]
  simp only [Bool.and_self]

theorem named_other (e : Element) (tag other : String) (differ : tag ≠ other) :
    (e.childrenNamed tag).filter (·.tag == other) = [] := by
  rw [List.filter_eq_nil_iff]
  intro child member same
  exact differ ((beq_iff_eq.mp (List.mem_filter.mp member).2).symm.trans (beq_iff_eq.mp same))

theorem alone_name (group member : Element) : (group.standingAlone member).get? "name" = member.get? "name" := by
  change ((member.get? "name").toList.map ("name", ·)).lookup "name" = member.get? "name"
  cases member.get? "name" <;> rfl

theorem alone_children (group member : Element) (tag : String) :
    (group.standingAlone member).childrenNamed tag = (group.childrenNamed "attribute").filter (·.tag == tag) ++
      (member.childrenNamed "param").filter (·.tag == tag) :=
  List.filter_append ..

theorem alone_attributes (group member : Element) :
    (group.standingAlone member).childrenNamed "attribute" = group.childrenNamed "attribute" := by
  rw [alone_children, named_own, named_other _ _ _ (by decide), List.append_nil]

theorem alone_params (group member : Element) :
    (group.standingAlone member).childrenNamed "param" = member.childrenNamed "param" := by
  rw [alone_children, named_own, named_other _ _ _ (by decide), List.nil_append]

theorem alone_elements (group member : Element) : (group.standingAlone member).childrenNamed "element" = [] := by
  rw [alone_children, named_other _ _ _ (by decide), named_other _ _ _ (by decide), List.nil_append]

end Markup.Element

open Markup (Element)

section Settled

variable (inside : Bool)

theorem argument_settled_iff (e : Element) (argument : Expr String) :
    ArgumentOf (e.settled inside) argument ↔ ArgumentOf e argument := Iff.rfl

theorem slot_settled_iff (e : Element) (slot : Slot) : SlotOf (e.settled inside) slot ↔ SlotOf e slot :=
  ⟨fun ⟨type, label, name⟩ => ⟨type, label, name⟩, fun ⟨type, label, name⟩ => ⟨type, label, name⟩⟩

theorem forall₂_settled_iff {β : Type} {R : Element → β → Prop} (same : ∀ i e b, R (e.settled i) b ↔ R e b)
    (es : List Element) (bs : List β) : List.Forall₂ R (es.map (·.settled inside)) bs ↔ List.Forall₂ R es bs := by
  rw [List.forall₂_map_left_iff]
  simp only [same]

theorem attribute_settled_iff (e : Element) (a : Attribute) : AttributeOf (e.settled inside) a ↔ AttributeOf e a := by
  have arguments : List.Forall₂ ArgumentOf ((e.settled inside).childrenNamed "arg") a.arguments ↔
      List.Forall₂ ArgumentOf (e.childrenNamed "arg") a.arguments := by
    rw [Element.children_settled _ _ _ (by decide), forall₂_settled_iff _ argument_settled_iff]
  exact ⟨fun ⟨name, each⟩ => ⟨name, arguments.mp each⟩, fun ⟨name, each⟩ => ⟨name, arguments.mpr each⟩⟩

theorem member_settled_iff (e : Element) (c : Case) : MemberOf (e.settled inside) c ↔ MemberOf e c := by
  have slots : List.Forall₂ SlotOf ((e.settled inside).childrenNamed "param") c.slots ↔
      List.Forall₂ SlotOf (e.childrenNamed "param") c.slots := by
    rw [Element.children_settled _ _ _ (by decide), forall₂_settled_iff _ slot_settled_iff]
  exact ⟨fun ⟨name, each⟩ => ⟨name, slots.mp each⟩, fun ⟨name, each⟩ => ⟨name, slots.mpr each⟩⟩

theorem case_settled_iff (within : Bool) (group member : Element) (c : Case) :
    CaseOf (group.settled inside) (member.settled within) c ↔ CaseOf group member c := by
  have attributes : List.Forall₂ AttributeOf ((group.settled inside).childrenNamed "attribute") c.attributes ↔
      List.Forall₂ AttributeOf (group.childrenNamed "attribute") c.attributes := by
    rw [Element.children_settled _ _ _ (by decide), forall₂_settled_iff _ attribute_settled_iff]
  exact ⟨fun ⟨found, each⟩ => ⟨(member_settled_iff within member c).mp found, attributes.mp each⟩,
    fun ⟨found, each⟩ => ⟨(member_settled_iff within member c).mpr found, attributes.mpr each⟩⟩

end Settled

theorem case_alone_iff (group member : Element) (c : Case) :
    CaseOf (group.standingAlone member) (group.standingAlone member) c ↔ CaseOf group member c := by
  constructor
  · rintro ⟨⟨name, slots⟩, attributes⟩
    rw [Element.alone_name] at name
    rw [Element.alone_params] at slots
    rw [Element.alone_attributes] at attributes
    exact ⟨⟨name, slots⟩, attributes⟩
  · rintro ⟨⟨name, slots⟩, attributes⟩
    refine ⟨⟨?_, ?_⟩, ?_⟩
    · rwa [Element.alone_name]
    · rwa [Element.alone_params]
    · rwa [Element.alone_attributes]

def groupPlaces (group : Element) : List (Element × Element) := (members group).map (group, ·)

theorem members_of_group (e : Element) (group : IsGroup e) : members e = e.childrenNamed "element" := by
  rw [IsGroup] at group
  rw [members]
  split
  · contradiction
  · rename_i listed
    exact listed.symm

theorem members_of_single (e : Element) (single : e.childrenNamed "element" = []) : members e = [e] := by
  rw [members, single]

theorem group_settled_iff (inside : Bool) (e : Element) : IsGroup (e.settled inside) ↔ IsGroup e := by
  rw [IsGroup, IsGroup, Element.children_settled _ _ _ (by decide), ne_eq, List.map_eq_nil_iff]

theorem unnamed_group_settled (inside : Bool) (e : Element) :
    (e.settled inside).isUnnamedGroup = e.isUnnamedGroup := by
  rw [Element.isUnnamedGroup, Element.isUnnamedGroup, Element.children_settled _ _ _ (by decide), List.isEmpty_map]
  rfl

theorem unnamed_group (e : Element) (unnamed : e.isUnnamedGroup = true) : IsGroup e ∧ e.get? "name" = none := by
  simp only [Element.isUnnamedGroup, Bool.and_eq_true, Bool.not_eq_true', List.isEmpty_eq_false_iff,
    Option.isNone_iff_eq_none] at unnamed
  exact ⟨unnamed.1.2, unnamed.2⟩

theorem ungroup_inside (e : Element) :
    e.ungroup true = if e.isUnnamedGroup then (e.childrenNamed "element").map fun member =>
        (e.settled true).standingAlone (member.settled true) else [e.settled true] := by
  rw [Element.ungroup_eq, Element.takenApart, unnamed_group_settled, Bool.true_and,
    Element.children_settled _ _ _ (by decide), List.map_map]
  rfl

theorem places_ungrouped_iff (group : Element) (cs : List Case) :
    List.Forall₂ (fun place c => CaseOf place.1 place.2 c) ((group.ungroup true).flatMap groupPlaces) cs ↔
      List.Forall₂ (fun place c => CaseOf place.1 place.2 c) (groupPlaces group) cs := by
  rw [ungroup_inside]
  by_cases unnamed : group.isUnnamedGroup = true
  · have places : ∀ member : Element, groupPlaces ((group.settled true).standingAlone (member.settled true)) =
        [((group.settled true).standingAlone (member.settled true),
          (group.settled true).standingAlone (member.settled true))] := fun member => by
      rw [groupPlaces, members_of_single _ (Element.alone_elements _ _), List.map_singleton]
    rw [if_pos unnamed, groupPlaces, members_of_group group (unnamed_group group unnamed).1, List.flatMap_map]
    simp only [places, ← List.map_eq_flatMap, List.forall₂_map_left_iff, case_alone_iff, case_settled_iff]
  · rw [if_neg unnamed, List.flatMap_singleton, groupPlaces, groupPlaces]
    by_cases grouped : IsGroup group
    · rw [members_of_group group grouped, members_of_group _ ((group_settled_iff true group).mpr grouped),
        Element.children_settled _ _ _ (by decide), List.map_map]
      simp only [List.forall₂_map_left_iff, Function.comp_apply, case_settled_iff]
    · have settled := mt (group_settled_iff true group).mp grouped
      rw [members_of_single group (not_not.mp grouped), members_of_single _ (not_not.mp settled)]
      simp only [List.map_singleton, List.forall₂_cons_left_iff, case_settled_iff]

theorem unnamed_ungrouped_iff (group : Element) :
    (∀ part ∈ group.ungroup true, IsGroup part → part.get? "name" = none) ↔
      (IsGroup group → group.get? "name" = none) := by
  rw [ungroup_inside]
  by_cases unnamed : group.isUnnamedGroup = true
  · rw [if_pos unnamed, List.forall_mem_map]
    exact iff_of_true (fun member _ grouped => absurd (Element.alone_elements _ _) grouped)
      fun _ => (unnamed_group group unnamed).2
  · rw [if_neg unnamed, List.forall_mem_singleton, group_settled_iff]
    rfl

theorem declaration_settled_iff (inside : Bool) (e : Element) (d : Declaration) (declares : e.tag = "declaration") :
    DeclarationOf (e.settled inside) d ↔ DeclarationOf e d := by
  have listed := Element.cases_settled inside e declares
  have unnamed : (∀ group ∈ (e.settled inside).childrenNamed "case", IsGroup group → group.get? "name" = none) ↔
      ∀ group ∈ e.childrenNamed "case", IsGroup group → group.get? "name" = none := by
    rw [listed, List.forall_mem_flatMap]
    exact forall₂_congr fun group _ => unnamed_ungrouped_iff group
  have cases : List.Forall₂ (fun place c => CaseOf place.1 place.2 c) (casePlaces (e.settled inside)) d.cases ↔
      List.Forall₂ (fun place c => CaseOf place.1 place.2 c) (casePlaces e) d.cases := by
    change List.Forall₂ _ (((e.settled inside).childrenNamed "case").flatMap groupPlaces) _ ↔
      List.Forall₂ _ ((e.childrenNamed "case").flatMap groupPlaces) _
    rw [listed, List.flatMap_assoc, ← forall₂_flattened_iff, ← forall₂_flattened_iff]
    simp only [places_ungrouped_iff]
  exact ⟨fun ⟨name, identifier, access, level, kind, rule, each⟩ =>
      ⟨name, identifier, access, level, kind, unnamed.mp rule, cases.mp each⟩,
    fun ⟨name, identifier, access, level, kind, rule, each⟩ =>
      ⟨name, identifier, access, level, kind, unnamed.mpr rule, cases.mpr each⟩⟩

theorem schema_ungrouped_iff (root : Element) (schema : Schema) :
    SchemaOf root.ungrouped schema ↔ SchemaOf root schema := by
  have declares : ∀ e ∈ root.childrenNamed "declaration", e.tag = "declaration" := fun e member =>
    beq_iff_eq.mp (List.mem_filter.mp member).2
  have declarations : List.Forall₂ DeclarationOf (root.ungrouped.childrenNamed "declaration") schema.declarations ↔
      List.Forall₂ DeclarationOf (root.childrenNamed "declaration") schema.declarations := by
    rw [Element.ungrouped, Element.children_settled _ _ _ (by decide), List.forall₂_map_left_iff]
    have tagged (R : Element → Declaration → Prop) :
        List.Forall₂ R (root.childrenNamed "declaration") schema.declarations ↔
          List.Forall₂ (fun e d => e.tag = "declaration" ∧ R e d) (root.childrenNamed "declaration")
            schema.declarations := by
      rw [List.forall₂_and_left, and_iff_right declares]
    rw [tagged, tagged DeclarationOf]
    refine iff_of_eq (congrArg (List.Forall₂ · _ _) (funext₂ fun e d => propext (and_congr_right fun own => ?_)))
    exact declaration_settled_iff _ e d own
  exact ⟨fun ⟨tag, version, each, distinct⟩ => ⟨tag, version, declarations.mp each, distinct⟩,
    fun ⟨tag, version, each, distinct⟩ => ⟨tag, version, declarations.mpr each, distinct⟩⟩

structure ComeToSame (s t : FileStore) (arguments : List String) (c : GenerateConfig) (chosen : List Declaration)
    (dir : Path) : Prop where
  out : (Run.ofArguments t arguments).out = (Run.ofArguments s arguments).out
  err : (Run.ofArguments t arguments).err = (Run.ofArguments s arguments).err
  ending : (Run.ofArguments t arguments).ending = (Run.ofArguments s arguments).ending
  content : ∀ d ∈ chosen, ∀ e, d.extension? c.policy = some e → ∃ text,
    (Run.ofArguments s arguments).store.read (d.file dir) = .ok text ∧
    (Run.ofArguments t arguments).store.read (d.file dir) = .ok text

section Runs

variable {s t : FileStore} {arguments : List String} {c : GenerateConfig} {schema : Schema}
  {chosen picked : List Declaration} {dir : Path} {files more : List GeneratedFile}

theorem same_schema_same_files (completes : Completes s arguments c schema chosen dir files)
    (also : Completes t arguments c schema picked dir more) :
    picked = chosen ∧ more.map (·.account) = files.map (·.account) ∧ (t.current = s.current → more = files) := by
  obtain rfl := Except.ok.inj (also.selected.symm.trans completes.selected)
  exact ⟨rfl, same_accounts _ _ _ _ _ files more completes.done also.done,
    fun current => same_files _ _ _ _ _ files more current completes.done also.done⟩

theorem total_of_accounts (files : List GeneratedFile) :
    totalLines files = (files.map (·.account)).foldl (fun total account => total + account.2.1) 0 := by
  rw [List.foldl_map]
  rfl

theorem entries_of_accounts (files : List GeneratedFile) :
    (files.map fun f => (⟨f.name, f.lines⟩ : FileEntry)) =
      (files.map (·.account)).map fun account => ⟨account.1, account.2.1⟩ := by
  rw [List.map_map]
  rfl

theorem same_accounts_same_text (same : more.map (·.account) = files.map (·.account)) (es : List Expansion) :
    GenerateConfig.writtenText dir more = GenerateConfig.writtenText dir files ∧
      c.report schema dir es more = c.report schema dir es files := by
  have number : more.length = files.length := by simpa using congrArg List.length same
  constructor
  · rw [GenerateConfig.writtenText, GenerateConfig.writtenText, total_of_accounts, total_of_accounts, number, same]
  · rw [GenerateConfig.report, GenerateConfig.report, entries_of_accounts, entries_of_accounts, same]

theorem same_schema_same_results (completes : Completes s arguments c schema chosen dir files)
    (also : Completes t arguments c schema chosen dir more) (same : more.map (·.account) = files.map (·.account)) :
    ComeToSame s t arguments c chosen dir := by
  obtain ⟨es, expanded, first⟩ := completes.outcome
  obtain ⟨others, again, second⟩ := also.outcome
  obtain ⟨written, report⟩ := same_accounts_same_text same es
  rw [expanded_unique expanded again, written, report] at second
  refine ⟨?_, ?_, ?_, fun d member e expands => ?_⟩
  · rw [first, second]
  · rw [first, second]
  · rw [first, second]
  · obtain ⟨text, made, read⟩ := completes.content d member e expands
    obtain ⟨copy, remade, reread⟩ := also.content d member e expands
    obtain rfl := Except.ok.inj (made.symm.trans remade)
    exact ⟨text, read, reread⟩

end Runs

/-- Whether cases are written as the members of a group or each for itself makes no difference: both documents are
accepted or neither is, the schema is the same, and so are the files and all else that runs come to. -/
theorem ungrouping_changes_nothing (root : Element) :
    ((∃ schema, Schema.ofElement root.ungrouped = .ok schema) ↔ ∃ schema, Schema.ofElement root = .ok schema) ∧
    (∀ schema, Schema.ofElement root.ungrouped = .ok schema ↔ Schema.ofElement root = .ok schema) ∧
    ∀ s t arguments c schema other chosen picked dir files more,
      ReadsAs s c.schema root → ReadsAs t c.schema root.ungrouped →
      Completes s arguments c schema chosen dir files → Completes t arguments c other picked dir more →
      other = schema ∧ picked = chosen ∧ more.map (·.account) = files.map (·.account) ∧
        (t.current = s.current → more = files) ∧ ComeToSame s t arguments c chosen dir := by
  have same (schema : Schema) : Schema.ofElement root.ungrouped = .ok schema ↔ Schema.ofElement root = .ok schema := by
    rw [schema_ok_iff, schema_ok_iff, schema_ungrouped_iff]
  refine ⟨exists_congr same, same, ?_⟩
  intro s t arguments c schema other chosen picked dir files more grouped apart completes also
  have read := (loaded_iff grouped schema).mp completes.loaded
  have reread := (same other).mp ((loaded_iff apart other).mp also.loaded)
  obtain rfl := Except.ok.inj (reread.symm.trans read)
  obtain ⟨rfl, accounts, files⟩ := same_schema_same_files completes also
  exact ⟨rfl, rfl, accounts, files, same_schema_same_results completes also accounts⟩

def groupText : String :=
  "<schema><declaration name=\"A\"><case><element name=\"home\"/>" ++
    "<element name=\"call\"><param type=\"Int\"/></element></case></declaration></schema>"

def groupRoot : Element :=
  .node "schema" [] none [.node "declaration" [("name", "A")] none
    [.node "case" [] none [.node "element" [("name", "home")] none [],
      .node "element" [("name", "call")] none [.node "param" [("type", "Int")] none []]]]]

set_option maxRecDepth 8000 in
theorem group_read : Element.read groupText = .ok groupRoot := by
  cbv

theorem group_taken_apart : groupRoot.ungrouped = callRoot := by
  rfl

theorem group_reads : ReadsAs (soleStore groupText) ⟨0, ["s.xml"]⟩ groupRoot := ⟨groupText, rfl, group_read⟩

theorem call_reads : ReadsAs (soleStore callText) ⟨0, ["s.xml"]⟩ groupRoot.ungrouped :=
  ⟨callText, rfl, group_taken_apart ▸ call_read⟩

theorem group_run_completes : ∃ files, Completes (soleStore groupText) ["--schema", "s.xml"] (pairGeneration [])
    callSchema callSchema.declarations ⟨0, ["Generated"]⟩ files :=
  sole_run_completes groupText callSchema ((loaded_iff group_reads callSchema).mpr (by cbv)) (by decide +kernel)

theorem ungrouping_call_changes_nothing :
    Schema.ofElement groupRoot.ungrouped = .ok callSchema ∧ Schema.ofElement groupRoot = .ok callSchema ∧
      ComeToSame (soleStore groupText) (soleStore callText) ["--schema", "s.xml"] (pairGeneration [])
        callSchema.declarations ⟨0, ["Generated"]⟩ := by
  obtain ⟨-, same, runs⟩ := ungrouping_changes_nothing groupRoot
  have accepted : Schema.ofElement groupRoot.ungrouped = .ok callSchema := group_taken_apart ▸ call_accepted
  obtain ⟨files, completes⟩ := group_run_completes
  obtain ⟨more, also⟩ := call_run_completes
  exact ⟨accepted, (same callSchema).mp accepted,
    (runs _ _ _ _ _ _ _ _ _ _ _ group_reads call_reads completes also).2.2.2.2⟩

end ScreenDispatch
