import Mathlib.Data.List.Nodup
import Mathlib.Data.Option.Basic
import ScreenDispatch.Proofs.Attempts
import ScreenDispatch.Proofs.TrimmedText
import ScreenDispatch.Schema

/-!
Which elements are schemas, and what is read from them. The schema is described by relations between elements
and what they stand for, one for each kind of element; reading gives what the relations say and fails where
they give nothing.
-/
set_option autoImplicit false

namespace ScreenDispatch

open Markup (Element)

def Blank (value : Option String) : Prop :=
  ∀ text, value = some text → ∀ c ∈ text.toList, Text.isBlank c = true

def Stripped (value : Option String) (text : String) : Prop :=
  text ≠ "" ∧ ∃ given, value = some given ∧ Text.Trims given.toList text.toList

def StrippedIfGiven (value : Option String) : Option String → Prop
  | none => Blank value
  | some text => Stripped value text

structure SlotOf (e : Element) (slot : Slot) : Prop where
  type : Stripped (e.get? "type") slot.type
  label : StrippedIfGiven (e.get? "label") slot.label
  name : StrippedIfGiven (e.get? "name") slot.name

def ArgumentOf (e : Element) (argument : Expr String) : Prop :=
  ∃ text, Stripped e.text text ∧ argument = Expr.ofArgument text

structure AttributeOf (e : Element) (a : Attribute) : Prop where
  name : Stripped (e.get? "name") a.name
  arguments : List.Forall₂ ArgumentOf (e.childrenNamed "arg") a.arguments

structure MemberOf (e : Element) (c : Case) : Prop where
  name : Stripped (e.get? "name") c.name
  slots : List.Forall₂ SlotOf (e.childrenNamed "param") c.slots

structure CaseOf (group member : Element) (c : Case) : Prop extends MemberOf member c where
  attributes : List.Forall₂ AttributeOf (group.childrenNamed "attribute") c.attributes

def IsGroup (e : Element) : Prop := e.childrenNamed "element" ≠ []

def members (e : Element) : List Element :=
  match e.childrenNamed "element" with
  | [] => [e]
  | first :: rest => first :: rest

def casePlaces (e : Element) : List (Element × Element) :=
  (e.childrenNamed "case").flatMap fun group => (members group).map (group, ·)

structure DeclarationOf (e : Element) (d : Declaration) : Prop where
  name : Stripped (e.get? "name") d.name
  identifier : Text.isIdentifier d.name.toList = true
  access : d.access = e.get? "access"
  level : d.access = none ∨ ∃ level : AccessLevel, d.access = some level.name
  kind : Text.Trims ((e.get? "kind").getD "enum").toList d.kind.toList
  unnamed : ∀ group ∈ e.childrenNamed "case", IsGroup group → group.get? "name" = none
  cases : List.Forall₂ (fun place c => CaseOf place.1 place.2 c) (casePlaces e) d.cases

structure SchemaOf (root : Element) (schema : Schema) : Prop where
  tag : root.tag = "schema"
  version : (Blank (root.get? "version") ∧ schema.version = "unversioned") ∨
    Stripped (root.get? "version") schema.version
  declarations : List.Forall₂ DeclarationOf (root.childrenNamed "declaration") schema.declarations
  distinct : schema.names.Nodup

theorem trimmed_iff (given text : String) : Text.trimmed given = text ↔ Text.Trims given.toList text.toList := by
  rw [← Text.trim_iff, ← String.toList_inj, Text.trimmed, String.toList_ofList]

theorem trimmed_some_iff (value : Option String) (text : String) :
    trimmed? value = some text ↔ Stripped value text := by
  cases value with
  | none => exact ⟨nofun, fun ⟨_, _, absent, _⟩ => nomatch absent⟩
  | some given =>
      by_cases empty : Text.trimmed given = ""
      · simp only [trimmed?, Option.bind_some, if_pos empty, reduceCtorEq, false_iff]
        rintro ⟨filled, same, equal, trims⟩
        obtain rfl := Option.some.inj equal
        exact filled (((trimmed_iff _ _).mpr trims).symm.trans empty)
      · simp only [trimmed?, Option.bind_some, if_neg empty, Option.some.injEq]
        constructor
        · rintro rfl
          exact ⟨empty, given, rfl, (trimmed_iff _ _).mp rfl⟩
        · rintro ⟨_, same, equal, trims⟩
          obtain rfl := Option.some.inj equal
          exact (trimmed_iff _ _).mpr trims

theorem trimmed_none_iff (value : Option String) : trimmed? value = none ↔ Blank value := by
  cases value with
  | none => exact iff_of_true rfl fun _ absent => nomatch absent
  | some given =>
      have blank : Text.trimmed given = "" ↔ Blank (some given) := by
        rw [Text.trimmed, String.ofList_eq_empty_iff, Text.trim_nil_iff]
        exact ⟨fun all _ same => Option.some.inj same ▸ all, fun all => all given rfl⟩
      by_cases empty : Text.trimmed given = ""
      · simp [trimmed?, empty, blank.mp empty]
      · simp [trimmed?, empty, mt blank.mpr empty]

theorem trimmed_if_given (value : Option String) (setting : Option String) :
    trimmed? value = setting ↔ StrippedIfGiven value setting := by
  cases setting with
  | none => exact trimmed_none_iff value
  | some text => exact trimmed_some_iff value text

theorem stripped_exists_iff (value : Option String) : (∃ text, Stripped value text) ↔ ¬ Blank value := by
  rw [← trimmed_none_iff, ← ne_eq, Option.ne_none_iff_exists']
  simp only [trimmed_some_iff]

theorem required_ok_iff (e : Element) (name text : String) :
    required e name = .ok text ↔ Stripped (e.get? name) text := by
  rw [← trimmed_some_iff, required]
  cases trimmed? (e.get? name) <;> simp

theorem slot_ok_iff (e : Element) (slot : Slot) : Slot.ofElement e = .ok slot ↔ SlotOf e slot := by
  simp only [Slot.ofElement, bind_ok_iff, required_ok_iff]
  constructor
  · rintro ⟨type, stripped, same⟩
    obtain rfl := Except.ok.inj same
    exact ⟨stripped, (trimmed_if_given _ _).mp rfl, (trimmed_if_given _ _).mp rfl⟩
  · rintro ⟨type, label, name⟩
    refine ⟨slot.type, type, ?_⟩
    rw [(trimmed_if_given _ _).mpr label, (trimmed_if_given _ _).mpr name]
    rfl

theorem argument_ok_iff (owner : Option String) (e : Element) (argument : Expr String) :
    argumentOfElement owner e = .ok argument ↔ ArgumentOf e argument := by
  simp only [argumentOfElement, ArgumentOf, ← trimmed_some_iff]
  cases trimmed? e.text <;> simp [eq_comm]

theorem attribute_ok_iff (e : Element) (a : Attribute) : Attribute.ofElement e = .ok a ↔ AttributeOf e a := by
  simp only [Attribute.ofElement, bind_ok_iff, map_m_ok_iff, required_ok_iff, argument_ok_iff]
  constructor
  · rintro ⟨arguments, each, name, stripped, same⟩
    obtain rfl := Except.ok.inj same
    exact ⟨stripped, each⟩
  · rintro ⟨name, arguments⟩
    exact ⟨a.arguments, arguments, a.name, name, rfl⟩

theorem plain_ok_iff (attributes : List Attribute) (e : Element) (c : Case) :
    Case.ofPlain attributes e = .ok c ↔ MemberOf e c ∧ c.attributes = attributes := by
  simp only [Case.ofPlain, bind_ok_iff, map_m_ok_iff, required_ok_iff, slot_ok_iff]
  constructor
  · rintro ⟨slots, each, name, stripped, same⟩
    obtain rfl := Except.ok.inj same
    exact ⟨⟨stripped, each⟩, rfl⟩
  · rintro ⟨⟨name, slots⟩, rfl⟩
    exact ⟨c.slots, slots, c.name, name, rfl⟩

theorem member_ok_iff (attributes : List Attribute) (e : Element) (c : Case) :
    Case.ofMember attributes e = .ok c ↔ MemberOf e c ∧ c.attributes = attributes := by
  simp only [Case.ofMember, bind_ok_iff, map_m_ok_iff, required_ok_iff, slot_ok_iff]
  constructor
  · rintro ⟨name, stripped, slots, each, same⟩
    obtain rfl := Except.ok.inj same
    exact ⟨⟨stripped, each⟩, rfl⟩
  · rintro ⟨⟨name, slots⟩, rfl⟩
    exact ⟨c.name, name, c.slots, slots, rfl⟩

theorem attribute_unique : Relator.RightUnique AttributeOf := by
  intro e a other first second
  have read := (attribute_ok_iff e a).mpr first
  exact Except.ok.inj (read.symm.trans ((attribute_ok_iff e other).mpr second))

theorem shared_attributes_iff (group first : Element) (rest : List Element) (cs : List Case) :
    (∃ attributes, List.Forall₂ AttributeOf (group.childrenNamed "attribute") attributes ∧
      List.Forall₂ (fun e c => MemberOf e c ∧ c.attributes = attributes) (first :: rest) cs) ↔
    List.Forall₂ (CaseOf group) (first :: rest) cs := by
  constructor
  · rintro ⟨attributes, given, each⟩
    exact each.imp fun e c found => ⟨found.1, found.2 ▸ given⟩
  · intro each
    have all := each
    obtain _ | ⟨head, _⟩ := each
    refine ⟨_, head.attributes, all.imp fun e c found => ⟨found.toMemberOf, ?_⟩⟩
    exact List.right_unique_forall₂' attribute_unique found.attributes head.attributes

theorem cases_ok_iff (e : Element) (cs : List Case) :
    casesOfElement e = .ok cs ↔ (IsGroup e → e.get? "name" = none) ∧ List.Forall₂ (CaseOf e) (members e) cs := by
  simp only [casesOfElement, bind_ok_iff, map_m_ok_iff, attribute_ok_iff]
  cases listed : e.childrenNamed "element" with
  | nil =>
      have alone : members e = [e] := by rw [members, listed]
      have single : ¬ IsGroup e := fun group => group listed
      simp only [alone, ← shared_attributes_iff, bind_ok_iff, plain_ok_iff, single, false_implies, true_and]
      refine exists_congr fun attributes => and_congr_right fun _ => ?_
      constructor
      · rintro ⟨c, read, same⟩
        obtain rfl := Except.ok.inj same
        exact .cons read .nil
      · rintro (_ | ⟨read, _ | _⟩)
        exact ⟨_, read, rfl⟩
  | cons first rest =>
      have all : members e = first :: rest := by rw [members, listed]
      have group : IsGroup e := by rw [IsGroup, listed]; exact List.cons_ne_nil _ _
      simp only [all, ← shared_attributes_iff, group, true_implies]
      cases e.get? "name" with
      | none =>
          simp only [Option.isSome_none, Bool.false_eq_true, if_false, map_m_ok_iff, member_ok_iff, true_and]
      | some name => simp

theorem access_name_iff (access : String) :
    (AccessLevel.ofName? access).isSome = true ↔ ∃ level : AccessLevel, access = level.name := by
  rw [AccessLevel.ofName?, List.find?_isSome]
  constructor
  · rintro ⟨level, -, same⟩
    exact ⟨level, (beq_iff_eq.mp same).symm⟩
  · rintro ⟨level, rfl⟩
    exact ⟨level, by cases level <;> decide, beq_self_eq_true _⟩

theorem access_ok_iff (declaration : String) (given access : Option String) :
    checkedAccess declaration given = .ok access ↔
      access = given ∧ (access = none ∨ ∃ level : AccessLevel, access = some level.name) := by
  cases given with
  | none =>
      rw [checkedAccess, Except.ok.injEq, eq_comm]
      exact ⟨fun same => ⟨same, .inl same⟩, And.left⟩
  | some name =>
      rw [checkedAccess]
      by_cases known : (AccessLevel.ofName? name).isSome = true
      · rw [if_pos known, Except.ok.injEq, eq_comm]
        obtain ⟨level, rfl⟩ := (access_name_iff name).mp known
        exact ⟨fun same => ⟨same, .inr ⟨level, same⟩⟩, And.left⟩
      · rw [if_neg known]
        refine iff_of_false nofun ?_
        rintro ⟨rfl, absent | ⟨level, same⟩⟩
        · cases absent
        · exact known ((access_name_iff name).mpr ⟨level, Option.some.inj same⟩)

theorem stripped_identifier_iff (value : Option String) (name : String) (stripped : Stripped value name) :
    Text.isIdentifierLine name.toList = true ↔ Text.isIdentifier name.toList = true := by
  obtain ⟨-, given, -, trims⟩ := stripped
  have plain : (name.toList.getLast? == some '\n') = false := by
    rw [beq_eq_false_iff_ne]
    intro feed
    have blank := trims.last _ feed
    revert blank
    decide
  rw [Text.isIdentifierLine, plain, Bool.false_and, Bool.or_false]

theorem forall₂_split {α β : Type} {R : α → β → Prop} (xs more : List α) (ys : List β)
    (each : List.Forall₂ R (xs ++ more) ys) :
    ∃ front back, ys = front ++ back ∧ List.Forall₂ R xs front ∧ List.Forall₂ R more back := by
  induction xs generalizing ys with
  | nil => exact ⟨[], ys, rfl, .nil, each⟩
  | cons x rest ih =>
      obtain _ | ⟨head, tail⟩ := each
      obtain ⟨front, back, rfl, first, second⟩ := ih _ tail
      exact ⟨_ :: front, back, rfl, .cons head first, second⟩

theorem forall₂_flattened_iff {α β γ : Type} {R : γ → β → Prop} (f : α → List γ) (xs : List α) (ys : List β) :
    (∃ parts, List.Forall₂ (fun x part => List.Forall₂ R (f x) part) xs parts ∧ parts.flatten = ys) ↔
      List.Forall₂ R (xs.flatMap f) ys := by
  constructor
  · rintro ⟨parts, each, rfl⟩
    exact List.rel_flatten (List.forall₂_map_left_iff.mpr each)
  · intro each
    induction xs generalizing ys with
    | nil =>
        obtain _ | _ := each
        exact ⟨[], .nil, rfl⟩
    | cons x rest ih =>
        obtain ⟨front, back, rfl, first, second⟩ := forall₂_split _ _ _ each
        obtain ⟨parts, others, rfl⟩ := ih back second
        exact ⟨front :: parts, .cons first others, rfl⟩

theorem forall₂_exists_iff {α β : Type} (R : α → β → Prop) (xs : List α) :
    (∃ ys, List.Forall₂ R xs ys) ↔ ∀ x ∈ xs, ∃ y, R x y := by
  induction xs with
  | nil => exact iff_of_true ⟨[], .nil⟩ nofun
  | cons x rest ih =>
      rw [List.forall_mem_cons, ← ih]
      constructor
      · rintro ⟨_, _ | ⟨first, others⟩⟩
        exact ⟨⟨_, first⟩, ⟨_, others⟩⟩
      · rintro ⟨⟨y, first⟩, ⟨ys, others⟩⟩
        exact ⟨y :: ys, .cons first others⟩

theorem case_lists_ok_iff (groups : List Element) (cs : List Case) :
    (∃ parts, List.Forall₂ (fun group part => casesOfElement group = .ok part) groups parts ∧ parts.flatten = cs) ↔
      (∀ group ∈ groups, IsGroup group → group.get? "name" = none) ∧
      List.Forall₂ (fun place c => CaseOf place.1 place.2 c)
        (groups.flatMap fun group => (members group).map (group, ·)) cs := by
  simp only [← forall₂_flattened_iff, cases_ok_iff, List.forall₂_map_left_iff, List.forall₂_and_left]
  exact ⟨fun ⟨parts, ⟨rule, each⟩, flat⟩ => ⟨rule, parts, each, flat⟩,
    fun ⟨rule, parts, each, flat⟩ => ⟨parts, ⟨rule, each⟩, flat⟩⟩

theorem declaration_ok_iff (e : Element) (d : Declaration) :
    Declaration.ofElement e = .ok d ↔ DeclarationOf e d := by
  have kind : Text.Trims ((e.get? "kind").getD "enum").toList d.kind.toList ↔
      Text.trimmed ((e.get? "kind").getD "enum") = d.kind := (trimmed_iff _ _).symm
  simp only [Declaration.ofElement, bind_ok_iff, required_ok_iff, check_ok_iff, access_ok_iff, map_m_ok_iff]
  constructor
  · rintro ⟨name, stripped, line, access, ⟨same, level⟩, parts, each, built⟩
    obtain rfl := Except.ok.inj built
    obtain ⟨unnamed, cases⟩ := (case_lists_ok_iff _ _).mp ⟨parts, each, rfl⟩
    have identifier := (stripped_identifier_iff _ _ stripped).mp (by simpa using line)
    exact ⟨stripped, identifier, same, level, kind.mpr rfl, unnamed, cases⟩
  · rintro ⟨name, identifier, access, level, trims, unnamed, cases⟩
    obtain ⟨parts, each, flat⟩ := (case_lists_ok_iff _ _).mpr ⟨unnamed, cases⟩
    have line := (stripped_identifier_iff _ _ name).mpr identifier
    refine ⟨d.name, name, by simp [line], d.access, ⟨access, level⟩, parts, each, ?_⟩
    rw [flat, kind.mp trims]
    rfl

theorem first_repeated_none_iff (seen names : List String) :
    firstRepeated? seen names = none ↔ names.Nodup ∧ ∀ name ∈ names, name ∉ seen := by
  induction names generalizing seen with
  | nil => exact iff_of_true rfl ⟨.nil, nofun⟩
  | cons name rest ih =>
      rw [firstRepeated?, List.nodup_cons, List.forall_mem_cons]
      by_cases again : name ∈ seen
      · rw [if_pos again]
        exact iff_of_false nofun fun all => all.2.1 again
      · rw [if_neg again, ih]
        grind

theorem version_iff (value : Option String) (version : String) :
    (trimmed? value).getD "unversioned" = version ↔
      (Blank value ∧ version = "unversioned") ∨ Stripped value version := by
  rw [← trimmed_none_iff, ← trimmed_some_iff]
  cases trimmed? value <;> simp [eq_comm]

theorem schema_ok_iff (root : Element) (schema : Schema) :
    Schema.ofElement root = .ok schema ↔ SchemaOf root schema := by
  have apart (ds : List Declaration) :
      firstRepeated? [] (ds.map (·.name)) = none ↔ (ds.map (·.name)).Nodup := by
    simp [first_repeated_none_iff]
  simp only [Schema.ofElement, check_ok_iff, bind_ok_iff, map_m_ok_iff, declaration_ok_iff]
  constructor
  · rintro ⟨tag, declarations, each, built⟩
    cases repeated : firstRepeated? [] (declarations.map (·.name)) with
    | some name => simp [repeated] at built
    | none =>
        simp only [repeated] at built
        obtain rfl := Except.ok.inj built
        exact ⟨by simpa using tag, (version_iff _ _).mp rfl, each, (apart declarations).mp repeated⟩
  · rintro ⟨tag, version, each, distinct⟩
    refine ⟨by simpa using tag, schema.declarations, each, ?_⟩
    rw [(apart schema.declarations).mpr distinct, (version_iff _ _).mpr version]
    rfl

def AdmissibleMember (e : Element) : Prop :=
  ¬ Blank (e.get? "name") ∧ ∀ p ∈ e.childrenNamed "param", ¬ Blank (p.get? "type")

def AdmissibleAttribute (e : Element) : Prop :=
  ¬ Blank (e.get? "name") ∧ ∀ argument ∈ e.childrenNamed "arg", ¬ Blank argument.text

structure AdmissibleCase (e : Element) : Prop where
  form : (e.childrenNamed "element" = [] ∧ AdmissibleMember e) ∨
    (e.childrenNamed "element" ≠ [] ∧ e.get? "name" = none ∧
      ∀ member ∈ e.childrenNamed "element", AdmissibleMember member)
  attributes : ∀ a ∈ e.childrenNamed "attribute", AdmissibleAttribute a

structure AdmissibleDeclaration (e : Element) : Prop where
  name : ∃ name, Stripped (e.get? "name") name ∧ Text.isIdentifier name.toList = true
  access : e.get? "access" = none ∨ ∃ level : AccessLevel, e.get? "access" = some level.name
  cases : ∀ c ∈ e.childrenNamed "case", AdmissibleCase c

structure Admissible (root : Element) : Prop where
  tag : root.tag = "schema"
  declarations : ∀ e ∈ root.childrenNamed "declaration", AdmissibleDeclaration e
  distinct : ((root.childrenNamed "declaration").map fun e => trimmed? (e.get? "name")).Nodup

theorem slot_exists_iff (e : Element) : (∃ slot, SlotOf e slot) ↔ ¬ Blank (e.get? "type") := by
  rw [← stripped_exists_iff]
  constructor
  · rintro ⟨slot, type, -, -⟩
    exact ⟨slot.type, type⟩
  · rintro ⟨type, stripped⟩
    exact ⟨⟨trimmed? (e.get? "label"), trimmed? (e.get? "name"), type⟩,
      stripped, (trimmed_if_given _ _).mp rfl, (trimmed_if_given _ _).mp rfl⟩

theorem argument_exists_iff (e : Element) : (∃ argument, ArgumentOf e argument) ↔ ¬ Blank e.text := by
  rw [← stripped_exists_iff]
  constructor
  · rintro ⟨_, text, stripped, -⟩
    exact ⟨text, stripped⟩
  · rintro ⟨text, stripped⟩
    exact ⟨_, text, stripped, rfl⟩

theorem attribute_exists_iff (e : Element) : (∃ a, AttributeOf e a) ↔ AdmissibleAttribute e := by
  simp only [AdmissibleAttribute, ← argument_exists_iff]
  rw [← stripped_exists_iff, ← forall₂_exists_iff]
  constructor
  · rintro ⟨a, name, arguments⟩
    exact ⟨⟨a.name, name⟩, a.arguments, arguments⟩
  · rintro ⟨⟨name, stripped⟩, arguments, each⟩
    exact ⟨⟨name, arguments⟩, stripped, each⟩

theorem case_exists_iff (group member : Element) :
    (∃ c, CaseOf group member c) ↔
      AdmissibleMember member ∧ ∀ a ∈ group.childrenNamed "attribute", AdmissibleAttribute a := by
  simp only [AdmissibleMember, ← attribute_exists_iff, ← slot_exists_iff]
  rw [← stripped_exists_iff, ← forall₂_exists_iff, ← forall₂_exists_iff]
  constructor
  · rintro ⟨c, ⟨name, slots⟩, attributes⟩
    exact ⟨⟨⟨c.name, name⟩, c.slots, slots⟩, c.attributes, attributes⟩
  · rintro ⟨⟨⟨name, stripped⟩, slots, each⟩, attributes, given⟩
    exact ⟨⟨name, slots, attributes⟩, ⟨stripped, each⟩, given⟩

theorem admissible_case_iff (e : Element) :
    AdmissibleCase e ↔ (IsGroup e → e.get? "name" = none) ∧
      ∀ member ∈ members e, ∃ c, CaseOf e member c := by
  simp only [case_exists_iff]
  cases listed : e.childrenNamed "element" with
  | nil =>
      have alone : members e = [e] := by rw [members, listed]
      rw [alone, List.forall_mem_singleton]
      constructor
      · rintro ⟨⟨-, plain⟩ | ⟨group, -⟩, attributes⟩
        · exact ⟨fun group => absurd listed group, plain, attributes⟩
        · exact absurd listed group
      · rintro ⟨-, plain, attributes⟩
        exact ⟨.inl ⟨listed, plain⟩, attributes⟩
  | cons first rest =>
      have all : members e = e.childrenNamed "element" := by rw [members, listed]
      have group : IsGroup e := by rw [IsGroup, listed]; exact List.cons_ne_nil _ _
      rw [all]
      constructor
      · rintro ⟨⟨none, -⟩ | ⟨-, unnamed, each⟩, attributes⟩
        · exact absurd none group
        · exact ⟨fun _ => unnamed, fun member present => ⟨each member present, attributes⟩⟩
      · rintro ⟨unnamed, each⟩
        have present : first ∈ e.childrenNamed "element" := by rw [listed]; exact List.mem_cons_self
        exact ⟨.inr ⟨group, unnamed group, fun member inside => (each member inside).1⟩, (each first present).2⟩

theorem declaration_exists_iff (e : Element) : (∃ d, DeclarationOf e d) ↔ AdmissibleDeclaration e := by
  have places : (∃ cs, List.Forall₂ (fun place c => CaseOf place.1 place.2 c) (casePlaces e) cs) ↔
      ∀ group ∈ e.childrenNamed "case", ∀ member ∈ members group, ∃ c, CaseOf group member c := by
    rw [forall₂_exists_iff, casePlaces]
    simp only [List.forall_mem_flatMap, List.forall_mem_map]
  constructor
  · rintro ⟨d, name, identifier, access, level, -, unnamed, cases⟩
    refine ⟨⟨d.name, name, identifier⟩, access ▸ level, fun group present => ?_⟩
    exact (admissible_case_iff group).mpr ⟨unnamed group present, places.mp ⟨d.cases, cases⟩ group present⟩
  · rintro ⟨⟨name, stripped, identifier⟩, level, cases⟩
    have each := fun group present => (admissible_case_iff group).mp (cases group present)
    obtain ⟨cs, found⟩ := places.mpr fun group present => (each group present).2
    exact ⟨⟨name, Text.trimmed ((e.get? "kind").getD "enum"), e.get? "access", cs⟩, stripped, identifier, rfl, level,
      (trimmed_iff _ _).mp rfl, fun group present => (each group present).1, found⟩

theorem names_of_declarations (es : List Element) (ds : List Declaration) (each : List.Forall₂ DeclarationOf es ds) :
    es.map (fun e => trimmed? (e.get? "name")) = ds.map fun d => some d.name := by
  induction each with
  | nil => rfl
  | cons first _ ih => rw [List.map_cons, List.map_cons, ih, (trimmed_some_iff _ _).mpr first.name]

theorem schema_exists_iff (root : Element) : (∃ schema, SchemaOf root schema) ↔ Admissible root := by
  have apart (es : List Element) (ds : List Declaration) (each : List.Forall₂ DeclarationOf es ds) :
      (es.map fun e => trimmed? (e.get? "name")).Nodup ↔ (ds.map (·.name)).Nodup := by
    rw [names_of_declarations es ds each, ← List.nodup_map_iff (Option.some_injective String), List.map_map]
    rfl
  constructor
  · rintro ⟨schema, tag, -, each, distinct⟩
    refine ⟨tag, fun e present => (declaration_exists_iff e).mp ?_, (apart _ _ each).mpr distinct⟩
    exact (forall₂_exists_iff _ _).mp ⟨schema.declarations, each⟩ e present
  · rintro ⟨tag, declarations, distinct⟩
    obtain ⟨ds, each⟩ := (forall₂_exists_iff DeclarationOf _).mpr fun e present =>
      (declaration_exists_iff e).mpr (declarations e present)
    exact ⟨⟨(trimmed? (root.get? "version")).getD "unversioned", ds⟩, tag, (version_iff _ _).mp rfl, each,
      (apart _ _ each).mp distinct⟩

/-- An element is read to a schema exactly if it is admissible, and is refused otherwise. What is read is what
the element says, in document order and with nothing left out or said twice. -/
theorem schema_read_iff (root : Element) :
    ((∃ schema, Schema.ofElement root = .ok schema) ↔ Admissible root) ∧
    ((∃ error, Schema.ofElement root = .error error) ↔ ¬ Admissible root) ∧
    ∀ schema, Schema.ofElement root = .ok schema ↔ SchemaOf root schema := by
  have accepted : (∃ schema, Schema.ofElement root = .ok schema) ↔ Admissible root := by
    rw [← schema_exists_iff]
    exact exists_congr (schema_ok_iff root)
  refine ⟨accepted, ?_, schema_ok_iff root⟩
  rw [← accepted]
  constructor
  · rintro ⟨error, refused⟩ ⟨schema, read⟩
    cases refused.symm.trans read
  · exact error_of_not_ok _

end ScreenDispatch
