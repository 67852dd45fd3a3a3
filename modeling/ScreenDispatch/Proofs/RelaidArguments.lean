import ScreenDispatch.Proofs.Relayout

/-!
Screens of arguments that are laid out in another way. What an argument is classified by does not look at the texts in
it, so only the generic arguments of a view type show how it was laid out.
-/
set_option autoImplicit false

namespace ScreenDispatch.Expr

open Token

inductive RelaidType : String → String → Prop where
  | same (name : String) : RelaidType name name
  | member {a b : String} (name : String) (owner : RelaidType a b) :
      RelaidType (a ++ "." ++ name) (b ++ "." ++ name)
  | arguments {a b : String} (texts others : List String) (owner : RelaidType a b)
      (relaid : texts.map lexemes = others.map lexemes) :
      RelaidType (a ++ "<" ++ String.intercalate ", " texts ++ ">") (b ++ "<" ++ String.intercalate ", " others ++ ">")

inductive RelaidShape : ScreenShape → ScreenShape → Prop where
  | empty : RelaidShape .empty .empty
  | typed {a b : String} (relaid : RelaidType a b) : RelaidShape (.typed a) (.typed b)
  | typedAndMapped {a b : String} (mapping : Mapping) (relaid : RelaidType a b) :
      RelaidShape (.typedAndMapped a mapping) (.typedAndMapped b mapping)
  | mapped (mapping : Mapping) : RelaidShape (.mapped mapping) (.mapped mapping)

inductive Agree {ε α : Type} (agree : α → α → Prop) : Except ε α → Except ε α → Prop where
  | error (e : ε) : Agree agree (.error e) (.error e)
  | ok {a b : α} (related : agree a b) : Agree agree (.ok a) (.ok b)

variable {β : Type} {f : String → β}

theorem segment_kept (a b : Expr String) (same : a.map f = b.map f) (text : String) (found : a.segment? = some text) :
    b.segment? = some text := by
  cases a with
  | string source value =>
      cases b with
      | string other otherValue =>
          rw [Expr.map, Expr.map] at same
          obtain ⟨-, rfl⟩ := Expr.string.inj same
          exact found
      | _ => cases same
  | _ => cases found

theorem segment_relaid (a b : Expr String) (same : a.map f = b.map f) : a.segment? = b.segment? :=
  Option.ext fun text => ⟨segment_kept a b same text, segment_kept b a same.symm text⟩

theorem labels_relaid (entries others : List (Expr String × Expr String))
    (same : mapEntries f entries = mapEntries f others) : Mapping.ofEntries entries = Mapping.ofEntries others := by
  rw [Mapping.ofEntries, Mapping.ofEntries]
  congr 1
  induction entries generalizing others with
  | nil =>
      cases others with
      | nil => rfl
      | cons other rest => cases same
  | cons entry rest ih =>
      cases others with
      | nil => cases same
      | cons other more =>
          obtain ⟨key, value⟩ := entry
          obtain ⟨otherKey, otherValue⟩ := other
          rw [mapEntries, mapEntries] at same
          obtain ⟨first, behind⟩ := List.cons.inj same
          obtain ⟨keys, values⟩ := Prod.mk.inj first
          rw [List.filterMap_cons, List.filterMap_cons, segment_relaid key otherKey keys,
            segment_relaid value otherValue values, ih more behind]

theorem mapping_kept (a b : Expr String) (same : a.map f = b.map f) (mapping : Mapping)
    (found : a.mapping? = some mapping) : b.mapping? = some mapping := by
  cases a with
  | dictionary source entries =>
      cases b with
      | dictionary other others =>
          rw [Expr.map, Expr.map] at same
          rw [← found, mapping?, mapping?, labels_relaid entries others (Expr.dictionary.inj same).2]
      | _ => cases same
  | _ => cases found

theorem mapping_relaid (a b : Expr String) (same : a.map f = b.map f) : a.mapping? = b.mapping? :=
  Option.ext fun mapping => ⟨mapping_kept a b same mapping, mapping_kept b a same.symm mapping⟩

theorem type_name_relaid (a b : Expr String) (same : a.map lexemes = b.map lexemes) :
    Option.Rel RelaidType a.typeName? b.typeName? := by
  cases a with
  | reference source name =>
      cases b with
      | reference other otherName =>
          rw [Expr.map, Expr.map] at same
          obtain ⟨-, rfl⟩ := Expr.reference.inj same
          exact .some (.same name)
      | _ => cases same
  | member source base name =>
      cases b with
      | member other otherBase otherName =>
          rw [Expr.map, Expr.map] at same
          obtain ⟨-, bases, rfl⟩ := Expr.member.inj same
          have owners := type_name_relaid base otherBase bases
          rw [typeName?, typeName?]
          generalize base.typeName? = first at owners ⊢
          generalize otherBase.typeName? = second at owners ⊢
          cases owners with
          | none => exact .none
          | some owner =>
              refine .some ?_
              split
              · exact owner
              · exact .member name owner
      | _ => cases same
  | specialization source base texts =>
      cases b with
      | specialization other otherBase others =>
          rw [Expr.map, Expr.map] at same
          obtain ⟨-, bases, relaid⟩ := Expr.specialization.inj same
          have owners := type_name_relaid base otherBase bases
          rw [typeName?, typeName?]
          generalize base.typeName? = first at owners ⊢
          generalize otherBase.typeName? = second at owners ⊢
          cases owners with
          | none => exact .none
          | some owner => exact .some (.arguments texts others owner relaid)
      | _ => cases same
  | _ =>
      cases b with
      | reference | member | specialization => cases same
      | _ => exact .none

def claimsType {α : Type} : Expr α → Bool
  | .member _ _ name => name == "self"
  | _ => false

theorem view_type_eq (e : Expr String) :
    e.viewType? =
      if claimsType e ∧ e.typeName? = none then .error .unsupportedTypeExpression else .ok e.typeName? := by
  unfold viewType?
  split
  · rename_i source base
    rw [typeName?]
    cases base.typeName? with
    | none => rfl
    | some name => rfl
  · rename_i other
    have plain : claimsType e = false := by
      cases e with
      | member source base name => exact beq_eq_false_iff_ne.mpr fun self => other source base (by rw [self])
      | _ => rfl
    rw [plain, if_neg (by simp)]

theorem claims_of_map (e : Expr String) : claimsType (e.map f) = claimsType e := by
  cases e <;> simp only [Expr.map, claimsType]

theorem claims_relaid (a b : Expr String) (same : a.map f = b.map f) : claimsType a = claimsType b := by
  rw [← claims_of_map a, same, claims_of_map b]

theorem view_type_relaid (a b : Expr String) (same : a.map lexemes = b.map lexemes) :
    Agree (Option.Rel RelaidType) a.viewType? b.viewType? := by
  have names := type_name_relaid a b same
  rw [view_type_eq, view_type_eq, claims_relaid a b same]
  generalize a.typeName? = first at names ⊢
  generalize b.typeName? = second at names ⊢
  cases names with
  | none =>
      split
      · exact .error _
      · exact .ok .none
  | some relaid =>
      rw [if_neg (by simp), if_neg (by simp)]
      exact .ok (.some relaid)

theorem shape_relaid (arguments others : List (Expr String))
    (each : List.Forall₂ (fun a b => a.map lexemes = b.map lexemes) arguments others) :
    Agree RelaidShape (ScreenShape.ofArguments arguments) (ScreenShape.ofArguments others) := by
  cases each with
  | nil => exact .ok .empty
  | cons first behind =>
      rename_i a b rest more
      rw [ScreenShape.ofArguments, ScreenShape.ofArguments, mapping_relaid a b first]
      split
      · exact .ok (.mapped _)
      · have types := view_type_relaid a b first
        generalize a.viewType? = one at types ⊢
        generalize b.viewType? = other at types ⊢
        cases types with
        | error e => exact .error e
        | ok named =>
            cases named with
            | none => exact .error _
            | some relaid =>
                cases behind with
                | nil => exact .ok (.typed relaid)
                | cons second _ =>
                    dsimp only [bind, Except.bind]
                    rw [mapping_relaid _ _ second]
                    split
                    · exact .ok (.typedAndMapped _ relaid)
                    · exact .error _

theorem trimmed_solid (text : String) (trimmed : Text.trimmed text = text) : Solid text.toList :=
  ((trimmed_iff text text).mp trimmed).last

theorem read_ok_of_relaid (a b : String) (same : lexemes a = lexemes b) :
    (∃ e, read a = .ok e) ↔ ∃ e, read b = .ok e := by
  constructor
  · rintro ⟨e, accepted⟩
    obtain ⟨other, otherAccepted, -⟩ := read_relaid a b same e accepted
    exact ⟨other, otherAccepted⟩
  · rintro ⟨e, accepted⟩
    obtain ⟨other, otherAccepted, -⟩ := read_relaid b a same.symm e accepted
    exact ⟨other, otherAccepted⟩

structure Relaid (a b : String) : Prop where
  trimmed : Text.trimmed a = a
  otherTrimmed : Text.trimmed b = b
  same : lexemes a = lexemes b

/-- How an argument is laid out decides neither whether it can be read nor which expression it is, up to the texts in
it as sequences of tokens. Attributes of such arguments fail for one reason or have the same shape of a screen, with one
mapping and with view types that differ at most inside generic arguments. -/
theorem layout_is_immaterial :
    (∀ a b, Relaid a b →
      ((∃ e, read a = .ok e) ↔ ∃ e, read b = .ok e) ∧ (ofArgument a).map lexemes = (ofArgument b).map lexemes) ∧
    ∀ (texts others : List String) (given other : Attribute), List.Forall₂ Relaid texts others →
      given.arguments = texts.map ofArgument → other.arguments = others.map ofArgument →
      Agree RelaidShape (ScreenShape.ofAttribute (some given)) (ScreenShape.ofAttribute (some other)) := by
  have alike (a b : String) (relaid : Relaid a b) : (ofArgument a).map lexemes = (ofArgument b).map lexemes :=
    argument_relaid a b (trimmed_solid a relaid.trimmed) (trimmed_solid b relaid.otherTrimmed) relaid.same
  refine ⟨fun a b relaid => ⟨read_ok_of_relaid a b relaid.same, alike a b relaid⟩, ?_⟩
  intro texts others given other each arguments otherArguments
  rw [ScreenShape.ofAttribute, ScreenShape.ofAttribute, arguments, otherArguments]
  refine shape_relaid _ _ ?_
  rw [List.forall₂_map_left_iff, List.forall₂_map_right_iff]
  exact each.imp alike

def crowdedTexts : List String := ["A . B< C,[D] >.self", "[ \"id\":\"key\" ]"]

def tidyTexts : List String := ["A.B<C, [D]>.self", "[\"id\": \"key\"]"]

theorem crowded_texts_relaid :
    List.Forall₂ Relaid crowdedTexts tidyTexts ∧
      (ofArgument "f() . self").map lexemes = (ofArgument "f ( ).self").map lexemes ∧
      Agree RelaidShape (ScreenShape.ofAttribute (some ⟨"Screen", crowdedTexts.map ofArgument⟩))
        (ScreenShape.ofAttribute (some ⟨"Screen", tidyTexts.map ofArgument⟩)) ∧
      ScreenShape.ofAttribute (some ⟨"Screen", tidyTexts.map ofArgument⟩) =
        .ok (.typedAndMapped "A.B<C, [D]>" (.ofList [("id", "key")])) := by
  have each : List.Forall₂ Relaid crowdedTexts tidyTexts :=
    .cons ⟨by cbv, by cbv, by cbv⟩ (.cons ⟨by cbv, by cbv, by cbv⟩ .nil)
  have called : Relaid "f() . self" "f ( ).self" := ⟨by cbv, by cbv, by cbv⟩
  exact ⟨each, (layout_is_immaterial.1 _ _ called).2, layout_is_immaterial.2 _ _ _ _ each rfl rfl, by cbv⟩

end ScreenDispatch.Expr
