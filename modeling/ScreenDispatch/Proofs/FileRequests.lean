import ScreenDispatch.Config
import ScreenDispatch.Proofs.Attempts

/-!
Requests for files. A request is for files exactly if it keeps every rule, and the configuration then tells what was
asked for, the names as a set. A look at the schema tells what was asked for as well.
-/
set_option autoImplicit false

namespace ScreenDispatch

structure Generates (s : FileStore) (r : Request) (names : List String) (c : GenerateConfig) : Prop where
  named : r.declarations.names = .ok names
  unfiltered : (r.filter.isFilled && !r.listing) = false
  noLook : r.looks = false
  schema : r.schema = .given c.schema
  present : s.holds c.schema = .ok true
  policy : UnlabeledPolicy.ofSetting r.unlabeled = .ok c.policy
  identifiers : ∀ name ∈ names, Text.isIdentifierLine name.toList = true
  imports : chosenImports r.imports = .ok c.imports
  declarations : c.declarations = Text.ordered names
  outputDir : c.outputDir = r.outputDir

theorem schema_path_ok_iff (s : FileStore) (r : Request) (p : Path) :
    r.schemaPath s = .ok p ↔ r.schema = .given p ∧ s.holds p = .ok true := by
  rw [Request.schemaPath]
  cases r.schema with
  | absent => exact iff_of_false nofun fun both => nomatch both.1
  | empty => exact iff_of_false nofun fun both => nomatch both.1
  | given path =>
      simp only [FlagValue.given.injEq]
      constructor
      · intro found
        split at found
        · rename_i there
          obtain rfl := Except.ok.inj found
          exact ⟨rfl, there⟩
        · cases found
        · cases found
      · rintro ⟨rfl, there⟩
        rw [there]

theorem premises_ok_iff (s : FileStore) (r : Request) (names : List String) (p : Path) :
    r.premises s = .ok (names, p) ↔
      r.declarations.names = .ok names ∧ (r.filter.isFilled && !r.listing) = false ∧
        (r.asksForFiles names && r.looks) = false ∧ r.schema = .given p ∧ s.holds p = .ok true := by
  simp only [Request.premises, bind_ok_iff, map_error_ok_iff, check_ok_iff, schema_path_ok_iff]
  constructor
  · rintro ⟨_, named, unfiltered, plain, path, ⟨given, there⟩, same⟩
    obtain ⟨rfl, rfl⟩ := Prod.mk.inj (Except.ok.inj same)
    exact ⟨named, by simpa using unfiltered, by simpa using plain, given, there⟩
  · rintro ⟨named, unfiltered, plain, given, there⟩
    exact ⟨names, named, by simpa using unfiltered, by simpa using plain, p, ⟨given, there⟩, rfl⟩

theorem checked_declaration_ok_iff (name checked : String) :
    checkedDeclaration name = .ok checked ↔ Text.isIdentifierLine name.toList = true ∧ checked = name := by
  rw [checkedDeclaration]
  by_cases line : Text.isIdentifierLine name.toList = true
  · simp [line, eq_comm]
  · simp [line]

theorem forall₂_copy_iff {α : Type} (xs ys : List α) : List.Forall₂ (fun x y => y = x) xs ys ↔ ys = xs := by
  constructor
  · intro each
    induction each with
    | nil => rfl
    | cons same _ ih => rw [same, ih]
  · rintro rfl
    exact List.forall₂_same.mpr fun _ _ => rfl

theorem checked_names_ok_iff (names checked : List String) :
    names.mapM checkedDeclaration = .ok checked ↔
      (∀ name ∈ names, Text.isIdentifierLine name.toList = true) ∧ checked = names := by
  simp only [map_m_ok_iff, checked_declaration_ok_iff, List.forall₂_and_left, forall₂_copy_iff]

theorem settled_generates_iff (r : Request) (names : List String) (schema : Path) (policy : UnlabeledPolicy)
    (c : GenerateConfig) :
    r.settled names schema policy = .ok (.generate c) ↔
      r.looks = false ∧ (∀ name ∈ names, Text.isIdentifierLine name.toList = true) ∧
        chosenImports r.imports = .ok c.imports ∧
        c = ⟨schema, r.outputDir, Text.ordered names, c.imports, policy⟩ := by
  rw [Request.settled]
  by_cases looks : r.looks = true
  · rw [if_pos looks, bind_ok_iff]
    refine iff_of_false ?_ fun all => nomatch looks.symm.trans all.1
    rintro ⟨inquiry, -, same⟩
    cases same
  · simp only [if_neg looks, bind_ok_iff, map_error_ok_iff, checked_names_ok_iff]
    constructor
    · rintro ⟨_, ⟨identifiers, rfl⟩, imports, chosen, built⟩
      obtain rfl := Config.generate.inj (Except.ok.inj built)
      exact ⟨Bool.eq_false_iff.mpr looks, identifiers, chosen, rfl⟩
    · rintro ⟨-, identifiers, chosen, same⟩
      exact ⟨names, ⟨identifiers, rfl⟩, c.imports, chosen, by rw [same]; rfl⟩

theorem config_generate_iff (s : FileStore) (r : Request) (c : GenerateConfig) :
    r.config s = .ok (.generate c) ↔ ∃ names, Generates s r names c := by
  simp only [Request.config, bind_ok_iff, map_error_ok_iff, settled_generates_iff, Prod.exists, premises_ok_iff]
  constructor
  · rintro ⟨names, p, ⟨named, unfiltered, _, schema, present⟩, policy, read, noLook, declared, imports, same⟩
    rw [same]
    exact ⟨names, named, unfiltered, noLook, schema, present, read, declared, imports, rfl, rfl⟩
  · rintro ⟨names, all⟩
    refine ⟨names, c.schema, ⟨all.named, all.unfiltered, ?_, all.schema, all.present⟩, c.policy, all.policy, all.noLook,
      all.identifiers, all.imports, ?_⟩
    · rw [all.noLook, Bool.and_false]
    · rw [← all.outputDir, ← all.declarations]

theorem chosen_name_ok_iff (check : String → Except ConfigError String) (report : String → ConfigError)
    (checks : ∀ name, check name = if Text.isIdentifierLine name.toList then .ok name else .error (report name))
    (v : RawValue) (name : String) :
    chosenName check v = .ok name ↔ v = .text name ∧ Text.isIdentifierLine name.toList = true := by
  cases v with
  | text given =>
      simp only [chosenName, map_error_ok_iff, checks, RawValue.text.injEq]
      by_cases line : Text.isIdentifierLine given.toList = true
      · simp only [if_pos line, Except.ok.injEq]
        exact ⟨fun same => ⟨same, same ▸ line⟩, And.left⟩
      · rw [if_neg line]
        exact iff_of_false nofun fun ⟨same, passes⟩ => line (same ▸ passes)
  | null | bool | int | float | list | dict => exact iff_of_false nofun fun both => nomatch both.1

theorem chosen_declaration_ok_iff (v : RawValue) (name : String) :
    chosenName checkedDeclaration v = .ok name ↔ v = .text name ∧ Text.isIdentifierLine name.toList = true :=
  chosen_name_ok_iff checkedDeclaration .invalidDeclaration (fun _ => rfl) v name

theorem chosen_import_ok_iff (v : RawValue) (name : String) :
    chosenName checkedImport v = .ok name ↔ v = .text name ∧ Text.isIdentifierLine name.toList = true :=
  chosen_name_ok_iff checkedImport .invalidImport (fun _ => rfl) v name

theorem chosen_imports_given (v : RawValue) (given : v ≠ .null) :
    chosenImports v = match v.items? with
      | none => misused .items v
      | some items => items.mapM (chosenName checkedImport) := by
  cases v with
  | null => exact absurd rfl given
  | text | bool | int | float | list | dict => rfl

theorem chosen_imports_ok_iff (v : RawValue) (imports : List String) :
    chosenImports v = .ok imports ↔
      (v = .null ∧ imports = defaultImports) ∨
        (v.items? = some (imports.map .text) ∧ ∀ name ∈ imports, Text.isIdentifierLine name.toList = true) := by
  by_cases absent : v = .null
  · subst absent
    constructor
    · intro done
      exact .inl ⟨rfl, (Except.ok.inj done).symm⟩
    · rintro (⟨-, rfl⟩ | ⟨none, -⟩)
      · rfl
      · cases none
  · rw [chosen_imports_given v absent]
    cases v.items? with
    | none => simp [misused, absent]
    | some items =>
        simp only [absent, false_and, false_or, Option.some.injEq, map_m_ok_iff, chosen_import_ok_iff]
        constructor
        · intro each
          induction each with
          | nil => simp
          | cons both _ ih =>
              obtain ⟨rfl, line⟩ := both
              exact ⟨congrArg _ ih.1, List.forall_mem_cons.mpr ⟨line, ih.2⟩⟩
        · rintro ⟨rfl, lines⟩
          rw [List.forall₂_map_left_iff, List.forall₂_same]
          exact fun name member => ⟨rfl, lines name member⟩

structure Discovers (s : FileStore) (r : Request) (c : DiscoveryConfig) : Prop where
  look : r.looks = true
  schema : r.schema = .given c.schema
  policy : UnlabeledPolicy.ofSetting r.unlabeled = .ok c.policy
  inquiry : r.inquiry = .ok c.inquiry
  filter : c.filter = r.filter

theorem discovery_as_asked (s : FileStore) (r : Request) (c : DiscoveryConfig) (asked : r.config s = .ok (.discover c)) :
    Discovers s r c := by
  obtain ⟨⟨names, schema⟩, premises, rest⟩ := bind_ok _ _ _ asked
  obtain ⟨policy, read, settles⟩ := bind_ok _ _ _ rest
  obtain ⟨-, -, -, given, -⟩ := (premises_ok_iff s r names schema).mp premises
  rw [Request.settled] at settles
  split at settles
  · rename_i look
    obtain ⟨inquiry, inquired, same⟩ := bind_ok _ _ _ settles
    cases same
    exact ⟨look, given, map_error_ok _ _ _ read, inquired, rfl⟩
  · obtain ⟨declarations, -, more⟩ := bind_ok _ _ _ settles
    obtain ⟨imports, -, same⟩ := bind_ok _ _ _ more
    cases same

theorem inquiry_ok (r : Request) (i : Inquiry) (done : r.inquiry = .ok i) :
    r.info = .ofText? i.declaration? ∧ ∀ name ∈ i.declaration?, Text.isIdentifierLine name.toList = true := by
  unfold Request.inquiry at done
  split at done
  · rename_i absent
    obtain rfl := Except.ok.inj done
    exact ⟨absent, nofun⟩
  · obtain ⟨name, chosen, same⟩ := bind_ok _ _ _ done
    obtain ⟨text, line⟩ := (chosen_declaration_ok_iff _ name).mp chosen
    obtain rfl := Except.ok.inj same
    refine ⟨?_, ?_⟩
    · cases r.listing <;> exact text
    · cases r.listing <;> simpa [Inquiry.declaration?] using line

theorem inquiry_command (r : Request) (look : r.looks = true) (i : Inquiry) (done : r.inquiry = .ok i) :
    i.command = if r.listing then "list-declarations" else "info" := by
  unfold Request.inquiry at done
  split at done
  · rename_i absent
    obtain rfl := Except.ok.inj done
    -- Without a name it is the listing that makes it a look.
    rw [Request.looks, absent] at look
    rw [if_pos ((Bool.or_false _).symm.trans look)]
    rfl
  · obtain ⟨name, -, same⟩ := bind_ok _ _ _ done
    obtain rfl := Except.ok.inj same
    cases r.listing <;> rfl

end ScreenDispatch
