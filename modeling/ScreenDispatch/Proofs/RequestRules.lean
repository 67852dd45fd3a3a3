import Mathlib.Data.String.Basic
import ScreenDispatch.Proofs.NameSettings
import ScreenDispatch.Proofs.Whereabouts

/-!
The rules of requests. They have an order, and the first of them that a request breaks is its answer, whatever else is
wrong with it; a request that breaks none is answered with what was asked for.
-/
set_option autoImplicit false

namespace ScreenDispatch

namespace Request

inductive Rule where
  | shape | filter | modes | schemaGiven | schemaThere | policy | spelling

namespace Rule

def order : List Rule := [shape, filter, modes, schemaGiven, schemaThere, policy, spelling]

def codes : Rule → List ConfigCode
  | shape => [.invalidDeclarationName]
  | filter => [.filterWithoutList]
  | modes => [.conflictGenerateDiscovery]
  | schemaGiven => [.missingSchema]
  | schemaThere => [.pathNotFound]
  | policy => []
  | spelling => [.invalidDeclarationName, .invalidImportName]

theorem mem_order (rule : Rule) : rule ∈ order := by
  cases rule <;> simp [order]

end Rule

def Looks (r : Request) : Prop := r.listing = true ∨ r.info.isFilled = true

def Spelled (names : List String) : Prop := ∀ name ∈ names, Text.isIdentifierLine name.toList = true

inductive Breaks (s : FileStore) (r : Request) : Rule → RequestError → Prop where
  | shape (error : ShapeError) (wrong : OutOfPlace r.declarations error) :
      Breaks s r .shape (.config (.misshapenNames error))
  | filter (filled : r.filter.isFilled = true) (noListing : r.listing = false) :
      Breaks s r .filter (.config .filterWithoutList)
  | modes (names : List String) (named : NamesOf r.declarations names) (files : names ≠ [] ∨ r.imports ≠ .null)
      (look : r.Looks) : Breaks s r .modes (.config .conflict)
  | absent (absent : r.schema = .absent) : Breaks s r .schemaGiven (.config .missingSchema)
  | missing (path : Path) (given : r.schema = .given path) (nothing : s.holds path = .ok false) :
      Breaks s r .schemaThere (.config (.schemaNotFound path))
  | refused (path : Path) (error : StoreError) (given : r.schema = .given path) (failed : s.holds path = .error error) :
      Breaks s r .schemaThere (.breakdown (.store error))
  | noPath (empty : r.schema = .empty) : Breaks s r .schemaThere (.breakdown (.misuse ⟨.schema, "list"⟩))
  | policy (given : r.unlabeled ≠ .null) (unknown : ∀ policy : UnlabeledPolicy, r.unlabeled ≠ .text policy.name) :
      Breaks s r .policy (.breakdown (.policy ⟨r.unlabeled.shown⟩))
  | info (error : RequestError) (look : r.Looks) (given : r.info ≠ .null)
      (bad : NoName .invalidDeclaration r.info error) : Breaks s r .spelling error
  | declaration (front : List String) (name : String) (back : List String) (noLook : ¬ r.Looks)
      (named : NamesOf r.declarations (front ++ name :: back)) (good : Spelled front)
      (bad : ¬ Text.isIdentifierLine name.toList = true) : Breaks s r .spelling (.config (.invalidDeclaration name))
  | imports (names : List String) (error : RequestError) (noLook : ¬ r.Looks) (named : NamesOf r.declarations names)
      (good : Spelled names) (bad : NoModules r.imports error) : Breaks s r .spelling error

def FirstBroken (s : FileStore) (r : Request) (rule : Rule) (error : RequestError) : Prop :=
  ∃ front back, Rule.order = front ++ rule :: back ∧ Breaks s r rule error ∧
    ∀ earlier ∈ front, ∀ other, ¬ Breaks s r earlier other

theorem looks_iff (r : Request) : r.looks = true ↔ r.Looks := by
  rw [looks, Bool.or_eq_true, Looks]

theorem asks_for_files_iff (r : Request) (names : List String) :
    r.asksForFiles names = true ↔ names ≠ [] ∨ r.imports ≠ .null := by
  rw [asksForFiles, Bool.or_eq_true]
  cases names <;> cases r.imports <;> simp [RawValue.isNull]

theorem policy_named_iff (name : String) (policy : UnlabeledPolicy) :
    UnlabeledPolicy.ofName? name = some policy ↔ name = policy.name := by
  constructor
  · intro found
    have same := List.find?_some found
    exact (beq_iff_eq.mp same).symm
  · rintro rfl
    cases policy <;> rfl

theorem policy_ok_iff (v : RawValue) (policy : UnlabeledPolicy) :
    UnlabeledPolicy.ofSetting v = .ok policy ↔ (v = .null ∧ policy = .positional) ∨ v = .text policy.name := by
  cases v with
  | null => simp [UnlabeledPolicy.ofSetting, eq_comm]
  | text name =>
      simp only [UnlabeledPolicy.ofSetting, RawValue.text.injEq, ← policy_named_iff]
      cases UnlabeledPolicy.ofName? name <;> simp
  | bool | int | float | list | dict => simp [UnlabeledPolicy.ofSetting]

theorem policy_error_iff (v : RawValue) (error : UnknownPolicy) :
    UnlabeledPolicy.ofSetting v = .error error ↔
      v ≠ .null ∧ (∀ policy : UnlabeledPolicy, v ≠ .text policy.name) ∧ error = ⟨v.shown⟩ := by
  cases v with
  | null => simp [UnlabeledPolicy.ofSetting]
  | text name =>
      simp only [UnlabeledPolicy.ofSetting, ne_eq, RawValue.text.injEq, ← policy_named_iff]
      cases UnlabeledPolicy.ofName? name <;> simp [eq_comm]
  | bool | int | float | list | dict => simp [UnlabeledPolicy.ofSetting, eq_comm]

def breach? (s : FileStore) (r : Request) : Rule → Option RequestError
  | .shape => failure? (r.declarations.names.mapError (.config ∘ .misshapenNames))
  | .filter => if r.filter.isFilled && !r.listing then some (.config .filterWithoutList) else none
  | .modes =>
    match r.declarations.names with
    | .ok names => if r.asksForFiles names && r.looks then some (.config .conflict) else none
    | .error _ => none
  | .schemaGiven => if r.schema.isAbsent then some (.config .missingSchema) else none
  | .schemaThere => if r.schema.isAbsent then none else failure? (r.schemaPath s)
  | .policy => failure? ((UnlabeledPolicy.ofSetting r.unlabeled).mapError (.breakdown ∘ .policy))
  | .spelling =>
    if r.looks then failure? r.inquiry
    else
      match r.declarations.names with
      | .ok names =>
        (failure? ((names.mapM checkedDeclaration).mapError .config)).or (failure? (chosenImports r.imports))
      | .error _ => none

theorem settled_failure (r : Request) (names : List String) (schema : Path) (policy : UnlabeledPolicy) :
    failure? (r.settled names schema policy) =
      if r.looks then failure? r.inquiry
      else (failure? ((names.mapM checkedDeclaration).mapError .config)).or (failure? (chosenImports r.imports)) := by
  rw [settled]
  by_cases looks : r.looks = true
  · rw [if_pos looks, if_pos looks]
    cases r.inquiry <;> rfl
  · simp only [if_neg looks]
    cases (names.mapM checkedDeclaration).mapError RequestError.config with
    | error e => rfl
    | ok checked => cases chosenImports r.imports <;> rfl

theorem find_some_or {α β : Type} (f : α → Option β) (x : α) (xs : List α) :
    (x :: xs).findSome? f = (f x).or (xs.findSome? f) := by
  rw [List.findSome?_cons]
  cases f x <;> rfl

theorem schema_failure (s : FileStore) (r : Request) :
    failure? (r.schemaPath s) = (r.breach? s .schemaGiven).or (r.breach? s .schemaThere) := by
  dsimp only [breach?]
  cases given : r.schema with
  | absent => rw [schemaPath, given]; rfl
  | empty | given => rfl

theorem premises_failure (s : FileStore) (r : Request) (names : List String) (named : r.declarations.names = .ok names) :
    failure? (r.premises s) = (r.breach? s .filter).or ((r.breach? s .modes).or (failure? (r.schemaPath s))) := by
  simp only [premises, breach?, named]
  refine (failure_check _ _ _ _ rfl).trans (congrArg _ ((failure_check _ _ _ _ rfl).trans (congrArg _ ?_)))
  rw [failure_bind_or _ _ none fun _ _ => rfl, Option.or_none]

theorem config_breach (s : FileStore) (r : Request) : failure? (r.config s) = Rule.order.findSome? (r.breach? s) := by
  simp only [Rule.order, find_some_or, List.findSome?_nil]
  cases named : r.declarations.names with
  | error error => simp only [config, premises, breach?, named]; rfl
  | ok names =>
      -- What comes behind the schema does not depend on it.
      have onward (both : List String × Path) (premises : r.premises s = .ok both) :
          failure? (do
            let policy ← (UnlabeledPolicy.ofSetting r.unlabeled).mapError (.breakdown ∘ .policy)
            r.settled both.1 both.2 policy) = (r.breach? s .policy).or (r.breach? s .spelling) := by
        obtain ⟨given, -⟩ := (premises_ok_iff s r both.1 both.2).mp premises
        obtain rfl : both.1 = names := Except.ok.inj (given.symm.trans named)
        refine failure_bind_or _ _ _ fun policy _ => ?_
        rw [settled_failure, breach?, named]
      have shape : r.breach? s .shape = none := by
        rw [breach?, named]
        rfl
      rw [config, failure_bind_or _ _ _ onward, premises_failure s r names named, schema_failure, shape]
      simp only [Option.or_assoc, Option.none_or, Option.or_none]

theorem inquiry_error_iff (r : Request) (e : RequestError) :
    r.inquiry = .error e ↔ r.info ≠ .null ∧ NoName .invalidDeclaration r.info e := by
  rw [← chosen_name_error_iff checkedDeclaration .invalidDeclaration (fun _ => rfl), inquiry]
  cases r.info with
  | null => exact iff_of_false nofun fun both => both.1 rfl
  | text | bool | int | float | list | dict => simp [bind_error_iff, pure, Except.pure]

theorem checked_declaration_error_iff (name : String) (e : ConfigError) :
    checkedDeclaration name = .error e ↔ ¬ Text.isIdentifierLine name.toList = true ∧ e = .invalidDeclaration name := by
  rw [checkedDeclaration]
  by_cases line : Text.isIdentifierLine name.toList = true
  · simp [line]
  · simp [line, eq_comm]

theorem checked_names_error_iff (names : List String) (e : ConfigError) :
    names.mapM checkedDeclaration = .error e ↔
      ∃ front name back, names = front ++ name :: back ∧ Spelled front ∧ ¬ Text.isIdentifierLine name.toList = true ∧
        e = .invalidDeclaration name := by
  simp [map_m_error_iff, checked_declaration_error_iff, checked_declaration_ok_iff, Spelled]

variable (s : FileStore) (r : Request) (e : RequestError)

theorem shape_breach_iff : r.breach? s .shape = some e ↔ Breaks s r .shape e := by
  simp only [breach?, failure_iff, map_error_error_iff, names_error_iff]
  constructor
  · rintro ⟨error, wrong, rfl⟩
    exact .shape error wrong
  · intro broken
    cases broken with
    | shape error wrong => exact ⟨error, wrong, rfl⟩

theorem filter_breach_iff : r.breach? s .filter = some e ↔ Breaks s r .filter e := by
  simp only [breach?, Option.ite_none_right_eq_some, Option.some.injEq, Bool.and_eq_true, Bool.not_eq_true']
  constructor
  · rintro ⟨⟨filled, noListing⟩, rfl⟩
    exact .filter filled noListing
  · intro broken
    cases broken with
    | filter filled noListing => exact ⟨⟨filled, noListing⟩, rfl⟩

theorem modes_breach_iff : r.breach? s .modes = some e ↔ Breaks s r .modes e := by
  rw [breach?]
  constructor
  · intro broken
    cases named : r.declarations.names with
    | error => rw [named] at broken; cases broken
    | ok names =>
        simp only [named, Option.ite_none_right_eq_some, Option.some.injEq, Bool.and_eq_true, asks_for_files_iff,
          looks_iff] at broken
        obtain ⟨⟨files, look⟩, rfl⟩ := broken
        exact .modes names ((names_ok_iff _ names).mp named) files look
  · intro broken
    cases broken with
    | modes names named files look =>
        simp only [(names_ok_iff _ names).mpr named, (asks_for_files_iff r names).mpr files, (looks_iff r).mpr look]
        rfl

theorem schema_given_breach_iff : r.breach? s .schemaGiven = some e ↔ Breaks s r .schemaGiven e := by
  rw [breach?]
  constructor
  · intro broken
    cases given : r.schema with
    | absent =>
        rw [given] at broken
        cases broken
        exact .absent given
    | empty | given => rw [given] at broken; cases broken
  · intro broken
    cases broken with
    | absent absent => rw [absent]; rfl

theorem schema_there_breach_iff : r.breach? s .schemaThere = some e ↔ Breaks s r .schemaThere e := by
  rw [breach?, schemaPath]
  constructor
  · intro broken
    cases given : r.schema with
    | absent => rw [given] at broken; cases broken
    | empty =>
        rw [given] at broken
        cases broken
        exact .noPath given
    | given path =>
        rw [given] at broken
        rcases there : s.holds path with error | found | found
        · simp only [there] at broken
          cases broken
          exact .refused path error given there
        · simp only [there] at broken
          cases broken
          exact .missing path given there
        · simp only [there] at broken
          cases broken
  · intro broken
    cases broken with
    | missing path given nothing => simp only [given, nothing]; rfl
    | refused path error given failed => simp only [given, failed]; rfl
    | noPath empty => rw [empty]; rfl

theorem policy_breach_iff : r.breach? s .policy = some e ↔ Breaks s r .policy e := by
  simp only [breach?, failure_iff, map_error_error_iff, policy_error_iff]
  constructor
  · rintro ⟨error, ⟨given, unknown, rfl⟩, rfl⟩
    exact .policy given unknown
  · intro broken
    cases broken with
    | policy given unknown => exact ⟨_, ⟨given, unknown, rfl⟩, rfl⟩

theorem spelling_breach_iff : r.breach? s .spelling = some e ↔ Breaks s r .spelling e := by
  rw [breach?]
  by_cases look : r.looks = true
  · rw [if_pos look, failure_iff, inquiry_error_iff]
    have looks := (looks_iff r).mp look
    constructor
    · rintro ⟨given, bad⟩
      exact .info e looks given bad
    · intro broken
      cases broken with
      | info _ look given bad => exact ⟨given, bad⟩
      | declaration front name back noLook => exact absurd looks noLook
      | imports names _ noLook => exact absurd looks noLook
  · rw [if_neg look]
    have noLook := mt (looks_iff r).mpr look
    cases declared : r.declarations.names with
    | error error =>
        refine iff_of_false nofun fun broken => ?_
        cases broken with
        | info _ look => exact noLook look
        | declaration front name back noLook named =>
            rw [(names_ok_iff _ _).mpr named] at declared
            cases declared
        | imports names _ noLook named =>
            rw [(names_ok_iff _ _).mpr named] at declared
            cases declared
    | ok names =>
        simp only [Option.or_eq_some_iff, failure_iff, no_failure_iff, map_error_error_iff, map_error_ok_iff,
          checked_names_error_iff, checked_names_ok_iff, chosen_imports_error_iff]
        have shaped := (names_ok_iff _ names).mp declared
        constructor
        · rintro (⟨_, ⟨front, name, back, rfl, good, bad, rfl⟩, rfl⟩ | ⟨⟨_, good, -⟩, bad⟩)
          · exact .declaration front name back noLook shaped good bad
          · exact .imports names e noLook shaped good bad
        · intro broken
          cases broken with
          | info _ look => exact absurd look noLook
          | declaration front name back _ named good bad =>
              obtain rfl := Except.ok.inj (declared.symm.trans ((names_ok_iff _ _).mpr named))
              exact .inl ⟨_, ⟨front, name, back, rfl, good, bad, rfl⟩, rfl⟩
          | imports others _ _ named good bad =>
              obtain rfl := Except.ok.inj (declared.symm.trans ((names_ok_iff _ others).mpr named))
              exact .inr ⟨⟨_, good, rfl⟩, bad⟩

theorem breach_iff (rule : Rule) : r.breach? s rule = some e ↔ Breaks s r rule e := by
  cases rule with
  | shape => exact shape_breach_iff s r e
  | filter => exact filter_breach_iff s r e
  | modes => exact modes_breach_iff s r e
  | schemaGiven => exact schema_given_breach_iff s r e
  | schemaThere => exact schema_there_breach_iff s r e
  | policy => exact policy_breach_iff s r e
  | spelling => exact spelling_breach_iff s r e

theorem kept_iff (rule : Rule) : r.breach? s rule = none ↔ ∀ e, ¬ Breaks s r rule e := by
  simp only [← breach_iff]
  exact Option.eq_none_iff_forall_ne_some

theorem config_error_iff : r.config s = .error e ↔ ∃ rule, FirstBroken s r rule e := by
  rw [← failure_iff, config_breach, List.findSome?_eq_some_iff]
  simp only [breach_iff, kept_iff, FirstBroken]
  constructor
  · rintro ⟨front, rule, back, order, broken, earlier⟩
    exact ⟨rule, front, back, order, broken, earlier⟩
  · rintro ⟨rule, front, back, order, broken, earlier⟩
    exact ⟨front, rule, back, order, broken, earlier⟩

theorem config_ok_iff : (∃ c, r.config s = .ok c) ↔ ∀ rule e, ¬ Breaks s r rule e := by
  rw [← no_failure_iff, config_breach, List.findSome?_eq_none_iff]
  simp only [kept_iff, Rule.mem_order, true_implies]

inductive AsAsked : Config → Prop where
  | look (c : DiscoveryConfig) (look : r.Looks) (schema : r.schema = .given c.schema)
      (policy : (r.unlabeled = .null ∧ c.policy = .positional) ∨ r.unlabeled = .text c.policy.name)
      (command : c.inquiry.command = if r.listing then "list-declarations" else "info")
      (info : r.info = .ofText? c.inquiry.declaration?) (filter : c.filter = r.filter) : AsAsked (.discover c)
  | files (c : GenerateConfig) (names : List String) (noLook : ¬ r.Looks) (schema : r.schema = .given c.schema)
      (policy : (r.unlabeled = .null ∧ c.policy = .positional) ∨ r.unlabeled = .text c.policy.name)
      (named : NamesOf r.declarations names) (declarations : c.declarations = Text.ordered names)
      (imports : (r.imports = .null ∧ c.imports = defaultImports) ∨ r.imports.items? = some (c.imports.map .text))
      (outputDir : c.outputDir = r.outputDir) : AsAsked (.generate c)

theorem config_as_asked (c : Config) (done : r.config s = .ok c) : AsAsked r c := by
  cases c with
  | discover c =>
      have discovers := discovery_as_asked s r c done
      obtain ⟨asked, -⟩ := inquiry_ok r c.inquiry discovers.inquiry
      exact .look c ((looks_iff r).mp discovers.look) discovers.schema ((policy_ok_iff _ _).mp discovers.policy)
        (inquiry_command r discovers.look c.inquiry discovers.inquiry) asked discovers.filter
  | generate c =>
      obtain ⟨names, all⟩ := (config_generate_iff s r c).mp done
      have imports := (chosen_imports_ok_iff _ _).mp all.imports
      have named := (names_ok_iff _ _).mp all.named
      refine .files c names (fun look => ?_) all.schema ((policy_ok_iff _ _).mp all.policy) named all.declarations
        (imports.imp_right And.left) all.outputDir
      exact absurd ((looks_iff r).mpr look) (ne_true_of_eq_false all.noLook)

-- The settings have the types that the command line gives them, but for the names, which may have any shape.
structure Plain : Prop where
  filter : r.filter = .null ∨ ∃ text, r.filter = .text text
  info : r.info = .null ∨ ∃ name, r.info = .text name
  imports : r.imports = .null ∨ ∃ names : List String, r.imports = .list (names.map .text)
  schema : r.schema ≠ .empty

theorem no_name_code (report : String → ConfigError) (v : RawValue) (error : ConfigError)
    (bad : NoName report v (.config error)) : ∃ name, error = report name := by
  cases bad with
  | misspelt name => exact ⟨name, rfl⟩

theorem no_name_breakdown (report : String → ConfigError) (v : RawValue) (error : Breakdown)
    (bad : NoName report v (.breakdown error)) (name : String) : v ≠ .text name := by
  cases bad with
  | noText _ noName => exact noName name

theorem breaks_code (rule : Rule) (error : ConfigError) (broken : Breaks s r rule (.config error)) :
    error.code ∈ rule.codes := by
  cases broken with
  | info _ _ _ bad =>
      obtain ⟨name, rfl⟩ := no_name_code _ _ error bad
      simp [Rule.codes, ConfigError.code]
  | imports _ _ _ _ _ bad =>
      cases bad with
      | name _ _ _ _ _ _ bad =>
          obtain ⟨name, rfl⟩ := no_name_code _ _ error bad
          simp [Rule.codes, ConfigError.code]
  | shape | filter | modes | absent | missing | declaration => simp [Rule.codes, ConfigError.code]

theorem plain_breakdown (plain : r.Plain) (rule : Rule) (error : Breakdown)
    (broken : Breaks s r rule (.breakdown error)) :
    (rule = .policy ∧ error = .policy ⟨r.unlabeled.shown⟩) ∨
      rule = .schemaThere ∧ ∃ path, r.schema = .given path ∧ ¬ path.Short ∧
        error = .store (.refused .tooLong path) := by
  cases broken with
  | refused path error given failed =>
      obtain ⟨rfl, long⟩ := FileStore.holds_error s path error failed
      exact .inr ⟨rfl, path, given, long, rfl⟩
  | noPath empty => exact absurd empty plain.schema
  | policy given unknown => exact .inl ⟨rfl, rfl⟩
  | info _ look given bad =>
      obtain absent | ⟨name, text⟩ := plain.info
      · exact absurd absent given
      · exact absurd text (no_name_breakdown _ _ error bad name)
  | imports names _ noLook named good bad =>
      obtain absent | ⟨modules, listed⟩ := plain.imports
      · rw [absent] at bad
        cases bad with
        | noItems given => exact absurd rfl given
        | name _ _ _ _ items => cases items
      · rw [listed] at bad
        cases bad with
        | noItems _ single => cases single
        | name x front back _ items _ bad =>
            have member : x ∈ modules.map RawValue.text := by
              rw [Option.some.inj items]
              simp
            obtain ⟨name, -, same⟩ := List.mem_map.mp member
            exact absurd same.symm (no_name_breakdown _ _ error bad name)

end Request

/-- A request is answered with the error of the first rule that it breaks, in their order, and with what was asked for if
it breaks none. The code of an error is one of the rule, and settings of the usual types break nothing else, but for
the policy and for a path that is too long to be looked up. -/
theorem first_broken_rule_decides (s : FileStore) (r : Request) :
    (∀ e, r.config s = .error e ↔ ∃ rule, r.FirstBroken s rule e) ∧
      ((∃ c, r.config s = .ok c) ↔ ∀ rule e, ¬ r.Breaks s rule e) ∧ (∀ c, r.config s = .ok c → r.AsAsked c) ∧
      (∀ rule error, r.Breaks s rule (.config error) → error.code ∈ rule.codes) ∧
      (r.Plain → ∀ rule error, r.Breaks s rule (.breakdown error) →
        (rule = .policy ∧ error = .policy ⟨r.unlabeled.shown⟩) ∨
          rule = .schemaThere ∧ ∃ path, r.schema = .given path ∧ ¬ path.Short ∧
            error = .store (.refused .tooLong path)) := by
  refine ⟨r.config_error_iff s, r.config_ok_iff s, r.config_as_asked s, r.breaks_code s, ?_⟩
  exact r.plain_breakdown s

def muddledRequest : Request :=
  ⟨.absent, .absent, .list [.text "Home", .list [.text "1st"]], .list [.text "Swift UI"], .text "sideways", false,
    .text "Home", .text "h"⟩

def emptyStore : FileStore := ⟨[], [], List.not_mem_nil⟩

def repeatedName (n : Nat) : String := String.ofList (List.replicate n 'a')

def overlongPath : Path := ⟨0, [repeatedName 256]⟩

def overlongRequest : Request := ⟨.given overlongPath, .absent, .null, .null, .null, false, .null, .null⟩

theorem muddled_request_unfiltered :
    muddledRequest.Breaks emptyStore .modes (.config .conflict) ∧
      muddledRequest.Breaks emptyStore .schemaGiven (.config .missingSchema) ∧
      muddledRequest.Breaks emptyStore .policy (.breakdown (.policy ⟨"'sideways'"⟩)) ∧
      ∃ rule, muddledRequest.FirstBroken emptyStore rule (.config .filterWithoutList) := by
  have broken (rule : Request.Rule) (e : RequestError) := (muddledRequest.breach_iff emptyStore e rule).mp
  obtain ⟨first, -⟩ := first_broken_rule_decides emptyStore muddledRequest
  refine ⟨broken _ _ rfl, broken _ _ rfl, broken _ _ ?_, (first _).mp rfl⟩
  cbv

theorem repeated_size (n : Nat) : (repeatedName n).utf8ByteSize = n := by
  rw [repeatedName, String.utf8ByteSize_ofList]
  induction n with
  | zero => rfl
  | succ n ih => rw [List.replicate_succ, String.utf8Len_cons, ih]; rfl

theorem repeated_name_refused (s : FileStore) (n : Nat) (long : nameLimit < n) (fits : n ≤ pathLimit) :
    s.holds ⟨0, [repeatedName n]⟩ = .error (.refused .tooLong ⟨0, [repeatedName n]⟩) := by
  have size := repeated_size n
  refine s.long_name_refused _ (fun nul => ?_) (fun same => ?_) (by rwa [size]) (by rwa [size])
  · rw [repeatedName, String.toList_ofList] at nul
    cases List.eq_of_mem_replicate nul
  · rw [same] at size
    rw [← size] at long
    revert long
    decide

theorem overlong_schema_breaks_down :
    emptyStore.entries = [] ∧ overlongRequest.Plain ∧
      overlongRequest.FirstBroken emptyStore .schemaThere (.breakdown (.store (.refused .tooLong overlongPath))) ∧
      overlongRequest.config emptyStore = .error (.breakdown (.store (.refused .tooLong overlongPath))) := by
  have refused := repeated_name_refused emptyStore 256 (by decide) (by decide)
  have first : overlongRequest.FirstBroken emptyStore .schemaThere
      (.breakdown (.store (.refused .tooLong overlongPath))) := by
    refine ⟨[.shape, .filter, .modes, .schemaGiven], [.policy, .spelling], rfl, .refused _ _ rfl refused, ?_⟩
    simp only [← Request.kept_iff, List.forall_mem_cons]
    exact ⟨rfl, rfl, rfl, rfl, nofun⟩
  exact ⟨rfl, ⟨.inl rfl, .inl rfl, .inl rfl, nofun⟩, first, (Request.config_error_iff _ _ _).mpr ⟨_, first⟩⟩

end ScreenDispatch
