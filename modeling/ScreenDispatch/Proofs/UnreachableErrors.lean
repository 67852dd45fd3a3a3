import ScreenDispatch.Proofs.ChangedPlaces
import ScreenDispatch.Proofs.PassedNames
import ScreenDispatch.Proofs.ViewTypes

/-!
Errors that no run reaches. What the stages behind the reader check once more was settled when the schema and the
request were read, so that of all their checks only the one for undeclared names can fail.
-/
set_option autoImplicit false

namespace ScreenDispatch

open Markup (Element)

theorem token_filled (pos : Nat) (cs : List Char) (t : Token) (present : t ∈ Token.scanFrom pos cs) : t.value ≠ "" := by
  refine Token.scanned_of_lexeme (·.value ≠ "") pos cs (fun c rest kind start stop _ _ => ?_) t present
  exact fun empty => List.cons_ne_nil _ _ (String.ofList_eq_empty_iff.mp empty)

theorem unticked_filled (name : String) (filled : name ≠ "") : Expr.unticked name ≠ "" := by
  unfold Expr.unticked
  dsimp only
  split
  · rename_i ticked
    -- Two backticks at most are taken away, and there are more than two characters.
    simp only [Bool.and_eq_true, decide_eq_true_eq] at ticked
    intro empty
    have short := congrArg String.length empty
    simp only [String.length_ofList, List.length_dropLast, List.length_tail, String.length_empty] at short
    omega
  · exact filled

theorem Expr.Chain.name_filled {text : List Token → String} {before ts rest : List Token} {node e : Tree}
    (chain : Chain before node ts e rest) (owner : ∀ name, (node.map text).typeName? = some name → name ≠ "")
    (name : String) (named : (e.map text).typeName? = some name) : name ≠ "" := by
  induction chain with
  | stop before node ts noDot => exact owner name named
  | member before node dot token more e rest symbol word onward ih =>
      refine ih (fun longer behind => ?_) named
      obtain ⟨base, baseName, rfl⟩ := (member_name _ _ _ _).mp behind
      have filled := owner base baseName
      split
      · exact filled
      · exact fun empty => filled (String.append_eq_empty_iff.mp (String.append_eq_empty_iff.mp empty).1).1
  | arguments before node opening xs more arguments e rest symbol generic typed onward ih =>
      refine ih (fun longer behind => ?_) named
      obtain ⟨base, baseName, rfl⟩ := (specialization_name _ _ _ _).mp behind
      simp

theorem view_type_filled (text viewType : String) (typed : (Expr.ofArgument text).viewType? = .ok (some viewType)) :
    viewType ≠ "" := by
  have named := (Expr.view_type_iff _ viewType).mp typed
  obtain ⟨tree, parsed, same⟩ := (Expr.read_ok_iff text _).mp (Expr.read_of_view_type text viewType typed)
  obtain ⟨run, node, more, whole, primary, chain⟩ := Expr.expression_node_chain _ tree [] parsed
  rw [same] at named
  refine chain.name_filled (fun owner ownerName => ?_) viewType named
  obtain ⟨t, rfl, -, -, -, rfl⟩ := primary.named owner ownerName
  have present : t ∈ Token.scan text := by simp [whole]
  exact unticked_filled t.value (token_filled 0 _ t present)

theorem inferred_filled (caseName : String) (filled : caseName ≠ "") : inferredType caseName ≠ "" := by
  unfold inferredType
  split
  · exact filled
  · exact fun empty => List.cons_ne_nil _ _ (String.ofList_eq_empty_iff.mp empty)

theorem shape_filled (arguments : List (Expr String)) (read : ∀ e ∈ arguments, ∃ text, e = Expr.ofArgument text)
    (shape : ScreenShape) (done : ScreenShape.ofArguments arguments = .ok shape) (caseName : String)
    (filled : caseName ≠ "") : (shape.screen caseName).viewType ≠ "" := by
  have inferred := inferred_filled caseName filled
  cases arguments with
  | nil =>
      obtain rfl := Except.ok.inj done
      exact inferred
  | cons first rest =>
      rw [ScreenShape.ofArguments] at done
      split at done
      · obtain rfl := Except.ok.inj done
        exact inferred
      · obtain ⟨viewType?, typed, shaped⟩ := bind_ok _ _ _ done
        obtain ⟨text, rfl⟩ := read first List.mem_cons_self
        cases viewType? with
        | none => cases shaped
        | some viewType =>
            have given := view_type_filled text viewType typed
            dsimp only at shaped
            split at shaped
            · obtain rfl := Except.ok.inj shaped
              exact given
            · split at shaped
              · obtain rfl := Except.ok.inj shaped
                exact given
              · cases shaped

theorem resolved_filled (group member : Element) (c : Case) (read : CaseOf group member c) (screen : Screen)
    (resolved : Screen.resolve c.attributes c.name = .ok screen) : screen.viewType ≠ "" := by
  rw [Screen.resolve] at resolved
  cases found : screenAttribute? c.attributes with
  | none =>
      rw [found] at resolved
      obtain rfl := Except.ok.inj resolved
      exact inferred_filled c.name read.name.1
  | some given =>
      rw [found, ScreenShape.ofAttribute] at resolved
      obtain ⟨e, -, settings⟩ := forall₂_source _ _ read.attributes given (List.mem_of_find?_eq_some found)
      have texts : ∀ argument ∈ given.arguments, ∃ text, argument = Expr.ofArgument text := by
        intro argument among
        obtain ⟨_, -, text, -, same⟩ := forall₂_source _ _ settings.arguments argument among
        exact ⟨text, same⟩
      cases shaped : ScreenShape.ofArguments given.arguments with
      | error error => rw [shaped] at resolved; cases resolved
      | ok shape =>
          rw [shaped] at resolved
          obtain rfl := Except.ok.inj resolved
          exact shape_filled given.arguments texts shape shaped c.name read.name.1

inductive Selection (schema : Schema) (names : List String) : Except SchemaError (List Declaration) → Prop where
  | chosen (ds : List Declaration) (known : ∀ name ∈ names, name ∈ schema.names)
      (among : ds.Sublist schema.declarations) : Selection schema names (.ok ds)
  | unknown (missing : List String) (present : missing ≠ [])
      (exact : ∀ name, name ∈ missing ↔ name ∈ names ∧ name ∉ schema.names) :
      Selection schema names (.error (.unknownDeclarations missing))

theorem selection (schema : Schema) (names : List String) : Selection schema names (schema.select names) := by
  have missing (name : String) : name ∈ schema.missing names ↔ name ∈ names ∧ name ∉ schema.names := by
    simp [Schema.missing, Text.mem_ordered]
  cases selected : schema.select names with
  | ok chosen =>
      refine .chosen chosen (fun name asked => ?_) (selected_sublist schema names chosen selected)
      have chose := (select_ok_iff schema names chosen).mp selected
      rw [if_neg (List.ne_nil_of_mem asked)] at chose
      exact chose.1 name asked
  | error e =>
      rw [Schema.select] at selected
      split at selected
      · cases selected
      · split at selected
        · cases selected
        · rename_i lacking
          cases selected
          exact .unknown _ (mt List.isEmpty_iff.mpr lacking) missing

structure Sound (es : List Expansion) : Prop where
  viewTypes : ∀ arm ∈ allArms es, arm.viewType ≠ ""
  failed : (Counts.ofExpansions es).failed = es.countP (!·.succeeded)
  total : (Counts.ofExpansions es).generated + (Counts.ofExpansions es).failed = (Counts.ofExpansions es).declarations

structure Unfailing (schema : Schema) (policy : UnlabeledPolicy) : Prop where
  selects : ∀ names, Selection schema names (schema.select names)
  modifier : ∀ d ∈ schema.declarations, ∃ modifier, accessModifier d.access = .ok modifier
  resolves : ∀ d ∈ schema.declarations, ∀ c ∈ d.cases, ∀ screen,
    Screen.resolve c.attributes c.name = .ok screen → screen.viewType ≠ ""
  expands : ∀ names chosen, schema.select names = .ok chosen → ∃ es, expandAll chosen policy = .ok es ∧ Sound es
  details : ∀ name, ∃ detail, schema.detail? name policy = .ok detail

structure Assembles (schema : Schema) (policy : UnlabeledPolicy) (c : GenerateConfig) : Prop where
  imports : ∃ lines, importLines c.imports = .ok lines
  headers : ∀ names chosen es e, schema.select names = .ok chosen → expandAll chosen policy = .ok es →
    e ∈ es.filterMap (·.extension) → ∃ lines, headerLines (c.settings schema) e.typeName = .ok lines
  texts : ∀ names chosen es e, schema.select names = .ok chosen → expandAll chosen policy = .ok es →
    e ∈ es.filterMap (·.extension) → ∃ text, fileText (c.settings schema) e = .ok text

structure Answers (schema : Schema) (r : Request) (c : DiscoveryConfig) : Prop where
  named : c.inquiry.command = "info" → ∃ name, r.info = .text name ∧ c.inquiry.declaration? = some name
  filter : c.filter = r.filter
  rows : (∃ rows, chosenRows c.filter schema.summaries = .ok rows) ↔ c.filter = .null ∨ ∃ text, c.filter = .text text

theorem expansion_arms (d : Declaration) (policy : UnlabeledPolicy) (e : Expansion) (done : d.expand policy = .ok e)
    (x : Extension) (extended : e.extension = some x) (arm : Arm) (among : arm ∈ x.arms) :
    ∃ c ∈ d.cases, ∃ screen, Screen.resolve c.attributes c.name = .ok screen ∧ arm.viewType = screen.viewType := by
  rw [Declaration.expand] at done
  split at done
  · obtain rfl := Except.ok.inj done
    cases extended
  · split at done
    · obtain rfl := Except.ok.inj done
      cases extended
    · rename_i found run
      obtain ⟨modifier, _, same⟩ := bind_ok _ _ _ done
      obtain rfl := Except.ok.inj same
      cases extended
      obtain ⟨r, member, rfl⟩ := List.mem_map.mp among
      obtain ⟨c, inside, resolved⟩ := forall₂_source _ _ (map_m_ok _ _ _ run) r member
      obtain ⟨screen, screened, contributed, -⟩ := case_resolve_ok d.name c r resolved
      exact ⟨c, inside, screen, screened, congrArg Arm.viewType contributed⟩

theorem counts_add_up (es : List Expansion) :
    (Counts.ofExpansions es).failed = es.countP (!·.succeeded) ∧
      (Counts.ofExpansions es).generated + (Counts.ofExpansions es).failed = (Counts.ofExpansions es).declarations := by
  have split := es.length_eq_countP_add_countP (·.succeeded)
  simp only [Counts.ofExpansions]
  constructor
  · simp only [Bool.not_eq_true, Bool.decide_eq_false] at split
    omega
  · omega

theorem declaration_resolves (root : Element) (schema : Schema) (read : SchemaOf root schema) (d : Declaration)
    (declared : d ∈ schema.declarations) (c : Case) (among : c ∈ d.cases) (screen : Screen)
    (resolved : Screen.resolve c.attributes c.name = .ok screen) : screen.viewType ≠ "" := by
  obtain ⟨e, -, declares⟩ := forall₂_source _ _ read.declarations d declared
  obtain ⟨place, -, told⟩ := forall₂_source _ _ declares.cases c among
  exact resolved_filled place.1 place.2 c told screen resolved

theorem schema_unfailing (root : Element) (schema : Schema) (read : SchemaOf root schema) (policy : UnlabeledPolicy) :
    Unfailing schema policy := by
  have proper := schema_proper root schema read
  have resolves := declaration_resolves root schema read
  refine ⟨selection schema, fun d declared => access_modifier_admissible d.access (proper.level d declared), resolves,
    fun names chosen selected => ?_, fun name => ?_⟩
  · have among : ∀ d ∈ chosen, d ∈ schema.declarations :=
      fun d inside => (selected_sublist schema names chosen selected).subset inside
    obtain ⟨es, expanded⟩ := expanded_exists policy schema proper chosen among
    refine ⟨es, (map_m_ok_iff _ _ _).mpr expanded, fun arm member => ?_, (counts_add_up es).1, (counts_add_up es).2⟩
    obtain ⟨e, inside, listed⟩ := List.mem_flatMap.mp member
    obtain ⟨d, picked, done⟩ := forall₂_source _ _ expanded e inside
    cases extended : e.extension with
    | none => rw [extended] at listed; cases listed
    | some x =>
        rw [extended] at listed
        obtain ⟨c, case, screen, resolved, same⟩ := expansion_arms d policy e done x extended arm listed
        exact same ▸ resolves d (among d picked) c case screen resolved
  · rw [Schema.detail?]
    split
    · exact ⟨none, rfl⟩
    · rename_i d found
      obtain ⟨e, done⟩ := expand_admissible d policy (proper.level d (List.mem_of_find?_eq_some found))
      rw [Declaration.detail, done]
      exact ⟨_, rfl⟩

theorem version_filled (root : Element) (schema : Schema) (read : SchemaOf root schema) : schema.version ≠ "" := by
  obtain ⟨-, unversioned⟩ | stripped := read.version
  · rw [unversioned]
    decide
  · exact stripped.1

theorem generation_assembles (root : Element) (schema : Schema) (read : SchemaOf root schema) (policy : UnlabeledPolicy)
    (s : FileStore) (r : Request) (c : GenerateConfig) (asked : r.config s = .ok (.generate c)) :
    Assembles schema policy c := by
  have proper := schema_proper root schema read
  have passing := request_names_pass s r _ asked
  have imports := (imports_told c fun name member => passing name (List.mem_append_right _ member)).block
  have headers (names : List String) (chosen : List Declaration) (es : List Expansion) (e : Extension)
      (selected : schema.select names = .ok chosen) (expanded : expandAll chosen policy = .ok es)
      (member : e ∈ es.filterMap (·.extension)) : ∃ lines, headerLines (c.settings schema) e.typeName = .ok lines := by
    obtain ⟨x, inside, extended⟩ := List.mem_filterMap.mp member
    obtain ⟨d, picked, done⟩ := forall₂_source _ _ (map_m_ok _ _ _ expanded) x inside
    have declared := (selected_sublist schema names chosen selected).subset picked
    have named := (extension_named schema proper policy d declared e
      (by rw [extension_of_expansion policy d x done, extended])).1
    rw [headerLines, if_neg (show (c.settings schema).schemaVersion ≠ "" from version_filled root schema read), named,
      if_neg (Text.identifier_filled d.name (proper.identifier d declared))]
    exact ⟨_, rfl⟩
  refine ⟨⟨_, imports⟩, headers, fun names chosen es e selected expanded member => ?_⟩
  obtain ⟨header, begun⟩ := headers names chosen es e selected expanded member
  have lines : importLines (c.settings schema).imports = _ := imports
  rw [fileText, fileLines, begun]
  simp only [bind, Except.bind, lines, pure, Except.pure]
  exact ⟨_, rfl⟩

theorem inquiry_named (r : Request) (i : Inquiry) (done : r.inquiry = .ok i) (info : i.command = "info") :
    ∃ name, r.info = .text name ∧ i.declaration? = some name := by
  obtain ⟨asked, -⟩ := inquiry_ok r i done
  cases i with
  | table declaration => exact absurd (show "list-declarations" = "info" from info) (by decide)
  | detail name => exact ⟨name, asked, rfl⟩

theorem chosen_rows_iff (filter : RawValue) (rows : List DeclarationSummary) :
    (∃ kept, chosenRows filter rows = .ok kept) ↔ filter = .null ∨ ∃ text, filter = .text text := by
  cases filter with
  | null => exact iff_of_true ⟨_, rfl⟩ (.inl rfl)
  | text t => exact iff_of_true ⟨_, rfl⟩ (.inr ⟨t, rfl⟩)
  | bool | int | float | list | dict => exact iff_of_false nofun (by rintro (absent | ⟨text, same⟩) <;> contradiction)

/-- On a schema that was read, no stage fails but the selection of names that the schema lacks and, in a listing, a
filter that is no text. -/
theorem later_stages_unfailing (root : Element) (schema : Schema) (accepted : Schema.ofElement root = .ok schema)
    (policy : UnlabeledPolicy) :
    Unfailing schema policy ∧
      (∀ s r c, Request.config s r = .ok (.generate c) → Assembles schema policy c) ∧
      ∀ s r c, Request.config s r = .ok (.discover c) → Answers schema r c := by
  have read := (schema_ok_iff root schema).mp accepted
  refine ⟨schema_unfailing root schema read policy, generation_assembles root schema read policy,
    fun s r c asked => ?_⟩
  have discovers := discovery_as_asked s r c asked
  exact ⟨inquiry_named r c.inquiry discovers.inquiry, discovers.filter, chosen_rows_iff c.filter schema.summaries⟩

def tickedRoot : Element :=
  .node "schema" [] none
    [.node "declaration" [("name", "Home"), ("access", "public")] none
      [.node "case" [("name", "detail")] none
        [.node "attribute" [("name", "Screen")] none [.node "arg" [] (some " \x60Detail\x60 .self ") []]]]]

def tickedSchema : Schema :=
  ⟨"unversioned", [⟨"Home", "enum", some "public", [⟨"detail", [], [⟨"Screen",
    [.member "\x60Detail\x60 .self" (.reference "\x60Detail\x60" "Detail") "self"]⟩]⟩]⟩]⟩

def homeRequest (listing : Bool) (filter : RawValue) : Request :=
  ⟨.given ⟨0, ["s.xml"]⟩, .given ⟨0, ["Generated"]⟩, .null, .null, .null, listing, .null, filter⟩

theorem ticked_schema_unfailing :
    Schema.ofElement tickedRoot = .ok tickedSchema ∧
      (homeRequest false .null).config homeStore = .ok (.generate homeGeneration) ∧
      (homeRequest true (.text "home")).config homeStore =
        .ok (.discover ⟨⟨0, ["s.xml"]⟩, .positional, .table none, .text "home"⟩) ∧
      Unfailing tickedSchema .labeled ∧ Assembles tickedSchema .labeled homeGeneration ∧
      ∃ rows, chosenRows (.text "home") tickedSchema.summaries = .ok rows := by
  have accepted : Schema.ofElement tickedRoot = .ok tickedSchema := by cbv
  have asked : (homeRequest false .null).config homeStore = .ok (.generate homeGeneration) := by cbv
  have looked : (homeRequest true (.text "home")).config homeStore =
      .ok (.discover ⟨⟨0, ["s.xml"]⟩, .positional, .table none, .text "home"⟩) := by cbv
  have stages := later_stages_unfailing tickedRoot tickedSchema accepted .labeled
  exact ⟨accepted, asked, looked, stages.1, stages.2.1 _ _ _ asked, (stages.2.2 _ _ _ looked).rows.mpr (.inr ⟨_, rfl⟩)⟩

open CommandLine in
theorem emptied_filter_breaks_down :
    ∃ c schema, Schema.ofElement homeRoot = .ok schema ∧
      (homeRequest true (.list [])).config homeStore = .ok (.discover c) ∧
      (¬ ∃ rows, chosenRows c.filter schema.summaries = .ok rows) ∧
      (Run.ofArguments homeStore ["--schema", "s.xml", "--list-declarations", "--filter=--"]).ending =
        .breakdown (.misuse ⟨.filter, "list"⟩) := by
  have config : (homeRequest true (.list [])).config homeStore =
      .ok (.discover ⟨⟨0, ["s.xml"]⟩, .positional, .table none, .list []⟩) := by cbv
  have accepted : Options.ofArguments ["--schema", "s.xml", "--list-declarations", "--filter=--"] =
      .ok { Options.default with schema := .given ⟨0, ["s.xml"]⟩, listing := true, filter := .empty } := by cbv
  refine ⟨_, ⟨"unversioned", [⟨"Home", "enum", none, []⟩]⟩, rfl, config, ?_, ?_⟩
  · rintro ⟨rows, kept⟩
    cases kept
  · have run := run_of_config homeStore _ _ _ accepted config
    rw [run, Config.run, DiscoveryConfig.run, show loadSchema homeStore _ = _ from home_schema_loaded]
    rfl

end ScreenDispatch
