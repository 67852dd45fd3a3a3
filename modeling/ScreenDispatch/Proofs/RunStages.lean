import ScreenDispatch.Proofs.ExpansionForms
import ScreenDispatch.Proofs.Inquiries
import ScreenDispatch.Proofs.SchemaReading

/-!
The stages of a run. A run ends before it could write, or it loads the schema, selects declarations, expands each
of them on its own and writes what comes of it.
-/
set_option autoImplicit false

namespace ScreenDispatch

open CommandLine (Options)

def Declaration.extension? (d : Declaration) (policy : UnlabeledPolicy) : Option Extension :=
  match d.expand policy with
  | .ok e => e.extension
  | .error _ => none

def Declaration.diagnostics (d : Declaration) (policy : UnlabeledPolicy) : List Diagnostic :=
  match d.expand policy with
  | .ok e => e.diagnostics
  | .error _ => []

inductive Outlook (d : Declaration) : Option Extension → List Diagnostic → Prop where
  | extended (e : Extension) (warnings : List Diagnostic) (named : e.typeName = d.name)
      (mild : ∀ w ∈ warnings, w.severity = .warning) : Outlook d (some e) warnings
  | failed (diagnostic : Diagnostic) (severe : diagnostic.severity = .error)
      (about : diagnostic.anchor.declaration = d.name) : Outlook d none [diagnostic]

theorem resolved_warning_mild (declaration : String) (c : Case) (r : ResolvedCase) (w : Diagnostic)
    (done : c.resolve declaration = .ok r) (given : r.warning = some w) : w.severity = .warning := by
  obtain ⟨screen, -, -, warned⟩ := case_resolve_ok declaration c r done
  rw [given] at warned
  cases warned
  rfl

theorem expand_outlook (d : Declaration) (policy : UnlabeledPolicy) (e : Expansion) (done : d.expand policy = .ok e) :
    Outlook d e.extension e.diagnostics := by
  rw [Declaration.expand] at done
  split at done
  · obtain rfl := Except.ok.inj done
    exact .failed _ rfl rfl
  · split at done
    · rename_i diagnostic stopped
      obtain rfl := Except.ok.inj done
      obtain ⟨_, c, _, _, _, failing⟩ := map_m_error _ _ _ stopped
      obtain ⟨error, _, rfl⟩ := case_resolve_error d.name c diagnostic failing
      exact .failed _ rfl rfl
    · rename_i found run
      obtain ⟨modifier, _, same⟩ := bind_ok _ _ _ done
      obtain rfl := Except.ok.inj same
      refine .extended _ _ rfl fun w member => ?_
      obtain ⟨r, inside, given⟩ := List.mem_filterMap.mp member
      obtain ⟨c, -, resolved⟩ := forall₂_source _ _ (map_m_ok _ _ _ run) r inside
      exact resolved_warning_mild d.name c r w resolved given

theorem expand_admissible (d : Declaration) (policy : UnlabeledPolicy)
    (admissible : d.access = none ∨ ∃ level : AccessLevel, d.access = some level.name) :
    ∃ e, d.expand policy = .ok e := by
  obtain ⟨modifier, known⟩ := access_modifier_admissible d.access admissible
  rw [Declaration.expand, known]
  split
  · exact ⟨_, rfl⟩
  · split <;> exact ⟨_, rfl⟩

structure Proper (schema : Schema) : Prop where
  distinct : schema.names.Nodup
  identifier : ∀ d ∈ schema.declarations, Text.isIdentifier d.name.toList = true
  level : ∀ d ∈ schema.declarations, d.access = none ∨ ∃ level : AccessLevel, d.access = some level.name

theorem schema_proper (root : Markup.Element) (schema : Schema) (read : SchemaOf root schema) : Proper schema := by
  refine ⟨read.distinct, fun d member => ?_, fun d member => ?_⟩
  all_goals obtain ⟨e, -, declared⟩ := forall₂_source _ _ read.declarations d member
  · exact declared.identifier
  · exact declared.level

def ReadsAs (s : FileStore) (path : Path) (root : Markup.Element) : Prop :=
  ∃ text, s.read path = .ok text ∧ Markup.Element.read text = .ok root

theorem loaded_iff {s : FileStore} {path : Path} {root : Markup.Element} (reads : ReadsAs s path root) (schema : Schema) :
    loadSchema s path = .ok schema ↔ Schema.ofElement root = .ok schema := by
  obtain ⟨text, found, read⟩ := reads
  simp only [loadSchema, bind_ok_iff, map_error_ok_iff, found, read, Except.ok.injEq, exists_eq_left']

theorem loaded_proper (s : FileStore) (p : Path) (schema : Schema) (loaded : loadSchema s p = .ok schema) :
    Proper schema := by
  obtain ⟨_, _, rest⟩ := bind_ok _ _ _ loaded
  obtain ⟨root, _, read⟩ := bind_ok _ _ _ rest
  exact schema_proper root schema ((schema_ok_iff root schema).mp (map_error_ok _ _ _ read))

theorem select_ok_iff (schema : Schema) (names : List String) (chosen : List Declaration) :
    schema.select names = .ok chosen ↔
      if names = [] then chosen = schema.declarations
      else (∀ name ∈ names, name ∈ schema.names) ∧ chosen = schema.declarations.filter (names.contains ·.name) := by
  have none_missing : (schema.missing names).isEmpty = true ↔ ∀ name ∈ names, name ∈ schema.names := by
    rw [List.isEmpty_iff, List.eq_nil_iff_forall_not_mem]
    simp only [Schema.missing, Text.mem_ordered, List.mem_filter]
    simp
  rw [Schema.select]
  by_cases all : names = []
  · rw [if_pos (List.isEmpty_iff.mpr all), if_pos all, Except.ok.injEq, eq_comm]
  · rw [if_neg (mt List.isEmpty_iff.mp all), if_neg all, ← none_missing]
    by_cases known : (schema.missing names).isEmpty = true
    · rw [if_pos known, Except.ok.injEq, eq_comm, and_iff_right known]
    · rw [if_neg known]
      exact iff_of_false nofun fun both => known both.1

theorem selected_sublist (schema : Schema) (names : List String) (chosen : List Declaration)
    (selected : schema.select names = .ok chosen) : chosen.Sublist schema.declarations := by
  have chose := (select_ok_iff schema names chosen).mp selected
  by_cases all : names = []
  · rw [if_pos all] at chose
    rw [chose]
  · rw [if_neg all] at chose
    rw [chose.2]
    exact List.filter_sublist

structure Writes (s : FileStore) (arguments : List String) (c : GenerateConfig) (schema : Schema)
    (chosen : List Declaration) : Prop where
  asked : ∃ o, Options.ofArguments arguments = .ok o ∧ o.request.config s = .ok (.generate c)
  loaded : loadSchema s c.schema = .ok schema
  selected : schema.select c.declarations = .ok chosen

-- The ways to end earlier: the arguments or the request are refused, the request only looks at the schema, or the
-- schema cannot be loaded or lacks a name.
inductive EndsBefore (s : FileStore) (arguments : List String) : Prop where
  | interrupted (interrupt : CommandLine.Interrupt) (stopped : Options.ofArguments arguments = .error interrupt)
  | refused (o : Options) (e : RequestError) (accepted : Options.ofArguments arguments = .ok o)
      (wrong : o.request.config s = .error e)
  | looked (o : Options) (d : DiscoveryConfig) (accepted : Options.ofArguments arguments = .ok o)
      (asked : o.request.config s = .ok (.discover d))
  | unreadable (o : Options) (c : GenerateConfig) (e : RunError) (accepted : Options.ofArguments arguments = .ok o)
      (asked : o.request.config s = .ok (.generate c)) (unread : loadSchema s c.schema = .error e)
  | undeclared (o : Options) (c : GenerateConfig) (schema : Schema) (e : SchemaError)
      (accepted : Options.ofArguments arguments = .ok o) (asked : o.request.config s = .ok (.generate c))
      (loaded : loadSchema s c.schema = .ok schema) (unknown : schema.select c.declarations = .error e)

theorem ends_before_or_writes (s : FileStore) (arguments : List String) :
    EndsBefore s arguments ∨ ∃ c schema chosen, Writes s arguments c schema chosen := by
  cases accepted : Options.ofArguments arguments with
  | error interrupt => exact .inl (.interrupted interrupt accepted)
  | ok o =>
      cases asked : o.request.config s with
      | error e => exact .inl (.refused o e accepted asked)
      | ok config =>
          cases config with
          | discover d => exact .inl (.looked o d accepted asked)
          | generate c =>
              cases loaded : loadSchema s c.schema with
              | error e => exact .inl (.unreadable o c e accepted asked loaded)
              | ok schema =>
                  cases selected : schema.select c.declarations with
                  | error e => exact .inl (.undeclared o c schema e accepted asked loaded selected)
                  | ok chosen => exact .inr ⟨c, schema, chosen, ⟨o, accepted, asked⟩, loaded, selected⟩

theorem run_of_config (s : FileStore) (arguments : List String) (o : Options) (config : Config)
    (accepted : Options.ofArguments arguments = .ok o) (asked : o.request.config s = .ok config) :
    Run.ofArguments s arguments = config.run s := by
  rw [Run.ofArguments, accepted]
  simp only [Request.run, asked]

theorem early_end_keeps_store (s : FileStore) (arguments : List String) (ended : EndsBefore s arguments) :
    (Run.ofArguments s arguments).store = s := by
  cases ended with
  | interrupted interrupt stopped =>
      rw [Run.ofArguments, stopped]
      cases interrupt <;> rfl
  | refused o e accepted wrong =>
      rw [Run.ofArguments, accepted]
      simp only [Request.run, wrong]
      cases e <;> rfl
  | looked o d accepted asked =>
      rw [run_of_config s arguments o _ accepted asked]
      exact discovery_keeps_store s d
  | unreadable o c e accepted asked unread =>
      rw [run_of_config s arguments o _ accepted asked, Config.run, GenerateConfig.run, unread]
      rfl
  | undeclared o c schema e accepted asked loaded unknown =>
      rw [run_of_config s arguments o _ accepted asked, Config.run, GenerateConfig.run, loaded]
      simp only [GenerateConfig.expansions, unknown]
      rfl

def Expanded (policy : UnlabeledPolicy) (chosen : List Declaration) (es : List Expansion) : Prop :=
  List.Forall₂ (fun d e => d.expand policy = .ok e) chosen es

theorem expanded_exists (policy : UnlabeledPolicy) (schema : Schema) (proper : Proper schema) (chosen : List Declaration)
    (among : ∀ d ∈ chosen, d ∈ schema.declarations) : ∃ es, Expanded policy chosen es :=
  (forall₂_exists_iff _ chosen).mpr fun d member => expand_admissible d policy (proper.level d (among d member))

section Writes

variable {s : FileStore} {arguments : List String} {c : GenerateConfig} {schema : Schema} {chosen : List Declaration}

theorem Writes.among (writes : Writes s arguments c schema chosen) : ∀ d ∈ chosen, d ∈ schema.declarations :=
  fun _ member => (selected_sublist schema _ chosen writes.selected).subset member

theorem Writes.proper (writes : Writes s arguments c schema chosen) : Proper schema :=
  loaded_proper s c.schema schema writes.loaded

theorem Writes.run (writes : Writes s arguments c schema chosen) :
    ∃ es, Expanded c.policy chosen es ∧ Run.ofArguments s arguments =
      c.finish s schema es (c.parsingText ++ GenerateConfig.schemaText schema ++ c.expandedText es) := by
  obtain ⟨o, accepted, asked⟩ := writes.asked
  obtain ⟨es, expanded⟩ := expanded_exists c.policy schema writes.proper chosen writes.among
  have all : expandAll chosen c.policy = .ok es := (map_m_ok_iff _ _ _).mpr expanded
  refine ⟨es, expanded, ?_⟩
  rw [run_of_config s arguments o _ accepted asked, Config.run, GenerateConfig.run, writes.loaded]
  simp only [GenerateConfig.expansions, writes.selected, all, Except.mapError, bind, Except.bind]

end Writes

theorem extension_of_expansion (policy : UnlabeledPolicy) (d : Declaration) (e : Expansion)
    (done : d.expand policy = .ok e) : d.extension? policy = e.extension := by
  rw [Declaration.extension?, done]

theorem diagnostics_of_expansion (policy : UnlabeledPolicy) (d : Declaration) (e : Expansion)
    (done : d.expand policy = .ok e) : d.diagnostics policy = e.diagnostics := by
  rw [Declaration.diagnostics, done]

theorem outlook (d : Declaration) (policy : UnlabeledPolicy)
    (admissible : d.access = none ∨ ∃ level : AccessLevel, d.access = some level.name) :
    Outlook d (d.extension? policy) (d.diagnostics policy) := by
  obtain ⟨e, done⟩ := expand_admissible d policy admissible
  rw [extension_of_expansion policy d e done, diagnostics_of_expansion policy d e done]
  exact expand_outlook d policy e done

section Expanded

variable {policy : UnlabeledPolicy} {chosen : List Declaration} {es : List Expansion}

theorem expanded_extensions (expanded : Expanded policy chosen es) :
    es.filterMap (·.extension) = chosen.filterMap (·.extension? policy) := by
  induction expanded with
  | nil => rfl
  | cons first _ ih => rw [List.filterMap_cons, List.filterMap_cons, ih, extension_of_expansion _ _ _ first]

theorem expanded_diagnostics (expanded : Expanded policy chosen es) :
    allDiagnostics es = chosen.flatMap (·.diagnostics policy) := by
  induction expanded with
  | nil => rfl
  | cons first _ ih =>
      rw [List.flatMap_cons, ← ih, diagnostics_of_expansion _ _ _ first]
      rfl

theorem all_succeeded_iff (expanded : Expanded policy chosen es) :
    es.all (·.succeeded) = true ↔ ∀ d ∈ chosen, d.extension? policy ≠ none := by
  induction expanded with
  | nil => exact iff_of_true rfl nofun
  | cons first _ ih =>
      rw [List.all_cons, Bool.and_eq_true, ih, List.forall_mem_cons, extension_of_expansion _ _ _ first,
        Expansion.succeeded, Option.isSome_iff_ne_none]

end Expanded

end ScreenDispatch
