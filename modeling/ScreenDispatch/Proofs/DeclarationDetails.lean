import ScreenDispatch.Proofs.CompletedRuns
import ScreenDispatch.Proofs.RenderedExtensions

/-!
The detail of a declaration shows what generation makes of it: the same remarks and, if the declaration expands, an
entry for each case, from which the generated extension can be put together.
-/
set_option autoImplicit false

namespace ScreenDispatch

def CaseDetail.armLines (entry : CaseDetail) : List String :=
  ["case " ++ entry.pattern ++ ":", indent ++ entry.initializer]

def DeclarationDetail.switch (detail : DeclarationDetail) : List String :=
  "switch self \x7b" :: detail.cases.flatMap CaseDetail.armLines ++ ["\x7d"]

def EntryOf (declaration : String) (policy : UnlabeledPolicy) (c : Case) (entry : CaseDetail) : Prop :=
  ∃ r, ContributionOf declaration c r ∧
    entry = ⟨c.signature, r.arm.pattern, r.arm.initializer policy, r.arm.inferred⟩

structure Shows (d : Declaration) (policy : UnlabeledPolicy) (e : Expansion) (detail : DeclarationDetail) : Prop where
  summary : detail.summary = d.summary
  diagnostics : detail.diagnostics = e.diagnostics
  failed : e.extension = none → detail.cases = []
  entries : e.extension ≠ none → List.Forall₂ (EntryOf d.name policy) d.cases detail.cases
  signatures : e.extension ≠ none → detail.cases.map (·.signature) = d.cases.map (·.signature)
  source : ∀ x, e.extension = some x → ∃ modifier, accessModifier d.access = .ok modifier ∧
    x.typeName = d.name ∧ x.source = renderExtension d.name modifier detail.switch

-- What a run that selects the declaration leaves of this expansion: no new text but the one that is made from it, and
-- that text if all is written.
structure LeavesFile (s : FileStore) (arguments : List String) (c : GenerateConfig) (schema : Schema)
    (chosen : List Declaration) (dir : Path) (d : Declaration) (e : Expansion) : Prop where
  new : ∀ text, (Run.ofArguments s arguments).store.node? (s.place (d.file dir)) = some (.file text) →
    s.node? (s.place (d.file dir)) ≠ some (.file text) →
      ∃ x, e.extension = some x ∧ fileText (c.settings schema) x = .ok text
  written : ∀ files, Completes s arguments c schema chosen dir files → ∀ x, e.extension = some x →
    ∃ text, fileText (c.settings schema) x = .ok text ∧
      (Run.ofArguments s arguments).store.read (d.file dir) = .ok text

section Entries

variable {declaration : String} {cases : List Case} {found : List ResolvedCase}

theorem entries_of_arms (policy : UnlabeledPolicy) (each : List.Forall₂ (ContributionOf declaration) cases found) :
    List.Forall₂ (EntryOf declaration policy) cases
      (cases.zipWith (CaseDetail.ofArm policy) (found.map (·.arm))) := by
  induction each with
  | nil => exact .nil
  | cons contributed _ ih => exact .cons ⟨_, contributed, rfl⟩ ih

theorem entry_signatures {policy : UnlabeledPolicy} {entries : List CaseDetail}
    (each : List.Forall₂ (EntryOf declaration policy) cases entries) :
    entries.map (·.signature) = cases.map (·.signature) := by
  induction each with
  | nil => rfl
  | cons entry _ ih =>
      obtain ⟨r, -, rfl⟩ := entry
      rw [List.map_cons, List.map_cons, ih]

theorem entry_lines (policy : UnlabeledPolicy) (each : List.Forall₂ (ContributionOf declaration) cases found) :
    (cases.zipWith (CaseDetail.ofArm policy) (found.map (·.arm))).flatMap CaseDetail.armLines =
      (found.map (·.arm)).flatMap (·.lines policy) := by
  induction each with
  | nil => rfl
  | cons _ _ ih =>
      rw [List.map_cons, List.zipWith_cons_cons, List.flatMap_cons, List.flatMap_cons, ih]
      rfl

end Entries

theorem detail_of_expansion (d : Declaration) (policy : UnlabeledPolicy) (e : Expansion)
    (done : d.expand policy = .ok e) :
    d.detail policy = .ok ⟨d.summary,
      d.cases.zipWith (CaseDetail.ofArm policy) ((e.extension.map (·.arms)).getD []), e.diagnostics⟩ := by
  rw [Declaration.detail, done]
  rfl

theorem detail_shows_expansion (d : Declaration) (policy : UnlabeledPolicy) (e : Expansion)
    (done : d.expand policy = .ok e) : ∃ detail, d.detail policy = .ok detail ∧ Shows d policy e detail := by
  refine ⟨_, detail_of_expansion d policy e done, ?_⟩
  cases extended : e.extension with
  | none =>
      exact
        { summary := rfl
          diagnostics := rfl
          failed := fun _ => List.zipWith_nil_right
          entries := fun some => absurd extended some
          signatures := fun some => absurd extended some
          source := fun x same => by cases extended.symm.trans same }
  | some x =>
      obtain ⟨found, modifier, rendered⟩ := expansion_rendered d policy e x done extended
      obtain rfl := Option.some.inj (extended.symm.trans rendered.extended)
      have entries := entries_of_arms policy rendered.cases
      have lines := entry_lines policy rendered.cases
      exact
        { summary := rfl
          diagnostics := rfl
          failed := fun none => by cases extended.symm.trans none
          entries := fun _ => entries
          signatures := fun _ => entry_signatures entries
          source := fun x same => by
            obtain rfl := Option.some.inj (extended.symm.trans same)
            refine ⟨modifier, rendered.access, rfl, ?_⟩
            simp only [DeclarationDetail.switch, Option.map_some, Option.getD_some, Declaration.extensionOf, lines]
            rfl }

theorem detail_none_iff (schema : Schema) (name : String) (policy : UnlabeledPolicy) :
    schema.detail? name policy = .ok none ↔ name ∉ schema.names := by
  have undeclared : schema.find? name = none ↔ name ∉ schema.names := by
    rw [Schema.find?, List.find?_eq_none, Schema.names, List.mem_map]
    simp
  rw [← undeclared, Schema.detail?]
  cases schema.find? name with
  | none => exact iff_of_true rfl rfl
  | some d =>
      refine iff_of_false (fun absent => ?_) nofun
      cases detailed : d.detail policy <;> simp only [detailed] at absent <;> cases absent

theorem find_declared (schema : Schema) (distinct : schema.names.Nodup) (d : Declaration)
    (declared : d ∈ schema.declarations) : schema.find? d.name = some d := by
  cases found : schema.find? d.name with
  | none => exact absurd (beq_self_eq_true d.name) (List.find?_eq_none.mp found d declared)
  | some other =>
      rw [Schema.find?] at found
      have same := List.find?_some found
      rw [List.inj_on_of_nodup_map distinct (List.mem_of_find?_eq_some found) declared (beq_iff_eq.mp same)]

theorem Writes.new_text {s : FileStore} {arguments : List String} {c : GenerateConfig} {schema : Schema}
    {chosen : List Declaration} (writes : Writes s arguments c schema chosen) (dir : Path)
    (given : c.outputDir = .given dir) (d : Declaration) (member : d ∈ chosen) (text : String)
    (there : (Run.ofArguments s arguments).store.node? (s.place (d.file dir)) = some (.file text))
    (new : s.node? (s.place (d.file dir)) ≠ some (.file text)) :
    ∃ x, d.extension? c.policy = some x ∧ fileText (c.settings schema) x = .ok text := by
  have different : (Run.ofArguments s arguments).store.node? (s.place (d.file dir)) ≠
      s.node? (s.place (d.file dir)) := fun same => new (same ▸ there)
  cases writes.change dir given _ different with
  | directory p upward target free made => cases there.symm.trans made
  | file other x found inside expands target content taken written =>
      obtain rfl := writes.proper.files_apart s dir other d (writes.among other inside) (writes.among d member) target
      cases there.symm.trans written
      exact ⟨x, expands, content⟩

/-- The detail of a declaration shows what generation makes of it: it has the remarks of the expansion, no entry if
the expansion fails, and else an entry for each case, from which the extension is put together that a run writes. There
is no detail exactly for a name that is not declared. -/
theorem detail_shows_generation (root : Markup.Element) (schema : Schema) (read : Schema.ofElement root = .ok schema)
    (policy : UnlabeledPolicy) :
    (∀ name, schema.detail? name policy = .ok none ↔ name ∉ schema.names) ∧
    ∀ d ∈ schema.declarations, ∃ e detail, d.expand policy = .ok e ∧
      schema.detail? d.name policy = .ok (some detail) ∧ Shows d policy e detail ∧
      ∀ s arguments c chosen dir, Writes s arguments c schema chosen → c.policy = policy → c.outputDir = .given dir →
        d ∈ chosen → LeavesFile s arguments c schema chosen dir d e := by
  have proper := schema_proper root schema ((schema_ok_iff root schema).mp read)
  refine ⟨fun name => detail_none_iff schema name policy, fun d declared => ?_⟩
  obtain ⟨e, done⟩ := expand_admissible d policy (proper.level d declared)
  obtain ⟨detail, detailed, shows⟩ := detail_shows_expansion d policy e done
  have extension := extension_of_expansion policy d e done
  refine ⟨e, detail, done, ?_, shows, ?_⟩
  · rw [Schema.detail?, find_declared schema proper.distinct d declared]
    simp only [detailed]
    rfl
  · rintro s arguments c chosen dir writes rfl given member
    refine ⟨?_, ?_⟩ <;> rw [← extension]
    · exact writes.new_text dir given d member
    · exact fun files completes => completes.content d member

def soleStore (text : String) : FileStore := ⟨[], [(["s.xml"], .file text)], List.not_mem_nil⟩

theorem sole_run_completes (text : String) (schema : Schema)
    (loaded : loadSchema (soleStore text) ⟨0, ["s.xml"]⟩ = .ok schema)
    (written : (writeExtensions (soleStore text) ⟨0, ["Generated"]⟩ ((pairGeneration []).settings schema)
      (schema.declarations.filterMap (·.extension? .positional))).2.isOk = true) :
    ∃ files, Completes (soleStore text) ["--schema", "s.xml"] (pairGeneration []) schema schema.declarations
      ⟨0, ["Generated"]⟩ files := by
  have none_ordered : Text.ordered [] = [] := by simp [Text.ordered]
  have asked : (pairOptions none).request.config (soleStore text) = .ok (.generate (pairGeneration [])) :=
    (config_generate_iff _ _ _).mpr ⟨[],
      { named := rfl
        unfiltered := rfl
        noLook := rfl
        schema := rfl
        present := FileStore.holds_of_read (soleStore text) _ text rfl
        policy := rfl
        identifiers := by simp
        imports := rfl
        declarations := none_ordered.symm
        outputDir := rfl }⟩
  obtain ⟨files, done⟩ := ok_of_is_ok _ written
  exact ⟨files, ⟨⟨pairOptions none, by cbv, asked⟩, loaded, rfl⟩, rfl, done⟩

def callText : String :=
  "<schema><declaration name=\"A\"><case name=\"home\"/>" ++
    "<case name=\"call\"><param type=\"Int\"/></case></declaration></schema>"

def callRoot : Markup.Element :=
  .node "schema" [] none [.node "declaration" [("name", "A")] none
    [.node "case" [("name", "home")] none [],
      .node "case" [("name", "call")] none [.node "param" [("type", "Int")] none []]]]

def callSchema : Schema :=
  ⟨"unversioned", [⟨"A", "enum", none, [⟨"home", [], []⟩, ⟨"call", [⟨none, none, "Int"⟩], []⟩]⟩]⟩

set_option maxRecDepth 8000 in
theorem call_read : Markup.Element.read callText = .ok callRoot := by
  cbv

theorem call_accepted : Schema.ofElement callRoot = .ok callSchema := by
  cbv

theorem call_run_completes : ∃ files, Completes (soleStore callText) ["--schema", "s.xml"] (pairGeneration [])
    callSchema callSchema.declarations ⟨0, ["Generated"]⟩ files := by
  have reads : ReadsAs (soleStore callText) ⟨0, ["s.xml"]⟩ callRoot := ⟨callText, rfl, call_read⟩
  exact sole_run_completes callText callSchema ((loaded_iff reads callSchema).mpr call_accepted) (by decide +kernel)

theorem call_detail_shows_generation :
    ∃ e detail, callSchema.detail? "A" .positional = .ok (some detail) ∧
      callSchema.detail? "B" .positional = .ok none ∧
      detail.cases = [⟨"home", ".home", "Home()", true⟩, ⟨"call(Int)", ".call(let param0)", "Call(param0)", true⟩] ∧
      Shows ⟨"A", "enum", none, [⟨"home", [], []⟩, ⟨"call", [⟨none, none, "Int"⟩], []⟩]⟩ .positional e detail ∧
      LeavesFile (soleStore callText) ["--schema", "s.xml"] (pairGeneration []) callSchema callSchema.declarations
        ⟨0, ["Generated"]⟩ ⟨"A", "enum", none, [⟨"home", [], []⟩, ⟨"call", [⟨none, none, "Int"⟩], []⟩]⟩ e := by
  obtain ⟨undeclared, each⟩ := detail_shows_generation callRoot callSchema call_accepted .positional
  obtain ⟨e, detail, -, detailed, shows, leaves⟩ := each _ List.mem_cons_self
  obtain ⟨files, completes⟩ := call_run_completes
  have entries : callSchema.detail? "A" .positional = .ok (some ⟨⟨"A", "enum", none, 2⟩,
      [⟨"home", ".home", "Home()", true⟩, ⟨"call(Int)", ".call(let param0)", "Call(param0)", true⟩], []⟩) := by
    decide +kernel
  obtain rfl := Option.some.inj (Except.ok.inj (entries.symm.trans detailed))
  exact ⟨e, _, detailed, (undeclared "B").mpr (by decide), rfl, shows,
    leaves _ _ _ _ _ completes.toWrites rfl rfl List.mem_cons_self⟩

end ScreenDispatch
