import ScreenDispatch.Proofs.ChangedPlaces
import ScreenDispatch.Proofs.FileRequests

/-!
What a run without write errors hands over: the files of the declarations that expand, an error for each of the
others, the report and the exit status.
-/
set_option autoImplicit false

namespace ScreenDispatch

open CommandLine (Options)

structure Completes (s : FileStore) (arguments : List String) (c : GenerateConfig) (schema : Schema)
    (chosen : List Declaration) (dir : Path) (files : List GeneratedFile) : Prop
    extends Writes s arguments c schema chosen where
  given : c.outputDir = .given dir
  written : (writeExtensions s dir (c.settings schema) (chosen.filterMap (·.extension? c.policy))).2 = .ok files

-- What is there after such a run: the files, what was shown and the exit status. At the place of a file that is not
-- written a directory may be new, if the way to the output directory leads there and back.
structure HandsOver (s : FileStore) (run : Run) (c : GenerateConfig) (schema : Schema) (chosen : List Declaration)
    (dir : Path) (files : List GeneratedFile) : Prop where
  content : ∀ d ∈ chosen, ∀ e, d.extension? c.policy = some e →
    ∃ text, fileText (c.settings schema) e = .ok text ∧ run.store.read (d.file dir) = .ok text
  apart : ∀ d ∈ chosen, ∀ other ∈ chosen, s.place (other.file dir) = s.place (d.file dir) → other = d
  unwritten : ∀ d ∈ chosen, d.extension? c.policy = none → ∀ text,
    run.store.node? (s.place (d.file dir)) = some (.file text) ↔ s.node? (s.place (d.file dir)) = some (.file text)
  listed : files.map (·.name) =
    (chosen.filter fun d => (d.extension? c.policy).isSome).map fun d => fileName d.name
  shown : run.err = String.join ((chosen.flatMap (·.diagnostics c.policy)).map fun x => x.line ++ "\n")
  failing : ∀ d ∈ chosen, d.extension? c.policy = none →
    ∃ x, d.diagnostics c.policy = [x] ∧ x.severity = .error ∧ x.anchor.declaration = d.name
  errors : ((chosen.flatMap (·.diagnostics c.policy)).filter (·.severity == .error)).map (·.anchor.declaration) =
    (chosen.filter fun d => (d.extension? c.policy).isNone).map (·.name)
  distinct : (chosen.map (·.name)).Nodup
  summary : ∃ es, Expanded c.policy chosen es ∧ run.out =
    c.parsingText ++ GenerateConfig.schemaText schema ++ c.expandedText es ++ GenerateConfig.writtenText dir files ++
      (c.report schema dir es files).text
  ending : run.ending = .exit (if chosen.all fun d => (d.extension? c.policy).isSome then 0 else 1)

theorem file_place (s : FileStore) (d : Declaration) (dir : Path) :
    s.place (d.file dir) = s.place dir ++ [fileName d.name] :=
  FileStore.place_child s dir _ (file_name_proper _ _ (by decide))

theorem Proper.files_apart {schema : Schema} (proper : Proper schema) (s : FileStore) (dir : Path) (d other : Declaration)
    (declared : d ∈ schema.declarations) (present : other ∈ schema.declarations)
    (same : s.place (other.file dir) = s.place (d.file dir)) : other = d := by
  rw [file_place, file_place] at same
  have names := file_name_injective _ _ (List.cons.inj (List.append_cancel_left same)).1
  exact List.inj_on_of_nodup_map proper.distinct present declared names

theorem written_names (s t : FileStore) (dir : Path) (settings : FileSettings) (exts : List Extension)
    (files : List GeneratedFile) (done : writeExtensions s dir settings exts = (t, .ok files)) :
    files.map (·.name) = exts.map fun e => fileName e.typeName := by
  have told := files_told s t exts files done
  clear done
  induction told with
  | nil => rfl
  | cons told _ ih =>
      obtain ⟨text, -, rfl⟩ := told
      rw [List.map_cons, List.map_cons, ih]

theorem own_errors (d : Declaration) (extension : Option Extension) (diagnostics : List Diagnostic)
    (outlook : Outlook d extension diagnostics) :
    (diagnostics.filter (·.severity == .error)).map (·.anchor.declaration) =
      if extension.isNone then [d.name] else [] := by
  cases outlook with
  | extended e warnings named mild =>
      rw [List.filter_eq_nil_iff.mpr fun w member => by rw [mild w member]; decide]
      rfl
  | failed diagnostic severe about =>
      have kept : [diagnostic].filter (·.severity == .error) = [diagnostic] := by simp [severe]
      rw [kept, List.map_singleton, about]
      rfl

theorem failing_outlook (d : Declaration) (diagnostics : List Diagnostic) (outlook : Outlook d none diagnostics) :
    ∃ x, diagnostics = [x] ∧ x.severity = .error ∧ x.anchor.declaration = d.name := by
  cases outlook with
  | failed x severe about => exact ⟨x, rfl, severe, about⟩

theorem errors_about (policy : UnlabeledPolicy) (chosen : List Declaration)
    (outlooks : ∀ d ∈ chosen, Outlook d (d.extension? policy) (d.diagnostics policy)) :
    ((chosen.flatMap (·.diagnostics policy)).filter (·.severity == .error)).map (·.anchor.declaration) =
      (chosen.filter fun d => (d.extension? policy).isNone).map (·.name) := by
  induction chosen with
  | nil => rfl
  | cons d rest ih =>
      obtain ⟨first, others⟩ := List.forall_mem_cons.mp outlooks
      rw [List.flatMap_cons, List.filter_append, List.map_append, ih others, own_errors d _ _ first, List.filter_cons]
      split <;> rfl

theorem extensions_named (schema : Schema) (proper : Proper schema) (policy : UnlabeledPolicy)
    (chosen : List Declaration) (among : ∀ d ∈ chosen, d ∈ schema.declarations) :
    (chosen.filterMap (·.extension? policy)).map (fun e => fileName e.typeName) =
      (chosen.filter fun d => (d.extension? policy).isSome).map fun d => fileName d.name := by
  induction chosen with
  | nil => rfl
  | cons d rest ih =>
      obtain ⟨first, others⟩ := List.forall_mem_cons.mp among
      cases expands : d.extension? policy with
      | none =>
          simp only [List.filterMap_cons, List.filter_cons, expands]
          exact ih others
      | some e =>
          have named := (extension_named schema proper policy d first e expands).1
          simp only [List.filterMap_cons, List.filter_cons, expands, List.map_cons, named, ih others]
          rfl

theorem extending_alone (policy : UnlabeledPolicy) (chosen : List Declaration) :
    (chosen.filter fun d => (d.extension? policy).isSome).filterMap (·.extension? policy) =
      chosen.filterMap (·.extension? policy) := by
  rw [List.filterMap_filter]
  refine List.filterMap_congr fun d _ => ?_
  cases d.extension? policy <;> rfl

theorem finish_written (s t : FileStore) (c : GenerateConfig) (schema : Schema) (es : List Expansion) (out : String)
    (dir : Path) (files : List GeneratedFile) (given : c.outputDir = .given dir)
    (done : writeExtensions s dir (c.settings schema) (es.filterMap (·.extension)) = (t, .ok files)) :
    c.finish s schema es out =
      ⟨t, out ++ GenerateConfig.writtenText dir files ++ (c.report schema dir es files).text,
        GenerateConfig.diagnosticText es, .exit (if es.all (·.succeeded) then 0 else 1)⟩ := by
  rw [GenerateConfig.finish, given]
  simp only [GenerateConfig.finishIn, done]

section Completed

variable {s : FileStore} {arguments : List String} {c : GenerateConfig} {schema : Schema} {chosen : List Declaration}
  {dir : Path} {files : List GeneratedFile}

theorem Completes.done (completes : Completes s arguments c schema chosen dir files) :
    writeExtensions s dir (c.settings schema) (chosen.filterMap (·.extension? c.policy)) =
      ((Run.ofArguments s arguments).store, .ok files) := by
  rw [completes.toWrites.store dir completes.given, ← completes.written]

theorem Writes.extensions_apart (writes : Writes s arguments c schema chosen) (dir : Path) (e other : Extension)
    (member : e ∈ chosen.filterMap (·.extension? c.policy)) (inside : other ∈ chosen.filterMap (·.extension? c.policy))
    (same : s.place (other.path dir) = s.place (e.path dir)) : other = e := by
  obtain ⟨d, here, expands, -, path⟩ := writes.extension e member
  obtain ⟨another, there, also, -, course⟩ := writes.extension other inside
  rw [path, course] at same
  obtain rfl := writes.proper.files_apart s dir d another (writes.among d here) (writes.among another there) same
  exact Option.some.inj (also.symm.trans expands)

theorem Writes.content (writes : Writes s arguments c schema chosen) (t : FileStore) (exts : List Extension)
    (done : writeExtensions s dir (c.settings schema) exts = (t, .ok files))
    (among : ∀ e ∈ exts, e ∈ chosen.filterMap (·.extension? c.policy)) (d : Declaration) (member : d ∈ chosen)
    (e : Extension) (expands : d.extension? c.policy = some e) (inside : e ∈ exts) :
    ∃ text, fileText (c.settings schema) e = .ok text ∧ t.read (d.file dir) = .ok text := by
  obtain ⟨text, content, -, reads⟩ := written_holds s t exts files done e inside fun other present =>
    writes.extensions_apart dir e other (among e inside) (among other present)
  rw [extension_path schema writes.proper c.policy d (writes.among d member) e expands] at reads
  exact ⟨text, content, reads⟩

theorem Completes.content (completes : Completes s arguments c schema chosen dir files) (d : Declaration)
    (member : d ∈ chosen) (e : Extension) (expands : d.extension? c.policy = some e) :
    ∃ text, fileText (c.settings schema) e = .ok text ∧
      (Run.ofArguments s arguments).store.read (d.file dir) = .ok text :=
  completes.toWrites.content _ _ completes.done (fun _ inside => inside) d member e expands
    (List.mem_filterMap.mpr ⟨d, member, expands⟩)

theorem Completes.unwritten (completes : Completes s arguments c schema chosen dir files) (d : Declaration)
    (member : d ∈ chosen) (fails : d.extension? c.policy = none) (text : String) :
    (Run.ofArguments s arguments).store.node? (s.place (d.file dir)) = some (.file text) ↔
      s.node? (s.place (d.file dir)) = some (.file text) := by
  by_cases same : (Run.ofArguments s arguments).store.node? (s.place (d.file dir)) = s.node? (s.place (d.file dir))
  · rw [same]
  · cases completes.change dir completes.given _ same with
    | directory p _ _ free made =>
        rw [free, made]
        exact iff_of_false nofun nofun
    | file other e _ inside expands target =>
        obtain rfl := completes.proper.files_apart s dir other d (completes.among other inside)
          (completes.among d member) target
        cases fails.symm.trans expands

theorem Completes.hands_over (completes : Completes s arguments c schema chosen dir files) :
    HandsOver s (Run.ofArguments s arguments) c schema chosen dir files := by
  have outlooks : ∀ d ∈ chosen, Outlook d (d.extension? c.policy) (d.diagnostics c.policy) := fun d member =>
    outlook d c.policy (completes.proper.level d (completes.among d member))
  obtain ⟨es, expanded, run⟩ := completes.run
  have done := completes.done
  rw [← expanded_extensions expanded] at done
  have finished := finish_written s _ c schema es
    (c.parsingText ++ GenerateConfig.schemaText schema ++ c.expandedText es) dir files completes.given done
  rw [← run] at finished
  have succeeded : es.all (·.succeeded) = chosen.all fun d => (d.extension? c.policy).isSome := by
    rw [Bool.eq_iff_iff, all_succeeded_iff expanded, List.all_eq_true]
    simp only [Option.isSome_iff_ne_none]
  exact
    { content := completes.content
      apart := fun d member other inside => completes.proper.files_apart s dir d other (completes.among d member)
        (completes.among other inside)
      unwritten := completes.unwritten
      listed := by
        rw [written_names s _ dir _ _ files completes.done,
          extensions_named schema completes.proper c.policy chosen completes.among]
      shown := by rw [finished, ← expanded_diagnostics expanded, GenerateConfig.diagnosticText]
      failing := fun d member fails => failing_outlook d _ (fails ▸ outlooks d member)
      errors := errors_about c.policy chosen outlooks
      distinct := completes.proper.distinct.sublist ((selected_sublist schema _ chosen completes.selected).map _)
      summary := ⟨es, expanded, by rw [finished]⟩
      ending := by rw [finished, succeeded] }

/-- In a run without write errors each declaration that expands has a file of its own, which is told from the
declaration and the settings alone. Each of the others has one error and no file, and any of them makes the exit
status 1. -/
theorem completed_run_hands_over (completes : Completes s arguments c schema chosen dir files) :
    HandsOver s (Run.ofArguments s arguments) c schema chosen dir files ∧
    (∀ s' arguments' c' schema' chosen' dir' files', Completes s' arguments' c' schema' chosen' dir' files' →
      c'.settings schema' = c.settings schema → ∀ d ∈ chosen, d ∈ chosen' → d.extension? c.policy ≠ none →
        (Run.ofArguments s' arguments').store.read (d.file dir') =
          (Run.ofArguments s arguments).store.read (d.file dir)) ∧
    (∀ arguments' c', Writes s arguments' c' schema (chosen.filter fun d => (d.extension? c.policy).isSome) →
      c'.settings schema = c.settings schema → c'.outputDir = .given dir →
        (Run.ofArguments s arguments').store = (Run.ofArguments s arguments).store) := by
  refine ⟨completes.hands_over, ?_, ?_⟩
  · intro s' arguments' c' schema' chosen' dir' files' others same d member present expands
    obtain ⟨e, extends_to⟩ := Option.ne_none_iff_exists'.mp expands
    have policy : c'.policy = c.policy := congrArg FileSettings.policy same
    obtain ⟨text, content, reads⟩ := completes.content d member e extends_to
    obtain ⟨again, rewritten, also⟩ := others.content d present e (policy ▸ extends_to)
    rw [same, content] at rewritten
    rw [reads, also, Except.ok.inj rewritten]
  · intro arguments' c' writes same given
    have policy : c'.policy = c.policy := congrArg FileSettings.policy same
    rw [writes.store dir given, completes.toWrites.store dir completes.given, same, policy, extending_alone]

end Completed

def pairText : String := "<schema><declaration name=\"A\"/><declaration name=\"B\" kind=\"struct\"/></schema>"

def pairStore : FileStore := ⟨[], [(["s.xml"], .file pairText)], List.not_mem_nil⟩

def pairSchema : Schema := ⟨"unversioned", [⟨"A", "enum", none, []⟩, ⟨"B", "struct", none, []⟩]⟩

def pairGeneration (names : List String) : GenerateConfig :=
  ⟨⟨0, ["s.xml"]⟩, .given ⟨0, ["Generated"]⟩, names, defaultImports, .positional⟩

set_option maxRecDepth 4000 in
theorem pair_read : Markup.Element.read pairText = .ok (.node "schema" [] none
    [.node "declaration" [("name", "A")] none [],
      .node "declaration" [("name", "B"), ("kind", "struct")] none []]) := by
  cbv

theorem pair_loaded : loadSchema pairStore ⟨0, ["s.xml"]⟩ = .ok pairSchema := by
  have text : pairStore.read ⟨0, ["s.xml"]⟩ = .ok pairText := by rfl
  rw [loadSchema, text]
  simp only [Except.mapError, bind, Except.bind, pair_read]
  rfl

theorem pair_written : ∃ files, (writeExtensions pairStore ⟨0, ["Generated"]⟩ ((pairGeneration []).settings pairSchema)
    (pairSchema.declarations.filterMap (·.extension? .positional))).2 = .ok files :=
  ok_of_is_ok _ (by decide +kernel)

def pairOptions (groups : Option (List (List String))) : Options :=
  { Options.default with schema := .given ⟨0, ["s.xml"]⟩, declarations := groups }

theorem pair_asked (groups : Option (List (List String)))
    (identifiers : ∀ name ∈ (groups.getD []).flatten, Text.isIdentifierLine name.toList = true) :
    (pairOptions groups).request.config pairStore =
      .ok (.generate (pairGeneration (Text.ordered (groups.getD []).flatten))) :=
  (config_generate_iff _ _ _).mpr ⟨_,
    { named := RawValue.names_of_groups groups
      unfiltered := rfl
      noLook := rfl
      schema := rfl
      present := FileStore.holds_of_read pairStore _ pairText rfl
      policy := rfl
      identifiers := identifiers
      imports := rfl
      declarations := rfl
      outputDir := rfl }⟩

theorem pair_run_writes :
    Writes pairStore ["--schema", "s.xml"] (pairGeneration []) pairSchema pairSchema.declarations := by
  have none_ordered : Text.ordered [] = [] := by simp [Text.ordered]
  have asked := pair_asked none (List.forall_mem_nil _)
  rw [Option.getD_none, List.flatten_nil, none_ordered] at asked
  exact ⟨⟨pairOptions none, by cbv, asked⟩, pair_loaded, rfl⟩

theorem pair_run_hands_over :
    ∃ files, Completes pairStore ["--schema", "s.xml"] (pairGeneration []) pairSchema pairSchema.declarations
        ⟨0, ["Generated"]⟩ files ∧
      HandsOver pairStore (Run.ofArguments pairStore ["--schema", "s.xml"]) (pairGeneration []) pairSchema
        pairSchema.declarations ⟨0, ["Generated"]⟩ files ∧
      (Run.ofArguments pairStore ["--schema", "s.xml"]).ending = .exit 1 := by
  obtain ⟨files, written⟩ := pair_written
  have completes : Completes pairStore ["--schema", "s.xml"] (pairGeneration []) pairSchema pairSchema.declarations
      ⟨0, ["Generated"]⟩ files := ⟨pair_run_writes, rfl, written⟩
  have handed := (completed_run_hands_over completes).1
  exact ⟨files, completes, handed, handed.ending⟩

end ScreenDispatch
