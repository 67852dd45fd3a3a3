import ScreenDispatch.Proofs.SelectedRuns

/-!
The same run once more. What the first run wrote stands in its way nowhere: the schema is read again, the directory
is there, and each file is replaced by itself.
-/
set_option autoImplicit false

namespace ScreenDispatch

open CommandLine (Options)
open FileStore

theorem put_entry_same (place : Location) (node : Node) (entries : List (Location × Node))
    (there : findEntry place entries = some node) : putEntry place node entries = entries := by
  induction entries with
  | nil => cases there
  | cons entry rest ih =>
      rcases entry with ⟨first, old⟩
      by_cases same : first = place
      · subst same
        rw [findEntry, if_pos rfl] at there
        rw [putEntry, if_pos rfl, Option.some.inj there]
      · rw [findEntry, if_neg same] at there
        rw [putEntry, if_neg same, ih there]

theorem put_same (s : FileStore) (place : Location) (node : Node) (there : s.node? place = some node)
    (inner : place ≠ []) : s.put place node = s := by
  rw [node?, if_neg inner] at there
  rw [put, put_entry_same place node s.entries there]

section Rewriting

variable {settings : FileSettings} {dir : Path}

-- What is told of a file apart from where it is.
def GeneratedFile.account (f : GeneratedFile) : String × Nat × Nat := (f.name, f.lines, f.bytes)

theorem TellsOf.account {s u : FileStore} {e : Extension} {file other : GeneratedFile}
    (first : TellsOf settings dir s e file) (second : TellsOf settings dir u e other) :
    other.account = file.account := by
  obtain ⟨text, content, rfl⟩ := first
  obtain ⟨copy, same, rfl⟩ := second
  obtain rfl := Except.ok.inj (content.symm.trans same)
  rfl

theorem TellsOf.unique {s : FileStore} {e : Extension} {file other : GeneratedFile}
    (first : TellsOf settings dir s e file) (second : TellsOf settings dir s e other) : other = file := by
  obtain ⟨text, content, rfl⟩ := first
  obtain ⟨copy, same, rfl⟩ := second
  obtain rfl := Except.ok.inj (content.symm.trans same)
  rfl

theorem told_agree {β : Type} (f : GeneratedFile → β) (s u : FileStore) (exts : List Extension)
    (files more : List GeneratedFile) (first : List.Forall₂ (TellsOf settings dir s) exts files)
    (second : List.Forall₂ (TellsOf settings dir u) exts more)
    (agree : ∀ e file other, TellsOf settings dir s e file → TellsOf settings dir u e other → f other = f file) :
    more.map f = files.map f := by
  induction first generalizing more with
  | nil => rw [List.forall₂_nil_left_iff.mp second]
  | cons told _ ih =>
      obtain ⟨again, others, also, rest, rfl⟩ := List.forall₂_cons_left_iff.mp second
      rw [List.map_cons, List.map_cons, agree _ _ _ told also, ih others rest]

theorem same_accounts (s t u v : FileStore) (exts : List Extension) (files more : List GeneratedFile)
    (first : writeExtensions s dir settings exts = (t, .ok files))
    (second : writeExtensions u dir settings exts = (v, .ok more)) : more.map (·.account) = files.map (·.account) :=
  told_agree _ s u exts files more (files_told s t exts files first) (files_told u v exts more second)
    fun _ _ _ => TellsOf.account

theorem same_files (s t u v : FileStore) (exts : List Extension) (files more : List GeneratedFile)
    (current : u.current = s.current) (first : writeExtensions s dir settings exts = (t, .ok files))
    (second : writeExtensions u dir settings exts = (v, .ok more)) : more = files := by
  have told := files_told u v exts more second
  rw [tells_of_current s u current] at told
  have same := told_agree id s s exts files more (files_told s t exts files first) told fun _ _ _ => TellsOf.unique
  rwa [List.map_id, List.map_id] at same

structure InPlace (settings : FileSettings) (dir : Path) (t : FileStore) (e : Extension) : Prop where
  fits : Fits dir (fileName e.typeName)
  reaches : t.Reaches (t.resolve dir)
  resolved : Fits (t.resolve dir) (fileName e.typeName)
  holds : ∃ text, fileText settings e = .ok text ∧ t.node? (t.place (e.path dir)) = some (.file text)

theorem write_in_place (t : FileStore) (e : Extension) (there : t.Stands dir) (plain : e.Plain)
    (inPlace : InPlace settings dir t e) : ∃ file, writeExtension t dir settings e = (t, .ok file) := by
  obtain ⟨fits, reaches, resolved, text, content, stands⟩ := inPlace
  have other : t.node? (t.place (e.path dir)) ≠ some .directory := by
    rw [stands]
    nofun
  have same := put_same t _ _ stands (not_root_of_node t _ other)
  have writable : Writable settings dir t e := ⟨⟨text, content⟩, fits, other, reaches, resolved⟩
  exact ⟨_, (write_standing_iff t t e _ there plain).mpr ⟨writable, text, content, same.symm, rfl⟩⟩

theorem all_in_place (t : FileStore) (exts : List Extension) (there : t.Stands dir) (plain : ∀ e ∈ exts, e.Plain)
    (inPlace : ∀ e ∈ exts, InPlace settings dir t e) : ∃ files, writeExtensions t dir settings exts = (t, .ok files) := by
  induction exts with
  | nil => exact ⟨[], rfl⟩
  | cons e rest ih =>
      obtain ⟨first, others⟩ := List.forall_mem_cons.mp plain
      obtain ⟨here, elsewhere⟩ := List.forall_mem_cons.mp inPlace
      obtain ⟨file, written⟩ := write_in_place t e there first here
      obtain ⟨files, onward⟩ := ih others elsewhere
      exact ⟨file :: files, (write_extensions_cons_ok t t e rest _).mpr ⟨t, file, files, written, onward, rfl⟩⟩

theorem written_in_place (s t : FileStore) (exts : List Extension) (files : List GeneratedFile)
    (plain : ∀ e ∈ exts, e.Plain)
    (alone : ∀ e ∈ exts, ∀ other ∈ exts, s.place (other.path dir) = s.place (e.path dir) → other = e)
    (done : writeExtensions s dir settings exts = (t, .ok files)) (some : exts ≠ []) :
    t.Stands dir ∧ ∀ e ∈ exts, InPlace settings dir t e := by
  obtain ⟨m, made⟩ := made_if_written s t exts files some done
  have there := made_stands s m made
  have onward := done
  rw [write_from_made s m exts some made] at onward
  have settled := all_written_settled m t exts files onward
  have writable := (standing_writes_iff m exts there plain).mp ⟨t, files, onward⟩
  have resolve := resolve_of_current m t dir settled.current
  refine ⟨there.kept settled.current settled.keeps, fun e member => ?_⟩
  obtain ⟨-, fits, -, reaches, resolved⟩ := writable e member
  obtain ⟨text, content, holds, -⟩ := written_holds s t exts files done e member (alone e member)
  have current := (all_written_settled s t exts files done).current
  refine ⟨fits, ?_, resolve ▸ resolved, text, content, by rw [place_of_current s t _ current, holds]⟩
  rw [resolve]
  exact reaches.kept settled.current settled.keeps

theorem rewriting_changes_nothing (s t : FileStore) (exts : List Extension) (files : List GeneratedFile)
    (plain : ∀ e ∈ exts, e.Plain)
    (alone : ∀ e ∈ exts, ∀ other ∈ exts, s.place (other.path dir) = s.place (e.path dir) → other = e)
    (done : writeExtensions s dir settings exts = (t, .ok files)) :
    writeExtensions t dir settings exts = (t, .ok files) := by
  by_cases none : exts = []
  · subst none
    rw [← (Prod.mk.inj done).2]
    rfl
  · obtain ⟨there, inPlace⟩ := written_in_place s t exts files plain alone done none
    obtain ⟨more, again⟩ := all_in_place t exts there plain inPlace
    rw [again, same_files s t t t exts files more (all_written_settled s t exts files done).current done again]

end Rewriting

theorem expanded_unique {policy : UnlabeledPolicy} {chosen : List Declaration} {es others : List Expansion}
    (expanded : Expanded policy chosen es) (also : Expanded policy chosen others) : others = es := by
  have first := (map_m_ok_iff _ _ _).mpr expanded
  have second := (map_m_ok_iff _ _ _).mpr also
  exact Except.ok.inj (second.symm.trans first)

section Repeated

variable {s : FileStore} {arguments : List String} {c : GenerateConfig} {schema : Schema} {chosen : List Declaration}
  {dir : Path} {files : List GeneratedFile}

theorem Completes.outcome (completes : Completes s arguments c schema chosen dir files) :
    ∃ es, Expanded c.policy chosen es ∧ Run.ofArguments s arguments =
      ⟨(Run.ofArguments s arguments).store,
        c.parsingText ++ GenerateConfig.schemaText schema ++ c.expandedText es ++
          GenerateConfig.writtenText dir files ++ (c.report schema dir es files).text,
        GenerateConfig.diagnosticText es, .exit (if es.all (·.succeeded) then 0 else 1)⟩ := by
  obtain ⟨es, expanded, run⟩ := completes.run
  have done := completes.done
  rw [← expanded_extensions expanded] at done
  refine ⟨es, expanded, ?_⟩
  rw [← finish_written s _ c schema es _ dir files completes.given done, ← run]

theorem Writes.again (writes : Writes s arguments c schema chosen) (t : FileStore)
    (loaded : loadSchema t c.schema = .ok schema) (present : t.holds c.schema = .ok true) :
    Writes t arguments c schema chosen := by
  obtain ⟨o, accepted, asked⟩ := writes.asked
  obtain ⟨names, all⟩ := (config_generate_iff s o.request c).mp asked
  have again := (config_generate_iff t o.request c).mpr ⟨names, { all with present := present }⟩
  exact ⟨⟨o, accepted, again⟩, loaded, writes.selected⟩

theorem Completes.again (completes : Completes s arguments c schema chosen dir files) (spares : Spares s dir c chosen) :
    Completes (Run.ofArguments s arguments).store arguments c schema chosen dir files ∧
      writeExtensions (Run.ofArguments s arguments).store dir (c.settings schema)
        (chosen.filterMap (·.extension? c.policy)) = ((Run.ofArguments s arguments).store, .ok files) := by
  have writes := completes.toWrites
  have done := completes.done
  have settled := all_written_settled s _ _ files done
  obtain ⟨loaded, present⟩ := writes.reloaded spares settled
  have plain : ∀ e ∈ chosen.filterMap (·.extension? c.policy), e.Plain := by
    intro e member
    obtain ⟨d, -, -, plain, -⟩ := writes.extension e member
    exact plain
  have rewritten := rewriting_changes_nothing s _ _ files plain
    (fun e member other inside => writes.extensions_apart dir e other member inside) done
  exact ⟨⟨writes.again _ loaded present, completes.given, congrArg Prod.snd rewritten⟩, rewritten⟩

/-- A run without write errors that spares the schema can be repeated: it then shows the same, ends in the same way
and leaves all files and directories as they are. -/
theorem repeated_run_same (completes : Completes s arguments c schema chosen dir files)
    (spares : Spares s dir c chosen) :
    Run.ofArguments (Run.ofArguments s arguments).store arguments = Run.ofArguments s arguments := by
  obtain ⟨again, rewritten⟩ := completes.again spares
  have store : (Run.ofArguments (Run.ofArguments s arguments).store arguments).store =
      (Run.ofArguments s arguments).store := by
    rw [again.toWrites.store dir completes.given, rewritten]
  obtain ⟨es, expanded, first⟩ := completes.outcome
  obtain ⟨others, also, second⟩ := again.outcome
  rw [expanded_unique expanded also, store] at second
  rw [second]
  exact first.symm

end Repeated

def detourStore : FileStore :=
  ⟨["home"], [(["home"], .directory), (["home", "s.xml"], .file pairText), (["home", "Generated"], .directory),
    (["home", "Generated", "A+Screens.swift"], .file "old")], by decide⟩

def detour : Path := ⟨0, ["new", "..", "Generated"]⟩

def detourArguments : List String := ["--schema", "s.xml", "--output-dir", "new/../Generated"]

def detourGeneration : GenerateConfig := ⟨⟨0, ["s.xml"]⟩, .given detour, [], defaultImports, .positional⟩

def detourOptions : Options :=
  { Options.default with schema := .given ⟨0, ["s.xml"]⟩, outputDir := .given detour }

theorem detour_writes : Writes detourStore detourArguments detourGeneration pairSchema pairSchema.declarations := by
  have read : detourStore.read ⟨0, ["s.xml"]⟩ = .ok pairText := by decide +kernel
  have none_ordered : Text.ordered [] = [] := by simp [Text.ordered]
  have asked : detourOptions.request.config detourStore = .ok (.generate detourGeneration) :=
    (config_generate_iff _ _ _).mpr ⟨[],
      { named := rfl
        unfiltered := rfl
        noLook := rfl
        schema := rfl
        present := holds_of_read detourStore _ pairText read
        policy := rfl
        identifiers := by simp
        imports := rfl
        declarations := none_ordered.symm
        outputDir := rfl }⟩
  refine ⟨⟨detourOptions, by cbv, asked⟩, ?_, rfl⟩
  have same : detourStore.read ⟨0, ["s.xml"]⟩ = pairStore.read ⟨0, ["s.xml"]⟩ := read
  exact (load_of_read pairStore detourStore _ same).trans pair_loaded

theorem detour_written : ∃ files, (writeExtensions detourStore detour (detourGeneration.settings pairSchema)
    (pairSchema.declarations.filterMap (·.extension? .positional))).2 = .ok files :=
  ok_of_is_ok _ (by decide +kernel)

theorem detour_repeated :
    ∃ files, Completes detourStore detourArguments detourGeneration pairSchema pairSchema.declarations detour files ∧
      Spares detourStore detour detourGeneration pairSchema.declarations ∧
      (Run.ofArguments detourStore detourArguments).store.node? ["home", "new"] = some .directory ∧
      (Run.ofArguments detourStore detourArguments).store.node? ["home", "Generated", "A+Screens.swift"] ≠
        detourStore.node? ["home", "Generated", "A+Screens.swift"] ∧
      Run.ofArguments (Run.ofArguments detourStore detourArguments).store detourArguments =
        Run.ofArguments detourStore detourArguments := by
  obtain ⟨files, written⟩ := detour_written
  have completes : Completes detourStore detourArguments detourGeneration pairSchema pairSchema.declarations detour
      files := ⟨detour_writes, rfl, written⟩
  have spares : Spares detourStore detour detourGeneration pairSchema.declarations := by
    intro d _ _ same
    rw [file_place] at same
    cases congrArg List.length same
  refine ⟨files, completes, spares, ?_, ?_, repeated_run_same completes spares⟩
  all_goals
    rw [detour_writes.store detour rfl]
    decide +kernel

end ScreenDispatch
