import ScreenDispatch.Proofs.CompletedRuns
import ScreenDispatch.Proofs.FileRequests
import ScreenDispatch.Proofs.WriteOrder

/-!
Runs for some of the declarations, one after the other. They leave what one run for all of these declarations
leaves, whatever the order, and a declaration may be selected again and again.
-/
set_option autoImplicit false

namespace ScreenDispatch

open CommandLine (Options)

-- The arguments select declarations by name, and otherwise say what the options say.
structure Selecting (o : Options) (arguments : List String) (names : List String) : Prop where
  accepted : ∃ groups, Options.ofArguments arguments = .ok { o with declarations := some groups } ∧
    groups.flatten = names
  filled : names ≠ []

def afterRuns (s : FileStore) (sequence : List (List String)) : FileStore :=
  sequence.foldl (fun s arguments => (Run.ofArguments s arguments).store) s

def Schema.called (schema : Schema) (names : List String) : List Declaration :=
  schema.declarations.filter (names.contains ·.name)

def GenerateConfig.selecting (c : GenerateConfig) (names : List String) : GenerateConfig :=
  { c with declarations := Text.ordered names }

theorem ordered_contains (names : List String) (name : String) :
    (Text.ordered names).contains name = names.contains name := by
  rw [Bool.eq_iff_iff, List.contains_iff_mem, List.contains_iff_mem, Text.mem_ordered]

theorem select_ordered_iff (schema : Schema) (names : List String) (filled : names ≠ []) (chosen : List Declaration) :
    schema.select (Text.ordered names) = .ok chosen ↔
      (∀ name ∈ names, name ∈ schema.names) ∧ chosen = schema.called names := by
  have some : Text.ordered names ≠ [] := by
    obtain ⟨name, member⟩ := List.exists_mem_of_ne_nil names filled
    exact List.ne_nil_of_mem ((Text.mem_ordered name names).mpr member)
  rw [select_ok_iff, if_neg some]
  simp only [Text.mem_ordered, ordered_contains, Schema.called]

theorem called_mem_iff (schema : Schema) (names : List String) (d : Declaration) :
    d ∈ schema.called names ↔ d ∈ schema.declarations ∧ d.name ∈ names := by
  rw [Schema.called, List.mem_filter, List.contains_iff_mem]

theorem reselected (o : Options) (groups others : List (List String)) (s t : FileStore) (names : List String)
    (c : GenerateConfig) (all : Generates s ({ o with declarations := some groups } : Options).request names c)
    (identifiers : ∀ name ∈ others.flatten, Text.isIdentifierLine name.toList = true)
    (present : t.holds c.schema = .ok true) :
    Generates t ({ o with declarations := some others } : Options).request others.flatten
      (c.selecting others.flatten) :=
  { named := RawValue.names_of_groups (some others)
    unfiltered := all.unfiltered
    noLook := all.noLook
    schema := all.schema
    present := present
    policy := all.policy
    identifiers := identifiers
    imports := all.imports
    declarations := rfl
    outputDir := all.outputDir }

section Selected

variable {s : FileStore} {o : Options} {whole names : List String} {c : GenerateConfig} {schema : Schema}
  {chosen : List Declaration} {dir : Path}

theorem Selecting.asked (selects : Selecting o whole names) (writes : Writes s whole c schema chosen) :
    c = c.selecting names ∧
    ∀ t arguments others, Selecting o arguments others → (∀ name ∈ others, name ∈ names) →
      t.holds c.schema = .ok true →
        ∃ accepted, Options.ofArguments arguments = .ok accepted ∧
          accepted.request.config t = .ok (.generate (c.selecting others)) := by
  obtain ⟨⟨groups, accepted, rfl⟩, -⟩ := selects
  obtain ⟨options, again, asked⟩ := writes.asked
  obtain rfl := Except.ok.inj (accepted.symm.trans again)
  obtain ⟨names, all⟩ := (config_generate_iff s _ c).mp asked
  obtain rfl : names = groups.flatten :=
    Except.ok.inj (all.named.symm.trans (RawValue.names_of_groups (some groups)))
  refine ⟨?_, ?_⟩
  · rw [GenerateConfig.selecting, ← all.declarations]
  · rintro t arguments _ ⟨⟨others, also, rfl⟩, -⟩ among present
    refine ⟨_, also, (config_generate_iff t _ _).mpr ⟨_, reselected o groups others s t _ c all ?_ present⟩⟩
    exact fun name member => all.identifiers name (among name member)

theorem Selecting.selection (selects : Selecting o whole names) (writes : Writes s whole c schema chosen) :
    (∀ name ∈ names, name ∈ schema.names) ∧ chosen = schema.called names := by
  have selected := writes.selected
  rw [(selects.asked writes).1] at selected
  exact (select_ordered_iff schema names selects.filled chosen).mp selected

theorem Selecting.run_same (selects : Selecting o whole names) (writes : Writes s whole c schema chosen)
    (arguments others : List String) (also : Selecting o arguments others)
    (same : ∀ name, name ∈ others ↔ name ∈ names) : Run.ofArguments s arguments = Run.ofArguments s whole := by
  obtain ⟨options, accepted, asked⟩ := writes.asked
  obtain ⟨text, read, -⟩ := bind_ok _ _ _ writes.loaded
  have present := FileStore.holds_of_read s c.schema text (map_error_ok _ _ _ read)
  obtain ⟨mine, all⟩ := selects.asked writes
  obtain ⟨more, too, asks⟩ := all s arguments others also (fun name member => (same name).mp member) present
  have equal : c.selecting others = c := by
    rw [GenerateConfig.selecting, Text.ordered_of_same others names same]
    exact mine.symm
  rw [equal] at asks
  rw [run_of_config s arguments more _ too asks, run_of_config s whole options _ accepted asked]

theorem load_of_read (s t : FileStore) (p : Path) (same : t.read p = s.read p) : loadSchema t p = loadSchema s p := by
  rw [loadSchema, loadSchema, same]

def Spares (s : FileStore) (dir : Path) (c : GenerateConfig) (chosen : List Declaration) : Prop :=
  ∀ d ∈ chosen, d.extension? c.policy ≠ none → s.place (d.file dir) ≠ s.place c.schema

def Schema.extensions (schema : Schema) (policy : UnlabeledPolicy) (names : List String) : List Extension :=
  (schema.called names).filterMap (·.extension? policy)

theorem extensions_mem_iff (policy : UnlabeledPolicy) (e : Extension) :
    e ∈ schema.extensions policy names ↔
      ∃ d ∈ schema.declarations, d.name ∈ names ∧ d.extension? policy = some e := by
  simp only [Schema.extensions, List.mem_filterMap, called_mem_iff, and_assoc]

theorem extensions_of_union (policy : UnlabeledPolicy) (sets : List (List String))
    (union : ∀ name, name ∈ names ↔ name ∈ sets.flatten) (e : Extension) :
    e ∈ schema.extensions policy names ↔ e ∈ sets.flatMap (schema.extensions policy) := by
  simp only [List.mem_flatMap, extensions_mem_iff, union, List.mem_flatten]
  constructor
  · rintro ⟨d, declared, ⟨set, among, inside⟩, expands⟩
    exact ⟨set, among, d, declared, inside, expands⟩
  · rintro ⟨set, among, d, declared, inside, expands⟩
    exact ⟨d, declared, ⟨set, among, inside⟩, expands⟩

theorem Writes.reloaded (writes : Writes s whole c schema chosen) (spares : Spares s dir c chosen) {m : FileStore}
    (underway : Settled (c.settings schema) dir (chosen.filterMap (·.extension? c.policy)) s m) :
    loadSchema m c.schema = .ok schema ∧ m.holds c.schema = .ok true := by
  obtain ⟨text, read, -⟩ := bind_ok _ _ _ writes.loaded
  have reads := map_error_ok _ _ _ read
  have again := underway.spares c.schema text reads fun e member same => by
    obtain ⟨d, inside, expands, -, path⟩ := writes.extension e member
    rw [path] at same
    exact spares d inside (Option.ne_none_iff_exists'.mpr ⟨e, expands⟩) same
  refine ⟨?_, FileStore.holds_of_read m c.schema text again⟩
  rw [load_of_read s m c.schema (again.trans reads.symm), writes.loaded]

theorem next_run_completes (selects : Selecting o whole names) (writes : Writes s whole c schema chosen)
    (given : c.outputDir = .given dir) (spares : Spares s dir c chosen) (m n : FileStore)
    (underway : Settled (c.settings schema) dir (chosen.filterMap (·.extension? c.policy)) s m)
    (arguments others : List String) (also : Selecting o arguments others) (among : ∀ name ∈ others, name ∈ names)
    (files : List GeneratedFile)
    (done : writeExtensions m dir (c.settings schema) (schema.extensions c.policy others) = (n, .ok files)) :
    Completes m arguments (c.selecting others) schema (schema.called others) dir files ∧
      (Run.ofArguments m arguments).store = n ∧
      Settled (c.settings schema) dir (chosen.filterMap (·.extension? c.policy)) s n := by
  obtain ⟨declared, chose⟩ := selects.selection writes
  obtain ⟨loaded, present⟩ := writes.reloaded spares underway
  have asked := (selects.asked writes).2 m arguments others also among present
  have selected : schema.select (Text.ordered others) = .ok (schema.called others) :=
    (select_ordered_iff schema others also.filled _).mpr ⟨fun name member => declared name (among name member), rfl⟩
  have completes : Completes m arguments (c.selecting others) schema (schema.called others) dir files :=
    ⟨⟨asked, loaded, selected⟩, given, congrArg Prod.snd done⟩
  refine ⟨completes, ?_, ?_⟩
  · exact (completes.store dir given).trans (congrArg Prod.fst done)
  · refine (underway.then (all_written_settled m n _ files done)).widen fun e member => ?_
    rcases List.mem_append.mp member with before | now
    · exact before
    · obtain ⟨d, declares, inside, expands⟩ := (extensions_mem_iff c.policy e).mp now
      rw [chose]
      exact (extensions_mem_iff c.policy e).mpr ⟨d, declares, among _ inside, expands⟩

def AllComplete (s : FileStore) (o : Options) (c : GenerateConfig) (schema : Schema) (dir : Path)
    (sequence : List (List String)) : Prop :=
  ∀ before arguments after, sequence = before ++ arguments :: after →
    ∃ names files, Selecting o arguments names ∧
      Completes (afterRuns s before) arguments (c.selecting names) schema (schema.called names) dir files ∧
      HandsOver (afterRuns s before) (Run.ofArguments (afterRuns s before) arguments) (c.selecting names) schema
        (schema.called names) dir files

theorem runs_complete (selects : Selecting o whole names) (writes : Writes s whole c schema chosen)
    (given : c.outputDir = .given dir) (spares : Spares s dir c chosen) (m t : FileStore)
    (underway : Settled (c.settings schema) dir (chosen.filterMap (·.extension? c.policy)) s m)
    (sequence sets : List (List String)) (each : List.Forall₂ (Selecting o) sequence sets)
    (among : ∀ name ∈ sets.flatten, name ∈ names) (files : List GeneratedFile)
    (done : writeExtensions m dir (c.settings schema) (sets.flatMap (schema.extensions c.policy)) = (t, .ok files)) :
    afterRuns m sequence = t ∧ AllComplete m o c schema dir sequence := by
  induction each generalizing m files with
  | nil =>
      refine ⟨(Prod.mk.inj done).1, ?_⟩
      rintro (_ | _) arguments after none <;> cases none
  | cons also others ih =>
      rename_i arguments set rest more
      rw [List.flatMap_cons] at done
      obtain ⟨n, front, back, first, onward, -⟩ := (write_extensions_append_ok m t _ _ files).mp done
      rw [List.flatten_cons, List.forall_mem_append] at among
      obtain ⟨completes, reached, settled⟩ := next_run_completes selects writes given spares m n underway arguments set
        also among.1 front first
      obtain ⟨last, all⟩ := ih n settled among.2 back onward
      rw [← reached] at last all
      refine ⟨last, ?_⟩
      rintro (_ | ⟨head, before⟩) arguments' after split
      · obtain ⟨rfl, -⟩ := List.cons.inj split
        exact ⟨set, front, also, completes, completes.hands_over⟩
      · obtain ⟨rfl, later⟩ := List.cons.inj split
        exact all before arguments' after later

/-- Runs for some of the declarations, one after the other, leave the same files with the same contents as one run
for all of these declarations, if that run has no write error and no file takes the place of the schema. -/
theorem selected_runs_add_up (files : List GeneratedFile) (sequence sets : List (List String))
    (completes : Completes s whole c schema chosen dir files) (selects : Selecting o whole names)
    (each : List.Forall₂ (Selecting o) sequence sets) (union : ∀ name, name ∈ names ↔ name ∈ sets.flatten)
    (spares : Spares s dir c chosen) :
    (∀ place, (afterRuns s sequence).node? place = (Run.ofArguments s whole).store.node? place) ∧
    AllComplete s o c schema dir sequence ∧
    chosen = schema.called names ∧
    (∀ d ∈ chosen, ∀ e, d.extension? c.policy = some e →
      ∃ text, fileText (c.settings schema) e = .ok text ∧ (afterRuns s sequence).read (d.file dir) = .ok text) ∧
    (∀ arguments others, Selecting o arguments others → (∀ name, name ∈ others ↔ name ∈ names) →
      Run.ofArguments s arguments = Run.ofArguments s whole) := by
  have writes := completes.toWrites
  have chose := (selects.selection writes).2
  have same (e : Extension) : e ∈ chosen.filterMap (·.extension? c.policy) ↔
      e ∈ sets.flatMap (schema.extensions c.policy) := by
    rw [chose]
    exact extensions_of_union c.policy sets union e
  have plain : ∀ e ∈ chosen.filterMap (·.extension? c.policy), e.Plain := by
    intro e member
    obtain ⟨d, -, -, plain, -⟩ := writes.extension e member
    exact plain
  obtain ⟨t, more, done⟩ := fewer_are_written s _ _ (sets.flatMap (schema.extensions c.policy)) files plain
    completes.done fun e => (same e).mpr
  have start : Settled (c.settings schema) dir (chosen.filterMap (·.extension? c.policy)) s s :=
    ⟨rfl, fun _ => .kept rfl⟩
  obtain ⟨rfl, all⟩ := runs_complete selects writes completes.given spares s t start sequence sets each
    (fun name member => (union name).mpr member) more done
  refine ⟨fun place => ?_, all, chose, ?_, ?_⟩
  · exact order_is_immaterial s _ _ _ _ more files (fun e => plain e ∘ (same e).mpr) (fun e => (same e).symm)
      (fun e member other inside => writes.extensions_apart dir e other ((same e).mpr member) ((same other).mpr inside))
      done completes.done place
  · intro d member e expands
    exact writes.content _ _ done (fun e => (same e).mpr) d member e expands
      ((same e).mp (List.mem_filterMap.mpr ⟨d, member, expands⟩))
  · exact fun arguments others also => selects.run_same writes arguments others also

end Selected

theorem pair_selecting (arguments : List String) (groups : List (List String)) (filled : groups.flatten ≠ [])
    (accepted : Options.ofArguments arguments = .ok (pairOptions (some groups))) :
    Selecting (pairOptions none) arguments groups.flatten := ⟨⟨groups, accepted, rfl⟩, filled⟩

theorem pair_selection_writes :
    Writes pairStore ["--schema", "s.xml", "--decl", "A", "--decl", "B"] (pairGeneration ["A", "B"]) pairSchema
      pairSchema.declarations := by
  have both : Text.ordered ["A", "B"] = ["A", "B"] := by cbv
  have asked := pair_asked (some [["A"], ["B"]]) (by decide)
  rw [show (Option.getD (some [["A"], ["B"]]) []).flatten = ["A", "B"] from rfl, both] at asked
  refine ⟨⟨_, by cbv, asked⟩, pair_loaded, ?_⟩
  have selected := (select_ordered_iff pairSchema ["A", "B"] (by decide) pairSchema.declarations).mpr
    ⟨by decide, rfl⟩
  rw [both] at selected
  exact selected

def pairSequence : List (List String) := [["--schema", "s.xml", "--decl", "B", "A"], ["--schema", "s.xml", "--decl=A"]]

theorem pair_runs_add_up :
    ∃ files,
      Completes pairStore ["--schema", "s.xml", "--decl", "A", "--decl", "B"] (pairGeneration ["A", "B"]) pairSchema
        pairSchema.declarations ⟨0, ["Generated"]⟩ files ∧
      List.Forall₂ (Selecting (pairOptions none)) pairSequence [["B", "A"], ["A"]] ∧
      Spares pairStore ⟨0, ["Generated"]⟩ (pairGeneration ["A", "B"]) pairSchema.declarations ∧
      AllComplete pairStore (pairOptions none) (pairGeneration ["A", "B"]) pairSchema ⟨0, ["Generated"]⟩ pairSequence ∧
      ∀ place, (afterRuns pairStore pairSequence).node? place =
        (Run.ofArguments pairStore ["--schema", "s.xml", "--decl", "A", "--decl", "B"]).store.node? place := by
  obtain ⟨files, written⟩ := pair_written
  have whole := pair_selecting ["--schema", "s.xml", "--decl", "A", "--decl", "B"] [["A"], ["B"]] (by decide) (by cbv)
  have first := pair_selecting ["--schema", "s.xml", "--decl", "B", "A"] [["B", "A"]] (by decide) (by cbv)
  have second := pair_selecting ["--schema", "s.xml", "--decl=A"] [["A"]] (by decide) (by cbv)
  have each : List.Forall₂ (Selecting (pairOptions none)) pairSequence [["B", "A"], ["A"]] :=
    .cons first (.cons second .nil)
  have union : ∀ name, name ∈ ["A", "B"] ↔ name ∈ [["B", "A"], ["A"]].flatten := by
    intro name
    simp only [List.flatten_cons, List.flatten_nil, List.append_nil, List.mem_append, List.mem_cons]
    tauto
  have spares : Spares pairStore ⟨0, ["Generated"]⟩ (pairGeneration ["A", "B"]) pairSchema.declarations := by
    intro d _ _ same
    rw [file_place] at same
    cases congrArg List.length same
  have completes : Completes pairStore ["--schema", "s.xml", "--decl", "A", "--decl", "B"] (pairGeneration ["A", "B"])
      pairSchema pairSchema.declarations ⟨0, ["Generated"]⟩ files := ⟨pair_selection_writes, rfl, written⟩
  obtain ⟨same, all, -⟩ := selected_runs_add_up files pairSequence _ completes whole each union spares
  exact ⟨files, completes, each, spares, all, same⟩

end ScreenDispatch
