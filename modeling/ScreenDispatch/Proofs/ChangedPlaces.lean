import ScreenDispatch.Proofs.RunStages
import ScreenDispatch.Proofs.WrittenFiles

/-!
Which places a run may change. A run that ends before it could write leaves all files and directories alone; a run
that writes makes the output directory and puts the files of the declarations that expand, and nothing else.
-/
set_option autoImplicit false

namespace ScreenDispatch

open CommandLine (Options)

inductive Path.Upward (dir : Path) : Path → Prop where
  | here : Upward dir dir
  | above (p : Path) (below : Upward dir p) : Upward dir p.parent

theorem upward_of_prefix (dir : Path) (front back : List String) (parts : front ++ back = dir.parts) :
    dir.Upward ⟨dir.slashes, front⟩ := by
  induction back generalizing front with
  | nil =>
      rw [List.append_nil] at parts
      subst parts
      exact .here
  | cons name rest ih =>
      have below := ih (front ++ [name]) (by rw [List.append_assoc]; exact parts)
      have above := Path.Upward.above _ below
      rw [Path.parent, List.dropLast_concat] at above
      exact above

theorem trail_from_prefix (here : Location) (names : List String) (place : Location)
    (along : place ∈ FileStore.trailFrom here names) :
    ∃ front back, front ++ back = names ∧ place = front.foldl climb here := by
  induction names generalizing here with
  | nil => cases along
  | cons name rest ih =>
      rw [FileStore.trailFrom] at along
      rcases List.mem_cons.mp along with rfl | later
      · exact ⟨[name], rest, rfl, rfl⟩
      · obtain ⟨front, back, rfl, same⟩ := ih _ later
        exact ⟨name :: front, back, rfl, same⟩

theorem trail_upward (s : FileStore) (dir : Path) (place : Location) (along : place ∈ s.trail dir) :
    ∃ p, dir.Upward p ∧ place = s.place p := by
  obtain ⟨front, back, parts, same⟩ := trail_from_prefix _ _ place along
  exact ⟨_, upward_of_prefix dir front back parts, same⟩

def Declaration.file (d : Declaration) (dir : Path) : Path := dir.child (fileName d.name)

inductive Change (settings : FileSettings) (dir : Path) (chosen : List Declaration) (s t : FileStore)
    (place : Location) : Prop where
  | directory (p : Path) (upward : dir.Upward p) (target : place = s.place p) (free : s.node? place = none)
      (made : t.node? place = some .directory)
  | file (d : Declaration) (e : Extension) (text : String) (member : d ∈ chosen)
      (expands : d.extension? settings.policy = some e) (target : place = s.place (d.file dir))
      (content : fileText settings e = .ok text) (other : s.node? place ≠ some .directory)
      (written : t.node? place = some (.file text))

theorem finish_store (s : FileStore) (c : GenerateConfig) (schema : Schema) (es : List Expansion) (out : String)
    (dir : Path) (given : c.outputDir = .given dir) :
    (c.finish s schema es out).store =
      (writeExtensions s dir (c.settings schema) (es.filterMap (·.extension))).1 := by
  rw [GenerateConfig.finish, given]
  simp only [GenerateConfig.finishIn]
  split
  · rename_i done
    rw [done]
    rfl
  · rename_i done
    rw [done]

theorem finish_nowhere (s : FileStore) (c : GenerateConfig) (schema : Schema) (es : List Expansion) (out : String)
    (nowhere : ∀ dir, c.outputDir ≠ .given dir) : (c.finish s schema es out).store = s := by
  rw [GenerateConfig.finish]
  split
  · rename_i dir given
    exact absurd given (nowhere dir)
  · rfl

theorem identifier_plain (name : String) (identifier : Text.isIdentifier name.toList = true) : '/' ∉ name.toList := by
  cases letters : name.toList with
  | nil => exact List.not_mem_nil
  | cons c rest =>
      rw [letters, Text.isIdentifier, Bool.and_eq_true, List.all_eq_true] at identifier
      intro slash
      rcases List.mem_cons.mp slash with rfl | later
      · exact absurd identifier.1 (by decide)
      · exact absurd (identifier.2 _ later) (by decide)

theorem extension_named (schema : Schema) (proper : Proper schema) (policy : UnlabeledPolicy) (d : Declaration)
    (declared : d ∈ schema.declarations) (e : Extension) (expands : d.extension? policy = some e) :
    e.typeName = d.name ∧ e.Plain := by
  have named : e.typeName = d.name := by
    have out := outlook d policy (proper.level d declared)
    rw [expands] at out
    cases out
    assumption
  refine ⟨named, ?_⟩
  rw [Extension.Plain, named]
  exact identifier_plain d.name (proper.identifier d declared)

theorem extension_path (schema : Schema) (proper : Proper schema) (policy : UnlabeledPolicy) (d : Declaration)
    (declared : d ∈ schema.declarations) (e : Extension) (expands : d.extension? policy = some e) (dir : Path) :
    e.path dir = d.file dir := by
  obtain ⟨named, plain⟩ := extension_named schema proper policy d declared e expands
  rw [plain.path, named, Declaration.file]

section Writes

variable {s : FileStore} {arguments : List String} {c : GenerateConfig} {schema : Schema} {chosen : List Declaration}

theorem Writes.store (writes : Writes s arguments c schema chosen) (dir : Path) (given : c.outputDir = .given dir) :
    (Run.ofArguments s arguments).store =
      (writeExtensions s dir (c.settings schema) (chosen.filterMap (·.extension? c.policy))).1 := by
  obtain ⟨es, expanded, run⟩ := writes.run
  rw [run, finish_store s c schema es _ dir given, expanded_extensions expanded]

theorem Writes.nowhere (writes : Writes s arguments c schema chosen) (nowhere : ∀ dir, c.outputDir ≠ .given dir) :
    (Run.ofArguments s arguments).store = s := by
  obtain ⟨es, -, run⟩ := writes.run
  rw [run, finish_nowhere s c schema es _ nowhere]

theorem Writes.extension (writes : Writes s arguments c schema chosen) (e : Extension)
    (member : e ∈ chosen.filterMap (·.extension? c.policy)) :
    ∃ d ∈ chosen, d.extension? c.policy = some e ∧ e.Plain ∧ ∀ dir, e.path dir = d.file dir := by
  obtain ⟨d, inside, expands⟩ := List.mem_filterMap.mp member
  have declared := writes.among d inside
  exact ⟨d, inside, expands, (extension_named schema writes.proper c.policy d declared e expands).2,
    extension_path schema writes.proper c.policy d declared e expands⟩

theorem Writes.change (writes : Writes s arguments c schema chosen) (dir : Path)
    (given : c.outputDir = .given dir) (place : Location)
    (different : (Run.ofArguments s arguments).store.node? place ≠ s.node? place) :
    Change (c.settings schema) dir chosen s (Run.ofArguments s arguments).store place := by
  rw [writes.store dir given] at different ⊢
  have settled := write_extensions_settled (c.settings schema) dir s (chosen.filterMap (·.extension? c.policy))
  cases settled.fate place with
  | kept same => exact absurd same different
  | made along free made =>
      obtain ⟨p, upward, target⟩ := trail_upward s dir place along
      exact .directory p upward target free made
  | written e text member target content other holds =>
      obtain ⟨d, inside, expands, -, path⟩ := writes.extension e member
      rw [path] at target
      exact .file d e text inside expands target content other holds

theorem Writes.nothing (writes : Writes s arguments c schema chosen)
    (none : ∀ d ∈ chosen, d.extension? c.policy = none) : (Run.ofArguments s arguments).store = s := by
  by_cases nowhere : ∀ dir, c.outputDir ≠ .given dir
  · exact writes.nowhere nowhere
  · obtain ⟨dir, given⟩ := not_forall.mp nowhere
    rw [writes.store dir (not_not.mp given), List.filterMap_eq_nil_iff.mpr none]
    rfl

end Writes

/-- A run that ends before it could write leaves the files and directories as they are, and so does one of whose
declarations none expands. Where a run that writes makes a difference, there is either a new directory, which is the
output directory or above it, or the file of a declaration that expands. -/
theorem only_announced_places_change (s : FileStore) (arguments : List String) :
    (EndsBefore s arguments → (Run.ofArguments s arguments).store = s) ∧
    (∀ c schema chosen, Writes s arguments c schema chosen →
      ((∀ d ∈ chosen, d.extension? c.policy = none) → (Run.ofArguments s arguments).store = s) ∧
      ∀ place, (Run.ofArguments s arguments).store.node? place ≠ s.node? place →
        ∃ dir, c.outputDir = .given dir ∧
          Change (c.settings schema) dir chosen s (Run.ofArguments s arguments).store place) ∧
    (EndsBefore s arguments ∨ ∃ c schema chosen, Writes s arguments c schema chosen) := by
  refine ⟨early_end_keeps_store s arguments, fun c schema chosen writes => ⟨writes.nothing, fun place different => ?_⟩,
    ends_before_or_writes s arguments⟩
  by_cases nowhere : ∀ dir, c.outputDir ≠ .given dir
  · rw [writes.nowhere nowhere] at different
    exact absurd rfl different
  · obtain ⟨dir, given⟩ := not_forall.mp nowhere
    exact ⟨dir, not_not.mp given, writes.change dir (not_not.mp given) place different⟩

def homeSelection : List Declaration := [⟨"Home", "enum", none, []⟩]

theorem home_run_writes :
    Writes homeStore ["--schema", "s.xml"] homeGeneration ⟨"unversioned", homeSelection⟩ homeSelection := by
  have accepted : Options.ofArguments ["--schema", "s.xml"] =
      .ok { Options.default with schema := .given ⟨0, ["s.xml"]⟩ } := by cbv
  have asked : ({ Options.default with schema := .given ⟨0, ["s.xml"]⟩ } : Options).request.config homeStore =
      .ok (.generate homeGeneration) := by cbv
  exact ⟨⟨_, accepted, asked⟩, home_schema_loaded, rfl⟩

theorem home_run_changes_announced_places :
    Writes homeStore ["--schema", "s.xml"] homeGeneration ⟨"unversioned", homeSelection⟩ homeSelection ∧
    ∀ place ∈ [["Generated"], ["Generated", "Home+Screens.swift"]],
      ∃ dir, homeGeneration.outputDir = .given dir ∧
        Change (homeGeneration.settings ⟨"unversioned", homeSelection⟩) dir homeSelection homeStore
          (Run.ofArguments homeStore ["--schema", "s.xml"]).store place := by
  refine ⟨home_run_writes, fun place new => ?_⟩
  obtain ⟨-, announced, -⟩ := only_announced_places_change homeStore ["--schema", "s.xml"]
  refine (announced _ _ _ home_run_writes).2 place ?_
  rw [home_run_writes.store ⟨0, ["Generated"]⟩ rfl]
  revert place
  decide +kernel

end ScreenDispatch
