import ScreenDispatch.Proofs.CompletedRuns
import ScreenDispatch.Proofs.PolicyInfluence
import ScreenDispatch.Proofs.RenderedExtensions
import ScreenDispatch.Proofs.ScreenAttributes
import ScreenDispatch.Report

/-!
What the totals of a report count. They agree with the extensions that are written, the diagnostics that are shown, the
text of the switches and the attributes of the cases, and those of two lists add up.
-/
set_option autoImplicit false

namespace ScreenDispatch

namespace Counts

instance : Add Counts where
  add a b :=
    { declarations := a.declarations + b.declarations
      generated := a.generated + b.generated
      failed := a.failed + b.failed
      cases := a.cases + b.cases
      inferred := a.inferred + b.inferred
      explicit := a.explicit + b.explicit
      remapped := a.remapped + b.remapped
      warnings := a.warnings + b.warnings }

theorem total_eq_sum {α : Type} (size : α → Nat) (xs : List α) :
    xs.foldl (fun total x => total + size x) 0 = (xs.map size).sum := by
  rw [List.sum_eq_foldl, List.foldl_map]

theorem arms_append (es fs : List Expansion) : allArms (es ++ fs) = allArms es ++ allArms fs :=
  List.flatMap_append

theorem of_expansions_append (es fs : List Expansion) : ofExpansions (es ++ fs) = ofExpansions es + ofExpansions fs := by
  change _ = Counts.mk _ _ _ _ _ _ _ _
  simp only [ofExpansions, total_eq_sum, arms_append, List.length_append, List.countP_append, List.map_append,
    List.sum_append, Nat.cast_add, Counts.mk.injEq, true_and, and_true]
  constructor
  · omega
  · omega

end Counts

def Case.NamesType (c : Case) : Prop :=
  ∃ first others, ScreenArguments c.attributes (first :: others) ∧ first.Named

theorem names_type_iff (c : Case) (screen : Screen) (resolved : Screen.resolve c.attributes c.name = .ok screen) :
    c.NamesType ↔ screen.inferred = false := by
  constructor
  · rintro ⟨first, others, given, named⟩
    rw [resolve_eq c.attributes c.name _ given, ← comes_to_iff] at resolved
    cases resolved with
    | mapped source entries => cases named
    | typed => rfl
    | typedAndMapped => rfl
  · intro explicit
    obtain ⟨arguments, given⟩ := screen_arguments_exist c.attributes
    rw [resolve_eq c.attributes c.name _ given, ← comes_to_iff] at resolved
    cases resolved with
    | inferred => cases explicit
    | mapped => cases explicit
    | typed first viewType named => exact ⟨first, [], given, named⟩
    | typedAndMapped first viewType source entries others named => exact ⟨first, _, given, named⟩

inductive ArmLines : Nat → List String → Prop where
  | nil : ArmLines 0 []
  | cons (pattern view : String) {n : Nat} {rest : List String} (onward : ArmLines n rest) :
      ArmLines (n + 1) (("case " ++ pattern ++ ":") :: (indent ++ view) :: rest)

structure Switches (policy : UnlabeledPolicy) (x : Extension) : Prop where
  text : x.source = renderExtension x.typeName x.modifier (switchLines x.arms policy)
  arms : ∃ lines, switchLines x.arms policy = "switch self \x7b" :: lines ++ ["\x7d"] ∧ ArmLines x.arms.length lines

theorem lines_of_arms (policy : UnlabeledPolicy) (arms : List Arm) :
    ArmLines arms.length (arms.flatMap (·.lines policy)) := by
  induction arms with
  | nil => exact .nil
  | cons arm rest ih => exact .cons arm.pattern (arm.initializer policy) ih

def Arm.remappedArguments (arm : Arm) (policy : UnlabeledPolicy) : List (Parameter × Argument) :=
  (arm.parameters.zip (arguments arm.parameters arm.mapping policy)).filter fun given =>
    given.1.sourceKey ∈ arm.mapping.keys

theorem remapped_arguments_counted (arm : Arm) (policy : UnlabeledPolicy) :
    (arm.remappedArguments policy).length = arm.remapped := by
  have zipped : arm.parameters.zip (arguments arm.parameters arm.mapping policy) =
      arm.parameters.map fun p => (p, p.argument arm.mapping policy) := by
    have pairs := @List.zip_map' _ _ _ id (fun p : Parameter => p.argument arm.mapping policy) arm.parameters
    rwa [List.map_id] at pairs
  rw [Arm.remappedArguments, zipped, ← List.countP_eq_length_filter, List.countP_map, Arm.remapped]
  refine List.countP_congr fun p _ => ?_
  simp [Mapping.contains]

def expandingCases (policy : UnlabeledPolicy) (ds : List Declaration) : List Case :=
  (ds.filter fun d => (d.extension? policy).isSome).flatMap (·.cases)

open scoped Classical in
structure Agrees (policy : UnlabeledPolicy) (ds : List Declaration) (es : List Expansion) (totals : Counts) : Prop where
  declarations : totals.declarations = ds.length
  generated : totals.generated = (es.filterMap (·.extension)).length
  failed : totals.failed = totals.declarations - totals.generated
  errors : totals.failed = (allDiagnostics es).countP (·.severity == .error)
  warnings : totals.warnings = (allDiagnostics es).countP (·.severity == .warning)
  parts : totals.cases = totals.inferred + totals.explicit
  switches : ∀ x ∈ es.filterMap (·.extension), Switches policy x
  cases : totals.cases = ((es.filterMap (·.extension)).map (·.arms.length)).sum
  arms : List.Forall₂ ArmOf (expandingCases policy ds) (allArms es)
  explicit : totals.explicit = (expandingCases policy ds).countP (decide ·.NamesType)
  remapped : totals.remapped = ((allArms es).map fun arm => (arm.remappedArguments policy).length).sum

section Expanded

variable {policy : UnlabeledPolicy} {ds : List Declaration} {es : List Expansion}

theorem warnings_counted (es : List Expansion) :
    (Counts.ofExpansions es).warnings = (allDiagnostics es).countP (·.severity == .warning) := by
  rw [allDiagnostics, List.countP_flatMap]
  simp only [Counts.ofExpansions, Counts.total_eq_sum]
  congr 3
  funext e
  rw [Function.comp_apply, List.countP_eq_length_filter, Expansion.warnings]

theorem generated_counted (es : List Expansion) :
    (Counts.ofExpansions es).generated = (es.filterMap (·.extension)).length := by
  rw [List.length_filterMap_eq_countP]
  rfl

theorem errors_counted (admissible : ∀ d ∈ ds, d.access = none ∨ ∃ level : AccessLevel, d.access = some level.name)
    (expanded : Expanded policy ds es) :
    (Counts.ofExpansions es).failed = (allDiagnostics es).countP (·.severity == .error) := by
  -- Every declaration that does not expand has one error.
  have about := errors_about policy ds fun d member => outlook d policy (admissible d member)
  have errors := congrArg List.length about
  rw [← expanded_diagnostics expanded, List.length_map, List.length_map, ← List.countP_eq_length_filter,
    ← List.countP_eq_length_filter] at errors
  have extensions := congrArg List.length (expanded_extensions expanded)
  rw [List.length_filterMap_eq_countP, List.length_filterMap_eq_countP] at extensions
  have both := ds.length_eq_countP_add_countP fun d => (d.extension? policy).isSome
  simp only [Bool.not_eq_true, Option.isSome_eq_false_iff, Bool.decide_eq_true] at both
  have same := expanded.length_eq
  change (es.length : Int) - (es.countP fun e => e.extension.isSome : Nat) = _
  rw [errors, extensions]
  omega

theorem arms_of_cases (expanded : Expanded policy ds es) :
    List.Forall₂ ArmOf (expandingCases policy ds) (allArms es) := by
  induction expanded with
  | nil => exact .nil
  | @cons d e ds es first _ ih =>
      rw [allArms, List.flatMap_cons, expandingCases, List.filter_cons, extension_of_expansion policy d e first]
      cases extended : e.extension with
      | none => exact ih
      | some x =>
          obtain ⟨found, modifier, rendered⟩ := expansion_rendered d policy e x first extended
          obtain rfl := Option.some.inj (extended.symm.trans rendered.extended)
          refine List.rel_append ?_ ih
          refine List.forall₂_map_right_iff.mpr (rendered.cases.imp ?_)
          rintro c r ⟨screen, resolved, arm, -⟩
          exact ⟨screen, resolved, arm⟩

theorem arms_of_extensions (es : List Expansion) : allArms es = (es.filterMap (·.extension)).flatMap (·.arms) := by
  induction es with
  | nil => rfl
  | cons e rest ih =>
      rw [allArms, List.flatMap_cons, List.filterMap_cons]
      cases e.extension with
      | none => exact ih
      | some x => exact congrArg (x.arms ++ ·) ih

theorem extensions_switch (expanded : Expanded policy ds es) : ∀ x ∈ es.filterMap (·.extension), Switches policy x := by
  intro x written
  obtain ⟨e, present, extended⟩ := List.mem_filterMap.mp written
  obtain ⟨d, -, done⟩ := forall₂_source _ _ expanded e present
  obtain ⟨found, modifier, rendered⟩ := expansion_rendered d policy e x done extended
  have same := Option.some.inj (extended.symm.trans rendered.extended)
  refine ⟨by rw [same, Declaration.extensionOf], _, rfl, lines_of_arms policy x.arms⟩

open scoped Classical in
theorem explicit_counted (cases : List Case) (arms : List Arm) (each : List.Forall₂ ArmOf cases arms) :
    cases.countP (decide ·.NamesType) + arms.countP (·.inferred) = arms.length := by
  induction each with
  | nil => rfl
  | @cons c arm cases arms first _ ih =>
      obtain ⟨screen, resolved, rfl⟩ := first
      have named := names_type_iff c screen resolved
      rw [List.countP_cons, List.countP_cons, List.length_cons]
      cases inferred : screen.inferred with
      | true =>
          have typeless : ¬ c.NamesType := by simp [named, inferred]
          simp only [typeless, decide_false, Bool.false_eq_true, if_false, if_true]
          omega
      | false =>
          have typed : c.NamesType := named.mpr inferred
          simp only [typed, decide_true, Bool.false_eq_true, if_false, if_true]
          omega

theorem totals_agree (admissible : ∀ d ∈ ds, d.access = none ∨ ∃ level : AccessLevel, d.access = some level.name)
    (expanded : Expanded policy ds es) : Agrees policy ds es (.ofExpansions es) where
  declarations := congrArg Int.ofNat expanded.length_eq.symm
  generated := generated_counted es
  failed := rfl
  errors := errors_counted admissible expanded
  warnings := warnings_counted es
  parts := by
    simp only [Counts.ofExpansions]
    omega
  switches := extensions_switch expanded
  cases := by
    rw [← List.length_flatMap, ← arms_of_extensions]
    rfl
  arms := arms_of_cases expanded
  explicit := by
    have named := explicit_counted _ _ (arms_of_cases expanded)
    simp only [Counts.ofExpansions]
    omega
  remapped := by
    simp only [Counts.ofExpansions, Counts.total_eq_sum, remapped_arguments_counted]

end Expanded

/-- Declarations with admissible access levels expand, and the totals of their expansions agree with the extensions,
the diagnostics, the switches and the cases. With the declarations of another list behind them the totals add up. -/
theorem totals_agree_and_add_up (policy : UnlabeledPolicy) (ds : List Declaration)
    (admissible : ∀ d ∈ ds, d.access = none ∨ ∃ level : AccessLevel, d.access = some level.name) :
    ∃ es, expandAll ds policy = .ok es ∧ Agrees policy ds es (.ofExpansions es) ∧
      ∀ more fs, expandAll more policy = .ok fs → expandAll (ds ++ more) policy = .ok (es ++ fs) ∧
        Counts.ofExpansions (es ++ fs) = Counts.ofExpansions es + Counts.ofExpansions fs := by
  obtain ⟨es, expanded⟩ := (forall₂_exists_iff (fun d e => d.expand policy = .ok e) ds).mpr fun d member =>
    expand_admissible d policy (admissible d member)
  refine ⟨es, (map_m_ok_iff _ _ _).mpr expanded, totals_agree admissible expanded, fun more fs done => ⟨?_, ?_⟩⟩
  · exact (map_m_ok_iff _ _ _).mpr (List.rel_append expanded (map_m_ok _ _ _ done))
  · exact Counts.of_expansions_append es fs

def countedDeclarations : List Declaration :=
  [⟨"ScreenID", "enum", some "public",
      [⟨"detail", [⟨some "id", none, "Int"⟩, ⟨none, none, "Int"⟩],
          [⟨"Screen", [.reference "DetailView" "DetailView",
            .dictionary "" [(.string "" "id", .string "" "key"), (.string "" "typo", .string "" "key")]]⟩]⟩,
        ⟨"home", [], []⟩]⟩,
    ⟨"Point", "struct", none, [⟨"origin", [], []⟩]⟩]

set_option maxRecDepth 2000 in
theorem declarations_counted :
    (expandAll countedDeclarations .positional).map Counts.ofExpansions = .ok ⟨2, 1, 1, 2, 1, 1, 1, 1⟩ := by
  cbv

theorem counted_declarations_agree :
    ∃ es, expandAll countedDeclarations .positional = .ok es ∧
      Agrees .positional countedDeclarations es ⟨2, 1, 1, 2, 1, 1, 1, 1⟩ ∧
      Counts.ofExpansions (es ++ es) = ⟨4, 2, 2, 4, 2, 2, 2, 2⟩ := by
  have counted := declarations_counted
  have admissible : ∀ d ∈ countedDeclarations,
      d.access = none ∨ ∃ level : AccessLevel, d.access = some level.name := by
    rw [countedDeclarations, List.forall_mem_cons, List.forall_mem_singleton]
    exact ⟨.inr ⟨.pub, rfl⟩, .inl rfl⟩
  obtain ⟨es, expands, agrees, adds⟩ := totals_agree_and_add_up .positional countedDeclarations admissible
  rw [expands] at counted
  have totals : Counts.ofExpansions es = ⟨2, 1, 1, 2, 1, 1, 1, 1⟩ := Except.ok.inj counted
  have twice := (adds _ es expands).2
  rw [totals] at agrees twice
  exact ⟨es, expands, agrees, twice⟩

end ScreenDispatch
