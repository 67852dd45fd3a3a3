import Mathlib.Data.List.Nodup
import ScreenDispatch.Expansion
import ScreenDispatch.Proofs.Attempts
import ScreenDispatch.Proofs.OrderedTexts

/-!
The two forms of an expansion: an extension with an arm for every case and the warnings of all
cases, or one error and nothing else.
-/
set_option autoImplicit false

namespace ScreenDispatch

theorem mem_unused_keys (mapping : Mapping) (parameters : List Parameter) (key : String) :
    key ∈ unusedKeys mapping parameters ↔
      key ∈ mapping.keys ∧ ∀ p ∈ parameters, p.sourceKey ≠ key := by
  simp [unusedKeys, List.mem_mergeSort]

theorem unused_keys_sorted (mapping : Mapping) (parameters : List Parameter) :
    (unusedKeys mapping parameters).Pairwise (· ≤ ·) :=
  Text.sorted_texts _

theorem unused_keys_nodup (mapping : Mapping) (parameters : List Parameter) :
    (unusedKeys mapping parameters).Nodup := by
  have distinct : (mapping.keys.filter fun key => !parameters.any (·.sourceKey == key)).Nodup :=
    List.Nodup.filter _ mapping.nodup
  exact (List.mergeSort_perm _ _).nodup_iff.mpr distinct

inductive WarningsOf (declaration : String) (c : Case) (screen : Screen) : Option Diagnostic → Prop where
  | none (used : ∀ key ∈ screen.mapping.keys, ∃ p ∈ c.parameters, p.sourceKey = key) :
      WarningsOf declaration c screen none
  | unused (keys : List String) (present : keys ≠ []) (sorted : keys.Pairwise (· ≤ ·))
      (distinct : keys.Nodup)
      (exact : ∀ key, key ∈ keys ↔ key ∈ screen.mapping.keys ∧ ∀ p ∈ c.parameters, p.sourceKey ≠ key) :
      WarningsOf declaration c screen (some ⟨.unusedKeys keys c.name, ⟨declaration, some c.name⟩⟩)

def ContributionOf (declaration : String) (c : Case) (r : ResolvedCase) : Prop :=
  ∃ screen, Screen.resolve c.attributes c.name = .ok screen ∧
    r.arm = ⟨c.name, screen.viewType, c.parameters, screen.mapping, screen.inferred⟩ ∧
    WarningsOf declaration c screen r.warning

theorem warnings_of_unused_keys (declaration : String) (c : Case) (screen : Screen) :
    WarningsOf declaration c screen
      (unusedKeysWarning screen.mapping c.parameters c.name ⟨declaration, some c.name⟩) := by
  have members := mem_unused_keys screen.mapping c.parameters
  have sorted := unused_keys_sorted screen.mapping c.parameters
  have distinct := unused_keys_nodup screen.mapping c.parameters
  unfold unusedKeysWarning
  split
  · rename_i empty
    apply WarningsOf.none
    intro key present
    by_contra missing
    have unused := (members key).mpr ⟨present, fun p member same => missing ⟨p, member, same⟩⟩
    rw [empty] at unused
    cases unused
  · rename_i nonempty
    exact .unused _ nonempty sorted distinct members

theorem case_resolve_ok (declaration : String) (c : Case) (r : ResolvedCase)
    (done : c.resolve declaration = .ok r) : ContributionOf declaration c r := by
  unfold Case.resolve at done
  cases resolved : Screen.resolve c.attributes c.name with
  | error e => simp [resolved] at done
  | ok screen =>
      simp only [resolved, Except.ok.injEq] at done
      subst done
      exact ⟨screen, resolved, rfl, warnings_of_unused_keys declaration c screen⟩

theorem case_resolve_error (declaration : String) (c : Case) (diagnostic : Diagnostic)
    (stopped : c.resolve declaration = .error diagnostic) :
    ∃ error, Screen.resolve c.attributes c.name = .error error ∧
      diagnostic = ⟨.failure error, ⟨declaration, some c.name⟩⟩ := by
  unfold Case.resolve at stopped
  cases resolved : Screen.resolve c.attributes c.name with
  | ok screen => simp [resolved] at stopped
  | error e =>
      simp only [resolved, Except.error.injEq] at stopped
      exact ⟨e, rfl, stopped.symm⟩

theorem access_modifier_admissible (access : Option String)
    (admissible : access = none ∨ ∃ level : AccessLevel, access = some level.name) :
    ∃ modifier, accessModifier access = .ok modifier := by
  rcases admissible with rfl | ⟨level, rfl⟩
  · exact ⟨"", rfl⟩
  · cases level <;> exact ⟨_, rfl⟩

def Resolvable (d : Declaration) : Prop :=
  d.kind = "enum" ∧ ∀ c ∈ d.cases, ∃ screen, Screen.resolve c.attributes c.name = .ok screen

def Expands (d : Declaration) (e : Expansion) : Prop :=
  ∃ found extension, e.extension = some extension ∧
    List.Forall₂ (ContributionOf d.name) d.cases found ∧
    extension.arms = found.map (·.arm) ∧ e.diagnostics = found.filterMap (·.warning)

-- No extension, and one error: about the declaration if it is no enum, else about the first case
-- that does not resolve.
def FailsToExpand (d : Declaration) (e : Expansion) : Prop :=
  e.extension = none ∧
    ((d.kind ≠ "enum" ∧ e.diagnostics = [⟨.failure .notAnEnum, ⟨d.name, none⟩⟩]) ∨
      (d.kind = "enum" ∧ ∃ before c after error, d.cases = before ++ c :: after ∧
        (∀ b ∈ before, ∃ screen, Screen.resolve b.attributes b.name = .ok screen) ∧
        Screen.resolve c.attributes c.name = .error error ∧
        e.diagnostics = [⟨.failure error, ⟨d.name, some c.name⟩⟩]))

theorem resolves_of_contribution (declaration : String) (cases : List Case) (found : List ResolvedCase)
    (each : List.Forall₂ (ContributionOf declaration) cases found) :
    ∀ c ∈ cases, ∃ screen, Screen.resolve c.attributes c.name = .ok screen := by
  induction each with
  | nil => simp
  | cons contributed _ ih =>
      obtain ⟨screen, resolved, _⟩ := contributed
      intro c member
      rcases List.mem_cons.mp member with rfl | later
      · exact ⟨screen, resolved⟩
      · exact ih c later

theorem expand_enum_ok (d : Declaration) (policy : UnlabeledPolicy) (found : List ResolvedCase)
    (modifier : String) (enum : d.kind = "enum") (known : accessModifier d.access = .ok modifier)
    (run : d.cases.mapM (Case.resolve d.name) = .ok found) :
    ∃ e, d.expand policy = .ok e ∧ e.declaration = d.name ∧ Expands d e := by
  have isEnum : d.isEnum = true := by simp [Declaration.isEnum, enum]
  have each : List.Forall₂ (ContributionOf d.name) d.cases found :=
    (map_m_ok _ _ _ run).imp (case_resolve_ok d.name)
  unfold Declaration.expand
  rw [isEnum, run, known]
  exact ⟨_, rfl, rfl, found, _, rfl, each, rfl, rfl⟩

theorem expand_enum_error (d : Declaration) (policy : UnlabeledPolicy) (diagnostic : Diagnostic)
    (enum : d.kind = "enum") (run : d.cases.mapM (Case.resolve d.name) = .error diagnostic) :
    ¬ Resolvable d ∧ ∃ e, d.expand policy = .ok e ∧ e.declaration = d.name ∧ FailsToExpand d e := by
  have isEnum : d.isEnum = true := by simp [Declaration.isEnum, enum]
  obtain ⟨before, c, after, split, good, failing⟩ := map_m_error _ _ _ run
  obtain ⟨error, unresolved, rfl⟩ := case_resolve_error d.name c diagnostic failing
  constructor
  · intro resolvable
    obtain ⟨screen, resolved⟩ := resolvable.2 c (by simp [split])
    rw [unresolved] at resolved
    cases resolved
  · have earlier : ∀ b ∈ before, ∃ screen, Screen.resolve b.attributes b.name = .ok screen := by
      intro b member
      obtain ⟨r, done⟩ := good b member
      obtain ⟨screen, resolved, _⟩ := case_resolve_ok d.name b r done
      exact ⟨screen, resolved⟩
    unfold Declaration.expand
    rw [isEnum, run]
    exact ⟨_, rfl, rfl, rfl, .inr ⟨enum, before, c, after, error, split, earlier, unresolved, rfl⟩⟩

theorem expand_has_one_of_two_forms (d : Declaration) (policy : UnlabeledPolicy)
    (admissible : d.access = none ∨ ∃ level : AccessLevel, d.access = some level.name) :
    ∃ e, d.expand policy = .ok e ∧ e.declaration = d.name ∧
      (Resolvable d → Expands d e) ∧ (¬ Resolvable d → FailsToExpand d e) := by
  by_cases enum : d.kind = "enum"
  · cases run : d.cases.mapM (Case.resolve d.name) with
    | error diagnostic =>
        obtain ⟨unresolvable, e, done, name, form⟩ := expand_enum_error d policy diagnostic enum run
        exact ⟨e, done, name, fun resolvable => absurd resolvable unresolvable, fun _ => form⟩
    | ok found =>
        obtain ⟨modifier, known⟩ := access_modifier_admissible d.access admissible
        obtain ⟨e, done, name, form⟩ := expand_enum_ok d policy found modifier enum known run
        have resolvable : Resolvable d := by
          obtain ⟨contributions, _, _, each, _⟩ := form
          exact ⟨enum, resolves_of_contribution d.name d.cases contributions each⟩
        exact ⟨e, done, name, fun _ => form, fun unresolvable => absurd resolvable unresolvable⟩
  · have notEnum : d.isEnum = false := by simp [Declaration.isEnum, enum]
    unfold Declaration.expand
    rw [notEnum]
    exact ⟨_, rfl, rfl, fun resolvable => absurd resolvable.1 enum, fun _ => ⟨rfl, .inl ⟨enum, rfl⟩⟩⟩

def warnedThenBroken : Declaration :=
  ⟨"ScreenID", "enum", some "public",
    [⟨"detail", [], [⟨"Screen", [.dictionary "" [(.string "" "id", .string "" "key")]]⟩]⟩,
      ⟨"home", [], [⟨"Screen", [.number "1"]⟩]⟩]⟩

theorem expand_warned_then_broken :
    ¬ Resolvable warnedThenBroken ∧
      ∃ e, warnedThenBroken.expand .positional = .ok e ∧ FailsToExpand warnedThenBroken e := by
  have admissible : warnedThenBroken.access = none ∨
      ∃ level : AccessLevel, warnedThenBroken.access = some level.name := .inr ⟨.pub, rfl⟩
  have broken : ¬ Resolvable warnedThenBroken := by
    intro resolvable
    obtain ⟨screen, resolved⟩ := resolvable.2 ⟨"home", [], [⟨"Screen", [.number "1"]⟩]⟩
      (.tail _ (.head _))
    cases resolved
  obtain ⟨e, done, _, _, form⟩ := expand_has_one_of_two_forms warnedThenBroken .positional admissible
  exact ⟨broken, e, done, form broken⟩

end ScreenDispatch
