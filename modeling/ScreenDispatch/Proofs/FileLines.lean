import ScreenDispatch.Proofs.JoinedTexts
import ScreenDispatch.Proofs.PolicyInfluence
import ScreenDispatch.SourceFile

/-!
The lines of a generated file: those of the header, of the imports and of the extension. What could break them are the
texts that they are put together from.
-/
set_option autoImplicit false

namespace ScreenDispatch

open Text (OneLine one_line_append one_line_intercalate)

def importPart (imports : List String) : List String :=
  if imports.isEmpty then [] else "" :: imports.map ("import " ++ ·)

def modifiers : List String := "" :: AccessLevel.all.map (·.name ++ " ")

theorem modifier_known (access : Option String) (modifier : String) (given : accessModifier access = .ok modifier) :
    modifier ∈ modifiers := by
  cases access with
  | none =>
      rw [← Except.ok.inj given]
      exact List.mem_cons_self
  | some access =>
      rw [accessModifier] at given
      split at given
      · rename_i level _
        rw [← Except.ok.inj given]
        exact List.mem_cons_of_mem _ (List.mem_map.mpr ⟨level, by cases level <;> decide, rfl⟩)
      · cases given

theorem header_shape (s : FileSettings) (name : String) (header : List String)
    (given : headerLines s name = .ok header) :
    header = [headerBorder, "// | Screens for " ++ name, "// | Generated by screens-gen, do not edit",
      "// | Source: " ++ s.source, "// | Unlabeled arguments: " ++ s.policy.name, headerBorder] := by
  rw [headerLines] at given
  split at given
  · cases given
  · split at given
    · cases given
    · exact (Except.ok.inj given).symm

theorem import_shape (imports lines : List String) (given : importLines imports = .ok lines) :
    (if lines.isEmpty then [] else "" :: lines) = importPart imports := by
  rw [importLines] at given
  split at given
  · cases given
  · obtain rfl := Except.ok.inj given
    rw [importPart, List.isEmpty_map]

theorem file_shape (s : FileSettings) (x : Extension) (text : String) (made : fileText s x = .ok text) :
    ∃ header, headerLines s x.typeName = .ok header ∧
      text = String.intercalate "\n" (header ++ importPart s.imports ++ ["", x.source]) ++ "\n" := by
  obtain ⟨all, joined, same⟩ := bind_ok _ _ _ made
  obtain ⟨header, given, rest⟩ := bind_ok _ _ _ joined
  obtain ⟨imports, listed, built⟩ := bind_ok _ _ _ rest
  refine ⟨header, given, ?_⟩
  rw [← Except.ok.inj same, ← Except.ok.inj built, import_shape _ _ listed]

theorem file_lines (s : FileSettings) (x : Extension) (text : String) (made : fileText s x = .ok text) :
    ∃ header, headerLines s x.typeName = .ok header ∧
      Text.lines text = header.flatMap Text.lines ++ (importPart s.imports).flatMap Text.lines ++
        "" :: Text.lines x.source ++ [""] := by
  obtain ⟨header, given, rfl⟩ := file_shape s x text made
  have filled : header ++ importPart s.imports ++ ["", x.source] ≠ [] := by simp
  refine ⟨header, given, ?_⟩
  rw [Text.lines_ended, Text.lines_joined _ filled, List.flatMap_append, List.flatMap_append, List.flatMap_cons,
    List.flatMap_singleton]
  rfl

theorem extension_source_lines (name modifier : String) (switch : List String) :
    Text.lines (renderExtension name modifier switch) = (extensionLines name modifier switch).flatMap Text.lines :=
  Text.lines_joined _ (List.cons_ne_nil _ _)

theorem extension_length (name modifier : String) (arms : List Arm) (policy : UnlabeledPolicy) :
    (extensionLines name modifier (switchLines arms policy)).length = 2 * arms.length + 7 := by
  simp only [extensionLines, switchLines, List.length_append, List.length_map, List.length_cons, List.length_nil,
    line_count]
  omega

section OneLine

theorem modifier_one_line (modifier : String) (known : modifier ∈ modifiers) : OneLine modifier := by
  revert known
  revert modifier
  decide

theorem one_line_header (s : FileSettings) (name : String) (header : List String)
    (given : headerLines s name = .ok header) :
    (∀ line ∈ header, OneLine line) ↔ OneLine name ∧ OneLine s.schemaName ∧ OneLine s.schemaVersion := by
  have policy : OneLine s.policy.name := by cases s.policy <;> decide
  rw [header_shape s name header given]
  simp only [List.forall_mem_cons, one_line_append, FileSettings.source, policy]
  simp [OneLine, headerBorder]

theorem one_line_imports (imports : List String) :
    (∀ line ∈ importPart imports, OneLine line) ↔ ∀ name ∈ imports, OneLine name := by
  have empty : OneLine "" := by decide
  have front : OneLine "import " := by decide
  cases imports with
  | nil => exact iff_of_true nofun nofun
  | cons first rest =>
      simp only [importPart, List.isEmpty_cons, Bool.false_eq_true, if_false, List.forall_mem_cons (a := ""),
        List.forall_mem_map, one_line_append, empty, front, true_and]

theorem one_line_binding (p : Parameter) :
    OneLine p.binding ↔ (∀ label, p.label = some label → OneLine label) ∧ OneLine p.name := by
  obtain ⟨label, name⟩ := p
  cases label <;> simp [Parameter.binding, OneLine]

theorem one_line_pattern (arm : Arm) :
    OneLine arm.pattern ↔ OneLine arm.caseName ∧ ∀ p ∈ arm.parameters, OneLine p.binding := by
  have dot : OneLine "." := by decide
  have opening : OneLine "(" := by decide
  have closing : OneLine ")" := by decide
  rw [Arm.pattern]
  split
  · rename_i none
    rw [one_line_append, List.isEmpty_iff.mp none]
    simp [dot]
  · simp only [one_line_append, one_line_intercalate ", " (by decide), List.forall_mem_map, dot, opening, closing,
      true_and, and_true]

theorem one_line_argument (a : Argument) :
    OneLine a.render ↔ (∀ label, a.label = some label → OneLine label) ∧ OneLine a.value := by
  obtain ⟨label, value⟩ := a
  cases label <;> simp [Argument.render, OneLine]

theorem one_line_initializer (arm : Arm) (policy : UnlabeledPolicy) :
    OneLine (arm.initializer policy) ↔
      OneLine arm.viewType ∧ ∀ a ∈ arguments arm.parameters arm.mapping policy, OneLine a.render := by
  have opening : OneLine "(" := by decide
  have closing : OneLine ")" := by decide
  simp only [Arm.initializer, one_line_append, one_line_intercalate ", " (by decide), List.forall_mem_map, opening,
    closing, and_true]

theorem one_line_arm (arm : Arm) (policy : UnlabeledPolicy) :
    (∀ line ∈ arm.lines policy, OneLine line) ↔ OneLine arm.pattern ∧ OneLine (arm.initializer policy) := by
  simp [Arm.lines, indent, OneLine]

theorem one_line_extension (name modifier : String) (arms : List Arm) (policy : UnlabeledPolicy) :
    (∀ line ∈ extensionLines name modifier (switchLines arms policy), OneLine line) ↔
      OneLine name ∧ OneLine modifier ∧ ∀ arm ∈ arms, ∀ line ∈ arm.lines policy, OneLine line := by
  have inner : OneLine indent := by decide
  have closing : OneLine "\x7d" := by decide
  have opening : OneLine "switch self \x7b" := by decide
  have keyword : OneLine "extension " := by decide
  have views : OneLine ": View, ScreenMacros.Screens \x7b" := by decide
  have builder : OneLine "@MainActor @ViewBuilder" := by decide
  have body : OneLine "var body: some View \x7b" := by decide
  simp only [extensionLines, switchLines, List.forall_mem_append, List.forall_mem_map, List.forall_mem_cons,
    List.forall_mem_flatMap, one_line_append, inner, closing, opening, keyword, views, builder, body, List.cons_append,
    true_and, and_true]
  constructor
  · rintro ⟨⟨plain, named⟩, -, ⟨-, each, -⟩, -⟩
    exact ⟨named, plain, each⟩
  · rintro ⟨named, plain, each⟩
    exact ⟨⟨plain, named⟩, plain, ⟨List.forall_mem_nil _, each, List.forall_mem_nil _⟩, List.forall_mem_nil _⟩

end OneLine

end ScreenDispatch
