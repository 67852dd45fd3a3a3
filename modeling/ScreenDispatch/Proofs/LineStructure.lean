import ScreenDispatch.Proofs.BindingNames
import ScreenDispatch.Proofs.FileLines
import ScreenDispatch.Proofs.OneLineTexts
import ScreenDispatch.Proofs.RenderedExtensions
import ScreenDispatch.Proofs.ScreenAttributes

/-!
The line structure of generated files. What is taken from the arguments of attributes keeps it, but for the generic
arguments of a type, which are put in as they are written.
-/
set_option autoImplicit false

namespace ScreenDispatch

open Text (OneLine one_line_append)

def screenArguments (attributes : List Attribute) : List (Expr String) :=
  match screenAttribute? attributes with
  | none => []
  | some given => given.arguments

def Case.genericTexts (c : Case) : List String :=
  match screenArguments c.attributes with
  | [] => []
  | first :: _ => first.genericTexts

structure OneLineNames (c : Case) : Prop where
  name : OneLine c.name
  labels : ∀ slot ∈ c.slots, ∀ label ∈ slot.label, OneLine label
  names : ∀ slot ∈ c.slots, ∀ name ∈ slot.name, OneLine name

def Arm.textLines (policy : UnlabeledPolicy) (arm : Arm) : List String :=
  ((arm.lines policy).map (indent ++ indent ++ ·)).flatMap Text.lines

def openingLines (name modifier : String) : List String :=
  [modifier ++ "extension " ++ name ++ ": View, ScreenMacros.Screens \x7b", indent ++ "@MainActor @ViewBuilder",
    indent ++ modifier ++ "var body: some View \x7b", indent ++ indent ++ "switch self \x7b"]

def closingLines : List String := [indent ++ indent ++ "\x7d", indent ++ "\x7d", "\x7d"]

structure KeepsLines (policy : UnlabeledPolicy) (c : Case) (arm : Arm) : Prop where
  mapping : ∀ entry ∈ arm.mapping.entries, OneLine entry.1 ∧ OneLine entry.2
  bindings : OneLineNames c → ∀ p ∈ arm.parameters, OneLine p.name ∧ ∀ label ∈ p.label, OneLine label
  labels : OneLineNames c → ∀ a ∈ arguments arm.parameters arm.mapping policy, ∀ label ∈ a.label, OneLine label
  viewType : OneLineNames c → (OneLine arm.viewType ↔ ∀ text ∈ c.genericTexts, OneLine text)
  lines : OneLineNames c → (arm.textLines policy = [indent ++ indent ++ "case " ++ arm.pattern ++ ":",
      indent ++ indent ++ indent ++ arm.initializer policy] ↔ ∀ text ∈ c.genericTexts, OneLine text)

theorem uppercase_no_feed (c : Char) (other : c ≠ '\n') : Text.uppercase c ≠ '\n' := by
  have beyond : ∀ run ∈ Text.uppercaseRuns, 10 < (run.first : Int) + run.distance := by decide +kernel
  rw [Text.uppercase, Text.shift]
  split
  · rename_i run found
    have covers := List.find?_some found
    have moved := beyond run (List.mem_of_find?_eq_some found)
    simp only [Text.CaseRun.covers, Bool.and_eq_true, decide_eq_true_eq] at covers
    intro feed
    have value := congrArg Char.toNat feed
    rw [Char.toNat_ofNat, Int.ofNat_eq_natCast] at value
    have ten : '\n'.toNat = 10 := rfl
    split at value
    · omega
    · omega
  · exact other

theorem inferred_one_line (caseName : String) (plain : OneLine caseName) : OneLine (inferredType caseName) := by
  unfold inferredType
  split
  · exact plain
  · rename_i c rest letters
    rw [OneLine, letters, List.mem_cons, not_or] at plain
    rw [OneLine, String.toList_ofList, List.mem_cons, not_or]
    exact ⟨(uppercase_no_feed c (Ne.symm plain.1)).symm, plain.2⟩

theorem resolve_arguments (attributes : List Attribute) (caseName : String) :
    Screen.resolve attributes caseName = outcomeOf caseName (screenArguments attributes) := by
  rw [Screen.resolve, screenArguments]
  cases screenAttribute? attributes <;> rfl

theorem screen_keeps_lines (c : Case) (screen : Screen) (resolved : Screen.resolve c.attributes c.name = .ok screen)
    (read : ∀ e ∈ screenArguments c.attributes, ∃ text, e = Expr.ofArgument text) :
    (∀ entry ∈ screen.mapping.entries, OneLine entry.1 ∧ OneLine entry.2) ∧
      (OneLine c.name → (OneLine screen.viewType ↔ ∀ text ∈ c.genericTexts, OneLine text)) := by
  rw [resolve_arguments] at resolved
  have comes := (comes_to_iff _ _ _).mpr resolved
  have typed (first : Expr String) (viewType : String) (given : ∃ text, first = Expr.ofArgument text)
      (spelled : first.typeName? = some viewType) : OneLine viewType ↔ ∀ text ∈ first.genericTexts, OneLine text := by
    obtain ⟨text, rfl⟩ := given
    exact Expr.view_type_one_line text viewType ((Expr.view_type_iff _ _).mpr spelled)
  have mapped (source : String) (entries : List (Expr String × Expr String))
      (given : ∃ text, Expr.dictionary source entries = Expr.ofArgument text) :
      ∀ entry ∈ (Mapping.ofEntries entries).entries, OneLine entry.1 ∧ OneLine entry.2 := by
    obtain ⟨text, same⟩ := given
    exact Expr.mapping_one_line text _ (by rw [← same]; rfl)
  rw [Case.genericTexts]
  generalize screenArguments c.attributes = given at comes read
  cases comes with
  | inferred => exact ⟨nofun, fun plain => iff_of_true (inferred_one_line c.name plain) nofun⟩
  | mapped source entries others =>
      exact ⟨mapped source entries (read _ List.mem_cons_self),
        fun plain => iff_of_true (inferred_one_line c.name plain) nofun⟩
  | typed first viewType named spelled =>
      exact ⟨nofun, fun _ => typed first viewType (read _ List.mem_cons_self) spelled⟩
  | typedAndMapped first viewType source entries others named spelled =>
      exact ⟨mapped source entries (read _ (by simp)),
        fun _ => typed first viewType (read _ List.mem_cons_self) spelled⟩

theorem numbered_one_line (index : Nat) : OneLine (numberedName index) :=
  Text.identifier_one_line _ (numbered_identifier index)

section Arguments

variable {mapping : Mapping} (mapped : ∀ entry ∈ mapping.entries, OneLine entry.1 ∧ OneLine entry.2)

include mapped

theorem target_label_one_line (policy : UnlabeledPolicy) (p : Parameter) (name : OneLine p.name)
    (label : ∀ label ∈ p.label, OneLine label) : OneLine (targetLabel mapping policy p) := by
  have source : OneLine p.sourceKey := by
    rw [Parameter.sourceKey]
    cases given : p.label with
    | none => exact name
    | some own => exact label own given
  unfold targetLabel
  split
  · rename_i target found
    obtain ⟨front, back, entries, -⟩ := List.lookup_eq_some_iff.mp found
    exact (mapped (p.sourceKey, target) (by simp [entries])).2
  · split
    · decide
    · exact source

theorem arguments_one_line (policy : UnlabeledPolicy) (parameters : List Parameter)
    (named : ∀ p ∈ parameters, OneLine p.name ∧ ∀ label ∈ p.label, OneLine label) :
    ∀ a ∈ arguments parameters mapping policy, OneLine a.value ∧ ∀ label ∈ a.label, OneLine label := by
  refine List.forall_mem_map.mpr fun p inside => ?_
  obtain ⟨name, label⟩ := named p inside
  have target := target_label_one_line mapped policy p name label
  refine ⟨name, fun given same => ?_⟩
  simp only [Parameter.argument, Option.mem_def, Option.ite_none_left_eq_some, Option.some.injEq] at same
  exact same.2 ▸ target

end Arguments

theorem arm_text_lines_iff (policy : UnlabeledPolicy) (arm : Arm) :
    arm.textLines policy = [indent ++ indent ++ "case " ++ arm.pattern ++ ":",
      indent ++ indent ++ indent ++ arm.initializer policy] ↔
      OneLine arm.pattern ∧ OneLine (arm.initializer policy) := by
  have inner : OneLine (indent ++ indent) := by decide
  have lines : (arm.lines policy).map (indent ++ indent ++ ·) = [indent ++ indent ++ "case " ++ arm.pattern ++ ":",
      indent ++ indent ++ indent ++ arm.initializer policy] := by
    simp [Arm.lines, String.append_assoc]
  rw [Arm.textLines, ← one_line_arm, ← lines, Text.lines_kept_iff, List.forall_mem_map]
  exact forall₂_congr fun line _ => (one_line_append _ line).trans (and_iff_right inner)

theorem contribution_keeps_lines (declaration : String) (policy : UnlabeledPolicy) (c : Case) (r : ResolvedCase)
    (contributed : ContributionOf declaration c r)
    (read : ∀ e ∈ screenArguments c.attributes, ∃ text, e = Expr.ofArgument text) : KeepsLines policy c r.arm := by
  obtain ⟨screen, resolved, same, -⟩ := contributed
  obtain ⟨mapped, typed⟩ := screen_keeps_lines c screen resolved read
  rw [same]
  have bindings (plain : OneLineNames c) : ∀ p ∈ c.parameters, OneLine p.name ∧ ∀ label ∈ p.label, OneLine label :=
    parameter_names numbered_one_line 0 c.slots plain.labels plain.names
  have rendered (plain : OneLineNames c) := arguments_one_line mapped policy c.parameters (bindings plain)
  refine ⟨mapped, bindings, fun plain a inside => (rendered plain a inside).2, fun plain => typed plain.name,
    fun plain => ?_⟩
  rw [arm_text_lines_iff, one_line_pattern, one_line_initializer, ← typed plain.name]
  have pattern : ∀ p ∈ c.parameters, OneLine p.binding := fun p inside =>
    (one_line_binding p).mpr ⟨(bindings plain p inside).2, (bindings plain p inside).1⟩
  have arguments : ∀ a ∈ arguments c.parameters screen.mapping policy, OneLine a.render := fun a inside =>
    (one_line_argument a).mpr ⟨(rendered plain a inside).2, (rendered plain a inside).1⟩
  exact ⟨fun both => both.2.1, fun type => ⟨⟨plain.name, pattern⟩, type, arguments⟩⟩

theorem extension_parts (name modifier : String) (arms : List Arm) (policy : UnlabeledPolicy) :
    extensionLines name modifier (switchLines arms policy) = openingLines name modifier ++
      (arms.flatMap (·.lines policy)).map (indent ++ indent ++ ·) ++ closingLines := by
  simp [extensionLines, switchLines, openingLines, closingLines]

theorem opening_one_line (name modifier : String) (named : OneLine name) (plain : OneLine modifier) :
    ∀ line ∈ openingLines name modifier, OneLine line := by
  intro line inside
  refine (one_line_extension name modifier [] .positional).mpr ⟨named, plain, nofun⟩ line ?_
  rw [extension_parts]
  exact List.mem_append_left _ (List.mem_append_left _ inside)

theorem extension_text_lines (name modifier : String) (named : OneLine name) (plain : OneLine modifier)
    (arms : List Arm) (policy : UnlabeledPolicy) :
    Text.lines (renderExtension name modifier (switchLines arms policy)) =
      openingLines name modifier ++ arms.flatMap (·.textLines policy) ++ closingLines := by
  have front : (openingLines name modifier).flatMap Text.lines = openingLines name modifier :=
    (Text.lines_kept_iff _).mpr (opening_one_line name modifier named plain)
  have back : closingLines.flatMap Text.lines = closingLines := (Text.lines_kept_iff _).mpr (by decide)
  rw [extension_source_lines, extension_parts, List.flatMap_append, List.flatMap_append, front, back, List.map_flatMap,
    List.flatMap_assoc]
  rfl

theorem header_comments (s : FileSettings) (name : String) (header : List String)
    (given : headerLines s name = .ok header) : ∀ line ∈ header, "//".toList <+: line.toList := by
  have marked (front rest : String) (mark : "//".toList <+: front.toList) : "//".toList <+: (front ++ rest).toList := by
    rw [String.toList_append]
    exact mark.trans (List.prefix_append _ _)
  rw [header_shape s name header given]
  simp only [List.forall_mem_cons]
  refine ⟨?_, marked _ _ ?_, ?_, marked _ _ ?_, marked _ _ ?_, ?_, nofun⟩ <;> decide

-- The lines that the file of a declaration falls into. The header is kept if no name in it has a line feed.
structure FallsIntoLines (s : FileSettings) (d : Declaration) (x : Extension) (header : List String) (text : String) :
    Prop where
  given : headerLines s d.name = .ok header
  six : header.length = 6
  comments : ∀ line ∈ header, "//".toList <+: line.toList
  kept : OneLine s.schemaName → OneLine s.schemaVersion → header.flatMap Text.lines = header
  lines : Text.lines text = header.flatMap Text.lines ++ (importPart s.imports).flatMap Text.lines ++
    "" :: (openingLines d.name x.modifier ++ x.arms.flatMap (·.textLines s.policy) ++ closingLines) ++ [""]

theorem file_falls_into_lines (s : FileSettings) (d : Declaration) (identifier : Text.isIdentifier d.name.toList = true)
    (x : Extension) (expands : d.extension? s.policy = some x) (text : String) (made : fileText s x = .ok text) :
    ∃ header, FallsIntoLines s d x header text := by
  obtain ⟨_, modifier, _, access, rfl⟩ := extension_rendered d s.policy x expands
  obtain ⟨header, given, lines⟩ := file_lines s _ text made
  have named := Text.identifier_one_line d.name identifier
  have plain := modifier_one_line modifier (modifier_known _ _ access)
  refine ⟨header, given, ?_, header_comments s d.name header given, fun file version => ?_, ?_⟩
  · rw [header_shape s d.name header given]
    rfl
  · exact (Text.lines_kept_iff header).mpr ((one_line_header s d.name header given).mpr ⟨named, file, version⟩)
  · rw [lines, Declaration.extensionOf, extension_text_lines d.name modifier named plain]

theorem case_arguments_read (group member : Markup.Element) (c : Case) (read : CaseOf group member c) :
    ∀ e ∈ screenArguments c.attributes, ∃ text, e = Expr.ofArgument text := by
  intro e among
  rw [screenArguments] at among
  cases found : screenAttribute? c.attributes with
  | none =>
      rw [found] at among
      cases among
  | some given =>
      rw [found] at among
      obtain ⟨_, -, settings⟩ := forall₂_source _ _ read.attributes given (List.mem_of_find?_eq_some found)
      obtain ⟨_, -, text, -, same⟩ := forall₂_source _ _ settings.arguments e among
      exact ⟨text, same⟩

theorem declared_arguments_read (root : Markup.Element) (schema : Schema) (read : SchemaOf root schema)
    (d : Declaration) (declared : d ∈ schema.declarations) (c : Case) (among : c ∈ d.cases) :
    ∀ e ∈ screenArguments c.attributes, ∃ text, e = Expr.ofArgument text := by
  obtain ⟨e, -, declares⟩ := forall₂_source _ _ read.declarations d declared
  obtain ⟨place, -, told⟩ := forall₂_source _ _ declares.cases c among
  exact case_arguments_read place.1 place.2 c told

/-- What is read from the arguments of attributes brings no line feed into a file but in the generic arguments of a
type, which are put in as they are written. So where the names that the schema declares have none, a case has exactly
its two lines if the generic arguments have none, and the six lines of the header are comments. -/
theorem arguments_keep_lines (root : Markup.Element) (schema : Schema) (read : Schema.ofElement root = .ok schema)
    (c : GenerateConfig) (d : Declaration) (declared : d ∈ schema.declarations) (x : Extension)
    (expands : d.extension? c.policy = some x) :
    OneLine d.name ∧ OneLine x.modifier ∧ List.Forall₂ (KeepsLines c.policy) d.cases x.arms ∧
      ∀ text, fileText (c.settings schema) x = .ok text →
        ∃ header, FallsIntoLines (c.settings schema) d x header text := by
  have loaded := (schema_ok_iff root schema).mp read
  have identifier := (schema_proper root schema loaded).identifier d declared
  have texts := declared_arguments_read root schema loaded d declared
  obtain ⟨found, modifier, each, access, same⟩ := extension_rendered d c.policy x expands
  refine ⟨Text.identifier_one_line d.name identifier, ?_, ?_, fun text made => ?_⟩
  · rw [same]
    exact modifier_one_line modifier (modifier_known _ _ access)
  · rw [same]
    refine List.forall₂_map_right_iff.mpr (((List.forall₂_and_left _ _).mpr ⟨texts, each⟩).imp ?_)
    exact fun found r ⟨plain, contributed⟩ => contribution_keeps_lines d.name c.policy found r contributed plain
  · exact file_falls_into_lines (c.settings schema) d identifier x expands text made

def screenRoot (version name label inner argument : String) : Markup.Element :=
  .node "schema" [("version", version)] none [.node "declaration" [("name", "A")] none
    [.node "case" [("name", name)] none [.node "param" [("label", label), ("name", inner), ("type", "Int")] none [],
      .node "attribute" [("name", "Screen")] none [.node "arg" [] (some argument) []]]]]

def screenCase (name label inner : String) (argument : Expr String) : Case :=
  ⟨name, [⟨some label, some inner, "Int"⟩], [⟨"Screen", [argument]⟩]⟩

def screenDeclaration (c : Case) : Declaration := ⟨"A", "enum", none, [c]⟩

def genericType (name generic : String) : Expr String :=
  let type := name ++ "<" ++ generic ++ ">"
  .member (type ++ ".self") (.specialization type (.reference name name) [generic]) "self"

def screenArm (name viewType label inner : String) : Arm :=
  ⟨name, viewType, [⟨some label, inner⟩], .empty, false⟩

def screenGeneration : GenerateConfig := ⟨⟨0, ["s.xml"]⟩, .absent, [], [], .positional⟩

def screenSettings (version : String) : FileSettings := screenGeneration.settings ⟨version, []⟩

def cleanDeclaration : Declaration := screenDeclaration (screenCase "list" "id" "key" (genericType "Row" "Int"))

def cleanArm : Arm := screenArm "list" "Row<Int>" "id" "key"

def cleanExtension : Extension := cleanDeclaration.extensionOf .positional "" [cleanArm]

theorem clean_accepted :
    Schema.ofElement (screenRoot "1" "list" "id" "key" "Row<Int>.self") = .ok ⟨"1", [cleanDeclaration]⟩ := by
  cbv

theorem clean_expands : cleanDeclaration.extension? .positional = some cleanExtension := by
  decide +kernel

theorem clean_arguments_keep_lines : ∃ text header, fileText (screenSettings "1") cleanExtension = .ok text ∧
    FallsIntoLines (screenSettings "1") cleanDeclaration cleanExtension header text ∧
    header.flatMap Text.lines = header ∧
    cleanArm.textLines .positional = ["        case .list(id: let key):", "            Row<Int>(id: key)"] := by
  obtain ⟨-, -, each, file⟩ := arguments_keep_lines _ _ clean_accepted screenGeneration cleanDeclaration
    List.mem_cons_self cleanExtension clean_expands
  obtain ⟨text, made⟩ := ok_of_is_ok (fileText (screenSettings "1") cleanExtension) (by decide +kernel)
  obtain ⟨header, falls⟩ := file text made
  obtain ⟨keeps, -⟩ := List.forall₂_cons.mp each
  have names : OneLineNames (screenCase "list" "id" "key" (genericType "Row" "Int")) :=
    ⟨by decide, by decide, by decide⟩
  have lines := (keeps.lines names).mpr (by decide +kernel)
  exact ⟨text, header, made, falls, falls.kept (by decide +kernel) (by decide +kernel), lines.trans (by decide +kernel)⟩

def brokenCase : Case := screenCase "ho\nme" "i\nd" "p\nq" (genericType "Home" "(Int,\nInt)")

def brokenArm : Arm := screenArm "ho\nme" "Home<(Int,\nInt)>" "i\nd" "p\nq"

def brokenExtension : Extension := (screenDeclaration brokenCase).extensionOf .positional "" [brokenArm]

theorem broken_accepted : Schema.ofElement (screenRoot "1\n2" "ho\nme" "i\nd" "p\nq" "Home<(Int,\nInt)>.self") =
    .ok ⟨"1\n2", [screenDeclaration brokenCase]⟩ := by
  cbv

theorem broken_header (text : String) (made : fileText (screenSettings "1\n2") brokenExtension = .ok text) :
    (Text.lines text)[4]? = some "2)" := by
  obtain ⟨header, given, lines⟩ := file_lines _ _ text made
  rw [header_shape _ _ header given] at lines
  rw [lines, List.append_assoc, List.append_assoc, List.getElem?_append_left (by decide +kernel)]
  decide +kernel

theorem line_feeds_break_lines :
    Schema.ofElement (screenRoot "1\n2" "ho\nme" "i\nd" "p\nq" "Home<(Int,\nInt)>.self") =
        .ok ⟨"1\n2", [screenDeclaration brokenCase]⟩ ∧
      (screenDeclaration brokenCase).extension? .positional = some brokenExtension ∧
      (¬ OneLine brokenArm.caseName ∧ ¬ OneLine brokenArm.viewType) ∧
      (∃ p ∈ brokenArm.parameters, ¬ OneLine p.name ∧ ∃ label ∈ p.label, ¬ OneLine label) ∧
      (∃ a ∈ arguments brokenArm.parameters brokenArm.mapping .positional, ∃ label ∈ a.label, ¬ OneLine label) ∧
      (brokenArm.textLines .positional).length = 8 ∧
      ∃ text, fileText (screenSettings "1\n2") brokenExtension = .ok text ∧ (Text.lines text)[4]? = some "2)" := by
  obtain ⟨text, made⟩ := ok_of_is_ok (fileText (screenSettings "1\n2") brokenExtension) (by decide +kernel)
  exact ⟨broken_accepted, by decide +kernel, by decide +kernel, by decide +kernel, by decide +kernel,
    by decide +kernel, text, made, broken_header text made⟩

end ScreenDispatch
