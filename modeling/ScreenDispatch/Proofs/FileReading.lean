import ScreenDispatch.Proofs.BindingNames
import ScreenDispatch.Proofs.ReadBack
import ScreenDispatch.Proofs.RenderedExtensions

/-!
Reading generated files back. If the names of a declaration are identifiers and no text brings a line feed in, the
file falls into the header, the imports and the extension, and shows which screens it was generated for.
-/
set_option autoImplicit false

namespace ScreenDispatch

open Text (OneLine isIdentifier identifier_one_line)

structure FileSettings.Plain (s : FileSettings) : Prop where
  schemaName : OneLine s.schemaName
  schemaVersion : OneLine s.schemaVersion
  imports : ∀ name ∈ s.imports, OneLine name

structure NamedByIdentifiers (d : Declaration) : Prop where
  name : isIdentifier d.name.toList = true
  cases : ∀ c ∈ d.cases, isIdentifier c.name.toList = true
  labels : ∀ c ∈ d.cases, ∀ slot ∈ c.slots, ∀ label ∈ slot.label, isIdentifier label.toList = true
  names : ∀ c ∈ d.cases, ∀ slot ∈ c.slots, ∀ name ∈ slot.name, isIdentifier name.toList = true

-- A declaration that expands to this extension, with nothing in it that would be misread.
structure Readable (d : Declaration) (policy : UnlabeledPolicy) (x : Extension) : Prop extends
    NamedByIdentifiers d where
  expands : d.extension? policy = some x
  viewTypes : ∀ arm ∈ x.arms, OneLine arm.viewType
  argumentLabels : ∀ arm ∈ x.arms, ∀ a ∈ arguments arm.parameters arm.mapping policy, ∀ label ∈ a.label, OneLine label

def extensionPart (s : FileSettings) (text : String) : List String :=
  ((Text.lines text).drop (6 + (importPart s.imports).length + 1)).dropLast

structure LaidOut (s : FileSettings) (d : Declaration) (policy : UnlabeledPolicy) (x : Extension) (text : String) :
    Prop where
  lines : ∃ header, headerLines s d.name = .ok header ∧ header.length = 6 ∧
    Text.lines text = header ++ importPart s.imports ++ "" :: extensionPart s text ++ [""]
  length : (extensionPart s text).length = 2 * d.cases.length + 7
  read : readExtension (extensionPart s text) = x.shown policy
  name : x.typeName = d.name
  access : accessModifier d.access = .ok x.modifier
  cases : x.arms.map (fun arm => (arm.caseName, arm.parameters)) = d.cases.map fun c => (c.name, c.parameters)

theorem Parameter.Legible.one_line (p : Parameter) (legible : p.Legible) : OneLine p.binding :=
  (one_line_binding p).mpr ⟨fun label given => identifier_one_line label (legible.label label given),
    identifier_one_line p.name legible.name⟩

section Readable

variable {d : Declaration} {policy : UnlabeledPolicy} {x : Extension}

theorem Readable.rendered (readable : Readable d policy x) :
    List.Forall₂ ArmOf d.cases x.arms ∧ accessModifier d.access = .ok x.modifier ∧ x.typeName = d.name ∧
      x.source = renderExtension d.name x.modifier (switchLines x.arms policy) := by
  obtain ⟨found, modifier, each, access, rfl⟩ := extension_rendered d policy x readable.expands
  refine ⟨?_, access, rfl, rfl⟩
  exact List.forall₂_map_right_iff.mpr (each.imp fun c r ⟨screen, resolved, same, _⟩ => ⟨screen, resolved, same⟩)

theorem Readable.arms_legible (readable : Readable d policy x) : ∀ arm ∈ x.arms, arm.Legible := by
  intro arm member
  obtain ⟨c, declared, screen, -, rfl⟩ := forall₂_source _ _ readable.rendered.1 arm member
  have named := parameter_names (P := fun name => isIdentifier name.toList = true) numbered_identifier 0 c.slots
    (readable.labels c declared) (readable.names c declared)
  exact ⟨readable.cases c declared, fun p inside => ⟨(named p inside).2, (named p inside).1⟩⟩

theorem Readable.arm_lines (readable : Readable d policy x) :
    ∀ arm ∈ x.arms, ∀ line ∈ arm.lines policy, OneLine line := by
  intro arm member
  have legible := readable.arms_legible arm member
  refine (one_line_arm arm policy).mpr
    ⟨(one_line_pattern arm).mpr ⟨?_, ?_⟩, (one_line_initializer arm policy).mpr ⟨?_, ?_⟩⟩
  · exact identifier_one_line _ legible.name
  · exact fun p inside => (legible.parameters p inside).one_line
  · exact readable.viewTypes arm member
  · intro a inside
    refine (one_line_argument a).mpr ⟨readable.argumentLabels arm member a inside, ?_⟩
    obtain ⟨p, given, rfl⟩ := List.mem_map.mp inside
    exact identifier_one_line _ (legible.parameters p given).name

theorem Readable.extension_lines (readable : Readable d policy x) :
    Text.lines x.source = extensionLines d.name x.modifier (switchLines x.arms policy) := by
  obtain ⟨-, access, -, source⟩ := readable.rendered
  rw [source, extension_source_lines, Text.lines_kept_iff, one_line_extension]
  exact ⟨identifier_one_line _ readable.name, modifier_one_line _ (modifier_known _ _ access), readable.arm_lines⟩

theorem Readable.text_lines (readable : Readable d policy x) (s : FileSettings) (plain : s.Plain) (text : String)
    (made : fileText s x = .ok text) : ∃ header, headerLines s d.name = .ok header ∧ Text.lines text =
      header ++ importPart s.imports ++ "" :: extensionLines d.name x.modifier (switchLines x.arms policy) ++ [""] := by
  obtain ⟨header, given, lines⟩ := file_lines s x text made
  rw [readable.rendered.2.2.1] at given
  have name := identifier_one_line _ readable.name
  have first := (one_line_header s d.name header given).mpr ⟨name, plain.schemaName, plain.schemaVersion⟩
  have second := (one_line_imports s.imports).mpr plain.imports
  refine ⟨header, given, ?_⟩
  rw [lines, readable.extension_lines, (Text.lines_kept_iff _).mpr first, (Text.lines_kept_iff _).mpr second]

theorem cases_of_arms {cases : List Case} {arms : List Arm} (each : List.Forall₂ ArmOf cases arms) :
    arms.map (fun arm => (arm.caseName, arm.parameters)) = cases.map fun c => (c.name, c.parameters) := by
  induction each with
  | nil => rfl
  | cons found _ ih =>
      obtain ⟨screen, -, rfl⟩ := found
      rw [List.map_cons, List.map_cons, ih]

theorem Readable.laid_out (readable : Readable d policy x) (s : FileSettings) (plain : s.Plain) (text : String)
    (made : fileText s x = .ok text) : LaidOut s d policy x text := by
  obtain ⟨header, given, lines⟩ := readable.text_lines s plain text made
  obtain ⟨arms, access, name, -⟩ := readable.rendered
  have six : header.length = 6 := by rw [header_shape s d.name header given]; rfl
  have part : extensionPart s text = extensionLines d.name x.modifier (switchLines x.arms policy) := by
    have front : 6 + (importPart s.imports).length + 1 = (header ++ importPart s.imports ++ [""]).length := by
      simp [six, Nat.add_assoc]
    have all : Text.lines text = header ++ importPart s.imports ++ [""] ++
        (extensionLines d.name x.modifier (switchLines x.arms policy) ++ [""]) := by simp [lines]
    rw [extensionPart, front, all, List.drop_left, List.dropLast_concat]
  exact
    { lines := ⟨header, given, six, part ▸ lines⟩
      length := by rw [part, extension_length, arms.length_eq]
      read := by
        rw [part, read_extension d.name x.modifier x.arms policy (modifier_known _ _ access) readable.name
          readable.arms_legible, Extension.shown, name]
      name := name
      access := access
      cases := cases_of_arms arms }

end Readable

/-- A file falls into the six lines of the header, the imports behind an empty line if there are any, and the extension,
which has two lines for each case and seven more and can be read back. So two declarations with the same file have the
same name, the same access level and the same cases with the same bindings and the same initializers. -/
theorem file_shows_screens (s : FileSettings) (plain : s.Plain) :
    (∀ d policy x text, Readable d policy x → fileText s x = .ok text → LaidOut s d policy x text) ∧
    ∀ d other policy another x y text, Readable d policy x → Readable other another y →
      fileText s x = .ok text → fileText s y = .ok text →
        x.typeName = y.typeName ∧ x.modifier = y.modifier ∧ d.cases.length = other.cases.length ∧
        (d.cases.map fun c => (c.name, c.parameters)) = (other.cases.map fun c => (c.name, c.parameters)) ∧
        x.arms.map (·.initializer policy) = y.arms.map (·.initializer another) := by
  refine ⟨fun d policy x text readable made => readable.laid_out s plain text made, ?_⟩
  intro d other policy another x y text readable also made remade
  have first := readable.laid_out s plain text made
  have second := also.laid_out s plain text remade
  have shown := first.read.symm.trans second.read
  have arms : x.arms.map (·.shown policy) = y.arms.map (·.shown another) := congrArg (·.arms) shown
  have cases : (d.cases.map fun c => (c.name, c.parameters)) = other.cases.map fun c => (c.name, c.parameters) := by
    have pairs := congrArg (List.map fun arm : ShownArm => (arm.caseName, arm.parameters)) arms
    rw [List.map_map, List.map_map] at pairs
    exact first.cases.symm.trans (pairs.trans second.cases)
  have initializers := congrArg (List.map fun arm : ShownArm => arm.initializer) arms
  rw [List.map_map, List.map_map] at initializers
  refine ⟨congrArg (·.typeName) shown, congrArg (·.modifier) shown, ?_, cases, initializers⟩
  simpa using congrArg List.length cases

def plainSettings : FileSettings := ⟨"s.xml", "1", .positional, ["SwiftUI"]⟩

def dialDeclaration (type : String) : Declaration :=
  ⟨"A", "enum", some "public",
    [⟨"home", [], []⟩, ⟨"call", [⟨none, none, type⟩, ⟨some "to", some "who", "String"⟩], []⟩]⟩

def dialExtension : Extension :=
  (dialDeclaration "Int").extensionOf .positional "public " [⟨"home", "Home", [], .empty, true⟩,
    ⟨"call", "Call", [⟨none, "param0"⟩, ⟨some "to", "who"⟩], .empty, true⟩]

theorem dial_readable (type : String) (known : type ∈ ["Int", "Bool"]) :
    Readable (dialDeclaration type) .positional dialExtension := by
  simp only [List.mem_cons, List.not_mem_nil, or_false] at known
  rcases known with rfl | rfl
  all_goals
    exact
      { name := by decide +kernel
        cases := by decide +kernel
        labels := by decide +kernel
        names := by decide +kernel
        expands := by decide +kernel
        viewTypes := by decide +kernel
        argumentLabels := by decide +kernel }

theorem dial_file_shows_screens : ∃ text, fileText plainSettings dialExtension = .ok text ∧
    Readable (dialDeclaration "Int") .positional dialExtension ∧
    Readable (dialDeclaration "Bool") .positional dialExtension ∧
    LaidOut plainSettings (dialDeclaration "Int") .positional dialExtension text ∧
    ((dialDeclaration "Int").cases.map fun c => (c.name, c.parameters)) =
      (dialDeclaration "Bool").cases.map fun c => (c.name, c.parameters) := by
  have plain : plainSettings.Plain := ⟨by decide +kernel, by decide +kernel, by decide +kernel⟩
  obtain ⟨lays, shows⟩ := file_shows_screens plainSettings plain
  obtain ⟨text, made⟩ := ok_of_is_ok (fileText plainSettings dialExtension) (by decide +kernel)
  have first := dial_readable "Int" (by decide)
  have second := dial_readable "Bool" (by decide)
  exact ⟨text, made, first, second, lays _ _ _ text first made, (shows _ _ _ _ _ _ text first second made made).2.2.2.1⟩

end ScreenDispatch
