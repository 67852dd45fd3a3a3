import ScreenDispatch.Proofs.FileLines
import ScreenDispatch.Proofs.FileRequests
import ScreenDispatch.Run

/-!
Names that have passed the checks of a request. They are identifiers, but for a line feed that may stand behind one: the
checks overlook it, and it takes the name of a module to the next line.
-/
set_option autoImplicit false

namespace ScreenDispatch

open Text (OneLine isIdentifier isIdentifierLine)

def Digit (c : Char) : Prop := '0' ≤ c ∧ c ≤ '9'

def Letter (c : Char) : Prop := ('a' ≤ c ∧ c ≤ 'z') ∨ ('A' ≤ c ∧ c ≤ 'Z')

structure PlainName (name : String) : Prop where
  filled : name ≠ ""
  word : ∀ c ∈ name.toList, Letter c ∨ Digit c ∨ c = '_'
  front : ∀ c, name.toList.head? = some c → ¬ Digit c

def PassingName (name : String) : Prop := ∃ word, PlainName word ∧ (name = word ∨ name = word ++ "\n")

def Config.names : Config → List String
  | .generate c => c.declarations ++ c.imports
  | .discover c => c.inquiry.declaration?.toList

structure ImportsTold (c : GenerateConfig) : Prop where
  block : importLines c.imports = .ok (c.imports.map ("import " ++ ·))
  each : ∀ name ∈ c.imports, ∃ word, PlainName word ∧
    ((name = word ∧ Text.lines ("import " ++ name) = ["import " ++ word]) ∨
      (name = word ++ "\n" ∧ Text.lines ("import " ++ name) = ["import " ++ word, ""]))
  kept : (c.imports.map ("import " ++ ·)).flatMap Text.lines = c.imports.map ("import " ++ ·) ↔
    ∀ name ∈ c.imports, PlainName name
  file : ∀ schema x text, fileText (c.settings schema) x = .ok text →
    ∃ header, headerLines (c.settings schema) x.typeName = .ok header ∧
      Text.lines text = header.flatMap Text.lines ++ (importPart c.imports).flatMap Text.lines ++
        "" :: Text.lines x.source ++ [""]

theorem identifier_start_iff (c : Char) : Text.isIdentifierStart c = true ↔ Letter c ∨ c = '_' := by
  simp [Text.isIdentifierStart, Text.isAsciiLetter, Letter]

theorem identifier_char_iff (c : Char) : Text.isIdentifierChar c = true ↔ Letter c ∨ Digit c ∨ c = '_' := by
  rw [Text.isIdentifierChar, Bool.or_eq_true, identifier_start_iff]
  simp only [Digit, Bool.and_eq_true, decide_eq_true_eq]
  tauto

theorem start_no_digit (c : Char) (start : Letter c ∨ c = '_') : ¬ Digit c := by
  rintro ⟨-, low⟩
  obtain (⟨high, -⟩ | ⟨high, -⟩) | rfl := start
  · exact absurd (Char.le_trans high low) (by decide)
  · exact absurd (Char.le_trans high low) (by decide)
  · exact absurd low (by decide)

theorem plain_name_iff (name : String) : isIdentifier name.toList = true ↔ PlainName name := by
  cases letters : name.toList with
  | nil =>
      refine iff_of_false nofun fun plain => plain.filled ?_
      rwa [← String.toList_eq_nil_iff]
  | cons c rest =>
      rw [isIdentifier, Bool.and_eq_true, List.all_eq_true, identifier_start_iff]
      simp only [identifier_char_iff]
      constructor
      · rintro ⟨start, others⟩
        refine ⟨?_, ?_, ?_⟩
        · rintro rfl
          cases letters
        · rw [letters, List.forall_mem_cons]
          exact ⟨start.imp_right .inr, others⟩
        · rw [letters]
          rintro _ ⟨⟩
          exact start_no_digit c start
      · rintro ⟨-, word, front⟩
        rw [letters] at word front
        obtain ⟨first, others⟩ := List.forall_mem_cons.mp word
        exact ⟨first.imp_right (·.resolve_left (front c rfl)), others⟩

theorem passing_name_iff (name : String) : isIdentifierLine name.toList = true ↔ PassingName name := by
  rw [isIdentifierLine, Bool.or_eq_true, Bool.and_eq_true, beq_iff_eq]
  constructor
  · rintro (identifier | ⟨feed, identifier⟩)
    · exact ⟨name, (plain_name_iff name).mp identifier, .inl rfl⟩
    · obtain ⟨front, letters⟩ := List.getLast?_eq_some_iff.mp feed
      rw [letters, List.dropLast_concat] at identifier
      refine ⟨String.ofList front, (plain_name_iff _).mp (by rwa [String.toList_ofList]), .inr ?_⟩
      rw [← String.toList_inj, letters, String.toList_append, String.toList_ofList]
      rfl
  · rintro ⟨word, plain, rfl | rfl⟩
    · exact .inl ((plain_name_iff name).mpr plain)
    · right
      simpa [String.toList_append] using (plain_name_iff word).mpr plain

theorem plain_iff_one_line (name : String) (passing : PassingName name) : PlainName name ↔ OneLine name := by
  constructor
  · intro plain
    exact Text.identifier_one_line name ((plain_name_iff name).mpr plain)
  · intro single
    obtain ⟨word, plain, rfl | rfl⟩ := passing
    · exact plain
    · rw [Text.one_line_append] at single
      exact absurd single.2 (by decide)

theorem passing_filled (name : String) (passing : PassingName name) : name ≠ "" := by
  obtain ⟨word, plain, rfl | rfl⟩ := passing
  · exact plain.filled
  · exact fun empty => plain.filled (String.append_eq_empty_iff.mp empty).1

theorem import_lines_of_passing (name : String) (passing : PassingName name) :
    ∃ word, PlainName word ∧
      ((name = word ∧ Text.lines ("import " ++ name) = ["import " ++ word]) ∨
        (name = word ++ "\n" ∧ Text.lines ("import " ++ name) = ["import " ++ word, ""])) := by
  obtain ⟨word, plain, form⟩ := passing
  have line : Text.lines ("import " ++ word) = ["import " ++ word] := by
    apply Text.lines_of_one
    rw [Text.one_line_append]
    exact ⟨by decide, Text.identifier_one_line word ((plain_name_iff word).mpr plain)⟩
  refine ⟨word, plain, form.imp (fun same => ⟨same, same ▸ line⟩) fun fed => ⟨fed, ?_⟩⟩
  rw [fed, ← String.append_assoc, Text.lines_ended, line, List.singleton_append]

theorem request_names_pass (s : FileStore) (r : Request) (config : Config) (asked : r.config s = .ok config) :
    ∀ name ∈ config.names, PassingName name := by
  intro name member
  rw [← passing_name_iff]
  cases config with
  | generate c =>
      obtain ⟨names, all⟩ := (config_generate_iff s r c).mp asked
      obtain declared | imported := List.mem_append.mp member
      · rw [all.declarations, Text.mem_ordered] at declared
        exact all.identifiers name declared
      · obtain ⟨-, defaults⟩ | ⟨-, lines⟩ := (chosen_imports_ok_iff _ _).mp all.imports
        · have known : ∀ name ∈ defaultImports, isIdentifierLine name.toList = true := by decide
          exact known name (defaults ▸ imported)
        · exact lines name imported
  | discover c =>
      obtain ⟨-, lines⟩ := inquiry_ok r c.inquiry (discovery_as_asked s r c asked).inquiry
      exact lines name (Option.mem_toList.mp member)

theorem imports_told (c : GenerateConfig) (passing : ∀ name ∈ c.imports, PassingName name) : ImportsTold c := by
  refine ⟨?_, fun name member => import_lines_of_passing name (passing name member), ?_,
    fun schema x text made => file_lines (c.settings schema) x text made⟩
  · rw [importLines, if_neg]
    exact fun empty => passing_filled "" (passing "" (List.contains_iff_mem.mp empty)) rfl
  · have front : OneLine "import " := by decide
    rw [Text.lines_kept_iff, List.forall_mem_map]
    refine forall₂_congr fun name member => ?_
    rw [Text.one_line_append, plain_iff_one_line name (passing name member)]
    exact and_iff_right front

/-- The names of a configuration are identifiers, with or without a line feed behind them, and those without are
identifiers. A module is imported in a line of its own exactly if there is no line feed. -/
theorem configured_names_pass (s : FileStore) (r : Request) (config : Config) (asked : r.config s = .ok config) :
    (∀ name ∈ config.names, PassingName name) ∧
      ((∀ name ∈ config.names, PlainName name) ↔ ∀ name ∈ config.names, OneLine name) ∧
      ∀ c, config = .generate c → ImportsTold c := by
  have passing := request_names_pass s r config asked
  refine ⟨passing, forall₂_congr fun name member => plain_iff_one_line name (passing name member), ?_⟩
  rintro c rfl
  exact imports_told c fun name member => passing name (List.mem_append_right _ member)

def schemaStore : FileStore := ⟨[], [(["s.xml"], .file "")], List.not_mem_nil⟩

def importingRequest (modules : List String) : Request :=
  ⟨.given ⟨0, ["s.xml"]⟩, .given ⟨0, ["out"]⟩, .list [.text "Home", .list [.text "A_1"]],
    .list (modules.map .text), .null, false, .null, .null⟩

theorem plain_modules_pass :
    ∃ c, (importingRequest ["SwiftUI"]).config schemaStore = .ok (.generate c) ∧ c.declarations = ["A_1", "Home"] ∧
      c.imports = ["SwiftUI"] ∧ (∀ name ∈ (Config.generate c).names, PlainName name) ∧ ImportsTold c := by
  have asked : (importingRequest ["SwiftUI"]).config schemaStore =
      .ok (.generate ⟨⟨0, ["s.xml"]⟩, .given ⟨0, ["out"]⟩, ["A_1", "Home"], ["SwiftUI"], .positional⟩) := by cbv
  obtain ⟨-, plain, told⟩ := configured_names_pass _ _ _ asked
  exact ⟨_, asked, rfl, rfl, plain.mpr (by decide), told _ rfl⟩

theorem broken_module_passes :
    ∃ c, (importingRequest ["SwiftUI\n"]).config schemaStore = .ok (.generate c) ∧ c.imports = ["SwiftUI\n"] ∧
      ¬ PlainName "SwiftUI\n" ∧ (c.imports.map ("import " ++ ·)).flatMap Text.lines = ["import SwiftUI", ""] := by
  have asked : (importingRequest ["SwiftUI\n"]).config schemaStore =
      .ok (.generate ⟨⟨0, ["s.xml"]⟩, .given ⟨0, ["out"]⟩, ["A_1", "Home"], ["SwiftUI\n"], .positional⟩) := by cbv
  refine ⟨_, asked, rfl, fun plain => ?_, by decide⟩
  have broken := (plain_name_iff _).mpr plain
  revert broken
  decide

end ScreenDispatch
