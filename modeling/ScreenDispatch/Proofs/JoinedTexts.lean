import ScreenDispatch.Text.Identifier

/-!
Lines of a text. What is joined from lines falls into the same lines, exactly if there is no line feed in one of them.
-/
set_option autoImplicit false

namespace ScreenDispatch.Text

def lines (text : String) : List String := (text.toList.splitOn '\n').map String.ofList

def OneLine (text : String) : Prop := '\n' ∉ text.toList

instance (text : String) : Decidable (OneLine text) := inferInstanceAs (Decidable ('\n' ∉ text.toList))

theorem one_line_append (front back : String) : OneLine (front ++ back) ↔ OneLine front ∧ OneLine back := by
  rw [OneLine, String.toList_append, List.mem_append, not_or]
  rfl

theorem one_line_intercalate (separator : String) (plain : OneLine separator) (pieces : List String) :
    OneLine (String.intercalate separator pieces) ↔ ∀ piece ∈ pieces, OneLine piece := by
  induction pieces with
  | nil => exact iff_of_true List.not_mem_nil nofun
  | cons piece rest ih =>
      cases rest with
      | nil => simp
      | cons next others =>
          rw [String.intercalate_cons_cons, one_line_append, one_line_append, ih, List.forall_mem_cons (a := piece)]
          simp only [plain, and_true]

theorem identifier_chars (cs : List Char) (identifier : isIdentifier cs = true) : cs.all isIdentifierChar = true := by
  cases cs with
  | nil => rfl
  | cons c rest =>
      rw [isIdentifier, Bool.and_eq_true] at identifier
      rw [List.all_cons, isIdentifierChar, identifier.1, identifier.2]
      rfl

theorem no_word_char (cs : List Char) (mark : Char) (plain : isIdentifierChar mark = false)
    (identifier : isIdentifier cs = true) : mark ∉ cs := by
  intro member
  have word := List.all_eq_true.mp (identifier_chars cs identifier) mark member
  rw [plain] at word
  cases word

theorem identifier_filled (text : String) (identifier : isIdentifier text.toList = true) : text ≠ "" := by
  rintro rfl
  cases identifier

theorem identifier_one_line (text : String) (identifier : isIdentifier text.toList = true) : OneLine text :=
  no_word_char text.toList '\n' (by decide) identifier

theorem lines_append (front back : String) : lines (front ++ "\n" ++ back) = lines front ++ lines back := by
  have split : (front ++ "\n" ++ back).toList = front.toList ++ '\n' :: back.toList := by
    simp [String.toList_append]
  rw [lines, split, List.splitOn_append_cons_self, List.map_append]
  rfl

theorem lines_ended (text : String) : lines (text ++ "\n") = lines text ++ [""] := by
  have more := lines_append text ""
  rwa [String.append_empty] at more

theorem lines_joined (pieces : List String) (some : pieces ≠ []) :
    lines (String.intercalate "\n" pieces) = pieces.flatMap lines := by
  induction pieces with
  | nil => contradiction
  | cons piece rest ih =>
      cases rest with
      | nil => simp
      | cons next others =>
          rw [String.intercalate_cons_cons, lines_append, ih (List.cons_ne_nil _ _), List.flatMap_cons (x := piece)]

theorem lines_of_one (text : String) (plain : OneLine text) : lines text = [text] := by
  rw [lines, List.splitOn_eq_singleton plain, List.map_singleton, String.ofList_toList]

theorem lines_exist (text : String) : 1 ≤ (lines text).length := by
  rw [lines, List.length_map]
  exact List.length_pos_iff.mpr (List.splitOn_ne_nil _ _)

theorem one_line_of_length (text : String) (length : (lines text).length ≤ 1) : OneLine text := by
  intro feed
  obtain ⟨front, back, letters⟩ := List.append_of_mem feed
  rw [lines, letters, List.splitOn_append_cons_self, List.length_map, List.length_append] at length
  have first := List.length_pos_iff.mpr (List.splitOn_ne_nil '\n' front)
  have second := List.length_pos_iff.mpr (List.splitOn_ne_nil '\n' back)
  omega

theorem lines_at_least (pieces : List String) : pieces.length ≤ (pieces.flatMap lines).length := by
  induction pieces with
  | nil => exact Nat.le_refl 0
  | cons piece rest ih =>
      have first := lines_exist piece
      rw [List.flatMap_cons, List.length_append, List.length_cons]
      omega

theorem all_one_line (pieces : List String) (fits : (pieces.flatMap lines).length ≤ pieces.length) :
    ∀ piece ∈ pieces, OneLine piece := by
  induction pieces with
  | nil => exact nofun
  | cons piece rest ih =>
      have first := lines_exist piece
      have others := lines_at_least rest
      rw [List.flatMap_cons, List.length_append, List.length_cons] at fits
      exact List.forall_mem_cons.mpr ⟨one_line_of_length piece (by omega), ih (by omega)⟩

theorem lines_kept_iff (pieces : List String) : pieces.flatMap lines = pieces ↔ ∀ piece ∈ pieces, OneLine piece := by
  constructor
  · intro kept
    exact all_one_line pieces (Nat.le_of_eq (congrArg List.length kept))
  · intro plain
    induction pieces with
    | nil => rfl
    | cons piece rest ih =>
        obtain ⟨first, others⟩ := List.forall_mem_cons.mp plain
        rw [List.flatMap_cons, lines_of_one piece first, ih others, List.singleton_append]

end ScreenDispatch.Text
