import ScreenDispatch.Proofs.Relayout
import ScreenDispatch.Proofs.TokenTiling

/-!
Scanning tokens again. The text from one token to another has the tokens between them, and tokens that are put on lines of
their own stay what they are.
-/
set_option autoImplicit false

namespace ScreenDispatch.Expr

open Text Token

theorem lexeme_line (c : Char) (xs ys : List Char) (ending : isBlank c → ∃ d ∈ xs, isBlank d = false) :
    (lexeme c (xs ++ '\n' :: ys)).2 ≤ xs.length := by
  cases found : (lexeme c (xs ++ '\n' :: ys)).1 with
  | none =>
      obtain ⟨d, inside, other⟩ := ending (blank_of_lexeme c _ found)
      rw [blank_lexeme c _ found]
      exact blank_run_ends xs _ d inside other
  | some kind =>
      have spelled := lexeme_spelled c (xs ++ '\n' :: ys)
      rw [found] at spelled
      by_contra far
      refine spelled.one_line (List.mem_cons_of_mem c (List.mem_of_getElem? (i := xs.length) ?_))
      rw [List.getElem?_take_of_lt (by omega), List.getElem?_append_right (Nat.le_refl _), Nat.sub_self]
      rfl

theorem lexemes_append_line (front back : String) (solid : SolidEnds front.toList)
    (first : ∀ c, back.toList.head? = some c → isBlank c = false) :
    lexemes (front ++ "\n" ++ back) = lexemes front ++ lexemes back := by
  have letters : (front ++ "\n" ++ back).toList = front.toList ++ (['\n'] ++ back.toList) := by
    rw [String.toList_append, String.toList_append, List.append_assoc]
    rfl
  obtain ⟨last, ending, other⟩ := solid.last
  have ends : Ends (['\n'] ++ back.toList) front.toList := by
    refine ends_of_fits _ (fun c xs => lexeme_line c xs back.toList) _ fun c same => ?_
    rw [ending] at same
    exact Option.some.inj same ▸ other
  have feed : ∀ c ∈ ['\n'], isBlank c := List.forall_mem_singleton.mpr (by decide)
  rw [lexemes, scan, letters, scan_ends 0 _ _ ends, scan_blanks _ ['\n'] back.toList feed first, Nat.add_assoc,
    scan_shifted, List.map_append, List.map_map]
  rfl

theorem lines_head (piece : String) (pieces : List String) (c : Char) (first : piece.toList.head? = some c) :
    (String.intercalate "\n" (piece :: pieces)).toList.head? = some c := by
  cases pieces with
  | nil => simpa using first
  | cons next others =>
      rw [String.intercalate_cons_cons, String.toList_append, String.toList_append, List.append_assoc,
        List.head?_append, first]
      rfl

theorem lexemes_of_lines (ts : List Token) (ends : ∀ t ∈ ts, SolidEnds t.value.toList)
    (alone : ∀ t ∈ ts, lexemes t.value = [(t.kind, t.value)]) :
    lexemes (String.intercalate "\n" (ts.map (·.value))) = ts.map fun t => (t.kind, t.value) := by
  induction ts with
  | nil =>
      rw [List.map_nil, String.intercalate_nil, lexemes, scan, String.toList_empty, scanFrom, List.map_nil]
  | cons t rest ih =>
      obtain ⟨ownEnds, otherEnds⟩ := List.forall_mem_cons.mp ends
      obtain ⟨own, others⟩ := List.forall_mem_cons.mp alone
      cases rest with
      | nil => rw [List.map_singleton, String.intercalate_singleton, own, List.map_singleton]
      | cons next more =>
          obtain ⟨c, first, solid⟩ := (otherEnds next List.mem_cons_self).first
          have later := ih otherEnds others
          rw [List.map_cons] at later
          rw [List.map_cons, List.map_cons, String.intercalate_cons_cons, lexemes_append_line _ _ ownEnds, own, later]
          · rfl
          · intro d same
            rw [lines_head _ _ c first] at same
            exact Option.some.inj same ▸ solid

theorem text_of_token (source : String) (t : Token) (present : t ∈ scan source) : textOf source.toList [t] = t.value :=
  ((scan_tiling source).slices t present).symm

theorem lexemes_of_token (source : String) (t : Token) (present : t ∈ scan source) :
    lexemes t.value = [(t.kind, t.value)] := by
  obtain ⟨before, after, whole⟩ := List.append_of_mem present
  have alone := lexemes_text_of source [t] ⟨before, after, by rw [whole, List.append_assoc]; rfl⟩
  rwa [text_of_token source t present] at alone

/-- The text from one token to another has the tokens of the source between them, when the places that it gives them are
moved by the place of the first one. The texts of all tokens, a line each, have the tokens of the source. -/
theorem scan_of_slices_and_lines (source : String) :
    (∀ i j first last, i ≤ j → (scan source)[i]? = some first → (scan source)[j]? = some last →
      (scan (String.ofList ((source.toList.take last.stop).drop first.start))).map (shifted first.start) =
        ((scan source).take (j + 1)).drop i) ∧
    lexemes (String.intercalate "\n" ((scan source).map (·.value))) = lexemes source := by
  constructor
  · intro i j first last order begins stops
    have early : i < (scan source).length := (List.getElem?_eq_some_iff.mp begins).1
    have whole : scanFrom 0 source.toList =
        (scan source).take i ++ ((scan source).take (j + 1)).drop i ++ (scan source).drop (j + 1) := by
      have front : (scan source).take i = ((scan source).take (j + 1)).take i := by
        rw [List.take_take, Nat.min_eq_left (by omega)]
      rw [front, List.take_append_drop, List.take_append_drop, scan]
    have head : (((scan source).take (j + 1)).drop i).head? = some first := by
      rw [List.head?_drop, List.getElem?_take_of_lt (by omega), begins]
    have ending : (((scan source).take (j + 1)).drop i).getLast? = some last := by
      rw [List.getLast?_drop, if_neg (by rw [List.length_take]; omega), List.getLast?_take, if_neg (Nat.succ_ne_zero j),
        Nat.add_sub_cancel, stops, Option.some_or]
    rw [scan, String.toList_ofList, ← scan_shifted, Nat.zero_add]
    exact scan_piece source.toList _ _ _ first last whole head ending
  · exact lexemes_of_lines (scan source) (scan_tiling source).ends (lexemes_of_token source)

theorem uneven_text_scanned_again :
    (scan unevenSource)[1]? = some ⟨.string, "\"b\"", 2, 5⟩ ∧ (scan unevenSource)[3]? = some ⟨.other, "\"", 8, 9⟩ ∧
    (scan (String.ofList ((unevenSource.toList.take 9).drop 2))).map (shifted 2) = ((scan unevenSource).take 4).drop 1 ∧
    lexemes "a\n\"b\"\n->\n\"\nc" = lexemes unevenSource := by
  have first : (scan unevenSource)[1]? = some ⟨.string, "\"b\"", 2, 5⟩ := by cbv
  have last : (scan unevenSource)[3]? = some ⟨.other, "\"", 8, 9⟩ := by cbv
  have joined : String.intercalate "\n" ((scan unevenSource).map (·.value)) = "a\n\"b\"\n->\n\"\nc" := by cbv
  obtain ⟨slices, lines⟩ := scan_of_slices_and_lines unevenSource
  rw [joined] at lines
  have slice := slices 1 3 _ _ (by decide) first last
  dsimp only [Nat.reduceAdd] at slice
  exact ⟨first, last, slice, lines⟩

end ScreenDispatch.Expr
