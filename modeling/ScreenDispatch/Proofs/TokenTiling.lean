import ScreenDispatch.Proofs.LexemeForms

/-!
The tokens of a text tile it. They follow each other without an overlap, each is the text at its place, and what no token
takes is white space.
-/
set_option autoImplicit false

namespace ScreenDispatch.Token

open Text

theorem scan_slice (pos : Nat) (cs : List Char) (t : Token) (present : t ∈ scanFrom pos cs) :
    t.value.toList = (cs.drop (t.start - pos)).take (t.stop - t.start) := by
  induction pos, cs using scan_induction with
  | empty pos =>
      rw [scanFrom] at present
      cases present
  | blank pos c rest blank ih =>
      rw [scan_from_blank _ _ _ blank] at present
      rw [← drop_lexeme c rest pos _ t.start (scan_bounds _ _ t present).1]
      exact ih present
  | token pos c rest kind found ih =>
      rw [scan_from_token _ _ _ kind found] at present
      obtain rfl | later := List.mem_cons.mp present
      · have size : pos + 1 + (lexeme c rest).2 - pos = (lexeme c rest).2 + 1 := by omega
        rw [String.toList_ofList, Nat.sub_self, List.drop_zero, size, List.take_succ_cons]
      · rw [← drop_lexeme c rest pos _ t.start (scan_bounds _ _ t later).1]
        exact ih later

theorem scan_order (pos : Nat) (cs : List Char) : (scanFrom pos cs).Pairwise (·.stop ≤ ·.start) := by
  induction pos, cs using scan_induction with
  | empty pos =>
      rw [scanFrom]
      exact .nil
  | blank pos c rest blank ih => rwa [scan_from_blank _ _ _ blank]
  | token pos c rest kind found ih =>
      rw [scan_from_token _ _ _ kind found]
      exact .cons (fun t later => (scan_bounds _ _ t later).1) ih

theorem get_of_lexeme (c : Char) (rest : List Char) (size i : Nat) (d : Char) (here : (c :: rest)[i]? = some d) :
    (i ≤ size ∧ d ∈ c :: rest.take size) ∨ ∃ j, i = size + 1 + j ∧ (rest.drop size)[j]? = some d := by
  by_cases inside : i ≤ size
  · refine .inl ⟨inside, List.mem_of_getElem? (i := i) ?_⟩
    rw [← List.take_succ_cons, List.getElem?_take_of_lt (Nat.lt_succ_of_le inside), here]
  · refine .inr ⟨i - (size + 1), by omega, ?_⟩
    rw [List.getElem?_drop, ← here, ← List.getElem?_cons_succ (a := c)]
    congr 1
    omega

theorem scan_gaps (pos : Nat) (cs : List Char) (i : Nat) (d : Char) (here : cs[i]? = some d)
    (outside : ∀ t ∈ scanFrom pos cs, pos + i < t.start ∨ t.stop ≤ pos + i) : isBlank d := by
  induction pos, cs using scan_induction generalizing i with
  | empty pos => cases here
  | blank pos c rest blank ih =>
      rw [scan_from_blank _ _ _ blank] at outside
      obtain ⟨_, inside⟩ | ⟨j, rfl, behind⟩ := get_of_lexeme c rest (lexeme c rest).2 i d here
      · have spelled := lexeme_spelled c rest
        rw [blank] at spelled
        cases spelled with
        | space cs filled blanks => exact blanks d inside
      · refine ih j behind fun t present => ?_
        have place := outside t present
        omega
  | token pos c rest kind found ih =>
      rw [scan_from_token _ _ _ kind found, List.forall_mem_cons] at outside
      obtain ⟨own, others⟩ := outside
      dsimp only at own
      obtain ⟨before, _⟩ | ⟨j, rfl, behind⟩ := get_of_lexeme c rest (lexeme c rest).2 i d here
      · omega
      · refine ih j behind fun t present => ?_
        have place := others t present
        omega

structure Tiling (source : String) (ts : List Token) : Prop where
  filled : ∀ t ∈ ts, t.start < t.stop ∧ t.stop ≤ source.length
  slices : ∀ t ∈ ts, t.value = String.ofList ((source.toList.take t.stop).drop t.start)
  order : ts.Pairwise (·.stop ≤ ·.start)
  gaps : ∀ i c, source.toList[i]? = some c → (∀ t ∈ ts, i < t.start ∨ t.stop ≤ i) → isBlank c
  ends : ∀ t ∈ ts, SolidEnds t.value.toList
  solid : ∀ t ∈ ts, t.kind ≠ .string → ∀ c ∈ t.value.toList, isBlank c = false
  strings : ∀ t ∈ ts, t.kind = .string → ∃ body, t.value.toList = '"' :: (body ++ ['"']) ∧ StringBody body

theorem scan_tiling (source : String) : Tiling source (scan source) := by
  have spelled (t : Token) (present : t ∈ scan source) := scan_spelled 0 source.toList t present
  have bounds (t : Token) (present : t ∈ scan source) := scan_bounds 0 source.toList t present
  refine ⟨fun t present => ?_, fun t present => ?_, scan_order 0 source.toList, fun i c here outside => ?_,
    fun t present => (spelled t present).solid_ends, fun t present other => (spelled t present).no_blank other,
    fun t present string => ?_⟩
  · rw [← String.length_toList]
    have place := bounds t present
    omega
  · have text := scan_slice 0 source.toList t present
    rw [Nat.sub_zero, ← List.drop_take] at text
    rw [← text, String.ofList_toList]
  · refine scan_gaps 0 source.toList i c here fun t present => ?_
    rw [Nat.zero_add]
    exact outside t present
  · have own := spelled t present
    rw [string] at own
    exact own.quoted

/-- At every place of a text a lexeme can be read, which has a character at least and ends in the text, and the tokens
that come of it tile the text. -/
theorem scan_tiles (source : String) :
    (∀ front c rest, source.toList = front ++ c :: rest →
      Spelled (lexeme c rest).1 (c :: rest.take (lexeme c rest).2) ∧ (lexeme c rest).2 ≤ rest.length) ∧
    Tiling source (scan source) :=
  ⟨fun _ c rest _ => ⟨lexeme_spelled c rest, lexeme_length c rest⟩, scan_tiling source⟩

def unevenSource : String := "a \"b\" ->\"c "

theorem uneven_text_tiled :
    scan unevenSource = [⟨.ident, "a", 0, 1⟩, ⟨.string, "\"b\"", 2, 5⟩, ⟨.arrow, "->", 6, 8⟩, ⟨.other, "\"", 8, 9⟩,
      ⟨.ident, "c", 9, 10⟩] ∧
    unevenSource.toList = "a \"b\" ->".toList ++ '"' :: ['c', ' '] ∧
    Spelled (lexeme '"' ['c', ' ']).1 ('"' :: ['c', ' '].take (lexeme '"' ['c', ' ']).2) ∧
    Tiling unevenSource (scan unevenSource) :=
  have text : unevenSource.toList = "a \"b\" ->".toList ++ '"' :: ['c', ' '] := by decide
  ⟨by decide +kernel, text, ((scan_tiles unevenSource).1 _ _ _ text).1, (scan_tiles unevenSource).2⟩

end ScreenDispatch.Token
