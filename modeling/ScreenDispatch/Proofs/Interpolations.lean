import ScreenDispatch.Proofs.LiteralNodes
import ScreenDispatch.Proofs.RescannedTokens

/-!
Where an interpolation begins. The search steps over an escape as over one sign, and so it finds the first backslash before a
parenthesis that has an even number of backslashes in front of it. A string literal is cut there.
-/
set_option autoImplicit false

namespace ScreenDispatch.Expr

open Token

def trailingBackslashes (cs : List Char) : Nat := (cs.reverse.takeWhile (· == '\\')).length

-- A backslash before a parenthesis; of the backslashes in front of it each escapes the next one.
structure InterpolatesAt (cs : List Char) (i : Nat) : Prop where
  backslash : cs[i]? = some '\\'
  parenthesis : cs[i + 1]? = some '('
  unescaped : Even (trailingBackslashes (cs.take i))

instance (cs : List Char) (i : Nat) : Decidable (InterpolatesAt cs i) :=
  decidable_of_iff (cs[i]? = some '\\' ∧ cs[i + 1]? = some '(' ∧ Even (trailingBackslashes (cs.take i)))
    ⟨fun ⟨backslash, parenthesis, unescaped⟩ => ⟨backslash, parenthesis, unescaped⟩,
      fun ⟨backslash, parenthesis, unescaped⟩ => ⟨backslash, parenthesis, unescaped⟩⟩

def FindsFirst (P : Nat → Prop) : Option Nat → Prop
  | none => ∀ i, ¬ P i
  | some i => IsLeast {i | P i} i

theorem FindsFirst.none_iff {P : Nat → Prop} {found : Option Nat} (first : FindsFirst P found) :
    found = none ↔ ∀ i, ¬ P i := by
  cases found with
  | none => exact iff_of_true rfl first
  | some i => exact iff_of_false nofun fun missing => missing i first.1

theorem FindsFirst.some_iff {P : Nat → Prop} {found : Option Nat} (first : FindsFirst P found) (i : Nat) :
    found = some i ↔ IsLeast {i | P i} i := by
  cases found with
  | none => exact iff_of_false nofun fun least => first i least.1
  | some k =>
      rw [Option.some.injEq]
      exact ⟨fun same => same ▸ first, first.unique⟩

theorem FindsFirst.behind {P Q : Nat → Prop} {found : Option Nat} (size : Nat) (front : ∀ i < size, ¬ Q i)
    (moved : ∀ i, Q (i + size) ↔ P i) (first : FindsFirst P found) : FindsFirst Q (found.map (· + size)) := by
  have later (i : Nat) (here : Q i) : ∃ j, i = j + size ∧ P j := by
    have bound : size ≤ i := Nat.le_of_not_lt fun early => front i early here
    obtain ⟨j, rfl⟩ := Nat.exists_eq_add_of_le' bound
    exact ⟨j, rfl, (moved j).mp here⟩
  cases found with
  | none =>
      intro i here
      obtain ⟨j, rfl, inside⟩ := later i here
      exact first j inside
  | some i =>
      refine ⟨(moved i).mpr first.1, fun k here => ?_⟩
      obtain ⟨j, rfl, inside⟩ := later k here
      exact Nat.add_le_add_right (first.2 inside) size

theorem trailing_at_most (cs : List Char) : trailingBackslashes cs ≤ cs.length := by
  rw [← List.length_reverse]
  exact (List.takeWhile_sublist _).length_le

theorem trailing_plain (c : Char) (cs : List Char) (plain : c ≠ '\\') :
    trailingBackslashes (c :: cs) = trailingBackslashes cs := by
  have own : [c].takeWhile (· == '\\') = [] := by simp [plain]
  rw [trailingBackslashes, List.reverse_cons, List.takeWhile_append, own, List.append_nil]
  split
  · rename_i all
    exact all.symm
  · rfl

theorem trailing_backslash (cs : List Char) :
    trailingBackslashes ('\\' :: cs) =
      if trailingBackslashes cs = cs.length then cs.length + 1 else trailingBackslashes cs := by
  rw [trailingBackslashes, List.reverse_cons, List.takeWhile_append, List.length_reverse]
  change List.length (if trailingBackslashes cs = cs.length then _ else _) = _
  split
  · rw [List.length_append, List.length_reverse]
    rfl
  · rfl

theorem trailing_escape (c : Char) (cs : List Char) :
    Even (trailingBackslashes ('\\' :: c :: cs)) ↔ Even (trailingBackslashes cs) := by
  have bound := trailing_at_most cs
  rw [trailing_backslash, List.length_cons]
  by_cases escaped : c = '\\'
  · subst escaped
    rw [trailing_backslash]
    by_cases all : trailingBackslashes cs = cs.length
    · rw [if_pos all, if_pos rfl, all, Nat.even_add_one, Nat.even_add_one, not_not]
    · rw [if_neg all, if_neg (by omega)]
  · rw [trailing_plain c cs escaped, if_neg (by omega)]

section Places

variable (cs : List Char) (i : Nat)

theorem interpolates_behind (front : List Char)
    (parity : ∀ cs, Even (trailingBackslashes (front ++ cs)) ↔ Even (trailingBackslashes cs)) :
    InterpolatesAt (front ++ cs) (i + front.length) ↔ InterpolatesAt cs i := by
  have behind (k : Nat) : (front ++ cs)[k + front.length]? = cs[k]? := by
    rw [List.getElem?_append_right (Nat.le_add_left _ _), Nat.add_sub_cancel]
  have next : i + front.length + 1 = i + 1 + front.length := Nat.add_right_comm _ _ _
  have begins : (front ++ cs).take (i + front.length) = front ++ cs.take i := by
    rw [Nat.add_comm, List.take_length_add_append]
  constructor
  · rintro ⟨backslash, parenthesis, unescaped⟩
    rw [behind] at backslash
    rw [next, behind] at parenthesis
    rw [begins, parity] at unescaped
    exact ⟨backslash, parenthesis, unescaped⟩
  · rintro ⟨backslash, parenthesis, unescaped⟩
    refine ⟨?_, ?_, ?_⟩
    · rw [behind, backslash]
    · rw [next, behind, parenthesis]
    · rwa [begins, parity]

theorem not_interpolates_escaped : ¬ InterpolatesAt ('\\' :: cs) 1 := by
  rintro ⟨-, -, unescaped⟩
  change Even (trailingBackslashes ['\\']) at unescaped
  exact absurd unescaped (by decide)

theorem interpolates_front : InterpolatesAt ('\\' :: '(' :: cs) 0 := ⟨rfl, rfl, ⟨0, rfl⟩⟩

theorem interpolates_taken (j : Nat) : InterpolatesAt (cs.take i) j ↔ InterpolatesAt cs j ∧ j + 1 < i := by
  constructor
  · rintro ⟨backslash, parenthesis, unescaped⟩
    rw [List.getElem?_take, Option.ite_none_right_eq_some] at parenthesis
    obtain ⟨inside, ending⟩ := parenthesis
    rw [List.getElem?_take_of_lt (by omega)] at backslash
    rw [List.take_take, Nat.min_eq_left (by omega)] at unescaped
    exact ⟨⟨backslash, ending, unescaped⟩, inside⟩
  · rintro ⟨⟨backslash, parenthesis, unescaped⟩, inside⟩
    refine ⟨?_, ?_, ?_⟩
    · rw [List.getElem?_take_of_lt (by omega), backslash]
    · rw [List.getElem?_take_of_lt inside, parenthesis]
    · rwa [List.take_take, Nat.min_eq_left (by omega)]

end Places

theorem interpolation_start_first (cs : List Char) : FindsFirst (InterpolatesAt cs) (interpolationStart cs) := by
  induction cs using interpolationStart.induct with
  | case1 => exact fun i ⟨backslash, _, _⟩ => by cases backslash
  | case2 => exact fun i ⟨_, parenthesis, _⟩ => by cases parenthesis
  | case3 rest =>
      rw [interpolationStart, if_pos rfl]
      exact ⟨interpolates_front rest, fun i _ => Nat.zero_le i⟩
  | case4 c rest other ih =>
      rw [interpolationStart, if_neg other]
      refine ih.behind 2 (fun i early => ?_) fun i => interpolates_behind rest i ['\\', c] (trailing_escape c)
      obtain rfl | rfl : i = 0 ∨ i = 1 := by omega
      · rintro ⟨-, parenthesis, -⟩
        exact other (Option.some.inj parenthesis)
      · exact not_interpolates_escaped (c :: rest)
  | case5 c rest single escape ih =>
      have plain : c ≠ '\\' := by
        rintro rfl
        cases rest with
        | nil => exact single rfl rfl
        | cons d more => exact escape d more rfl rfl
      rw [interpolationStart]
      · refine ih.behind 1 (fun i early => ?_) fun i => ?_
        · obtain rfl : i = 0 := by omega
          rintro ⟨backslash, -, -⟩
          exact plain (Option.some.inj backslash)
        · exact interpolates_behind rest i [c] fun cs => by rw [List.singleton_append, trailing_plain c cs plain]
      · exact single
      · exact escape

structure CutAtInterpolation (value : String) : Prop where
  marked : isInterpolated value = true ↔ ∃ i, InterpolatesAt value.toList i
  whole : (∀ i, ¬ InterpolatesAt value.toList i) → leadingSegment value = some value
  opening : InterpolatesAt value.toList 0 → leadingSegment value = none
  front : ∀ i, 0 < i → IsLeast {i | InterpolatesAt value.toList i} i →
    ∃ segment, leadingSegment value = some segment ∧ segment.toList = value.toList.take i ∧
      ∀ j, ¬ InterpolatesAt segment.toList j

theorem cut_at_interpolation (value : String) : CutAtInterpolation value := by
  have first := interpolation_start_first value.toList
  refine ⟨?_, fun missing => ?_, fun here => ?_, fun i behind least => ?_⟩
  · rw [isInterpolated, Option.isSome_iff_ne_none, ne_eq, first.none_iff, not_forall_not]
  · rw [leadingSegment, first.none_iff.mpr missing]
  · rw [leadingSegment, (first.some_iff 0).mpr ⟨here, fun i _ => Nat.zero_le i⟩]
  · obtain ⟨n, rfl⟩ := Nat.exists_eq_succ_of_ne_zero (Nat.ne_zero_of_lt behind)
    rw [leadingSegment, (first.some_iff (n + 1)).mpr least]
    refine ⟨_, rfl, String.toList_ofList, fun j here => ?_⟩
    rw [String.toList_ofList, interpolates_taken] at here
    have later := least.2 here.1
    omega

theorem literal_quoted (source : String) (t : Token) (present : t ∈ scan source) (literal : t.kind = .string) :
    t.value = "\"" ++ contents t.value ++ "\"" := by
  obtain ⟨body, text, -⟩ := (scan_tiling source).strings t present literal
  have inner : contents t.value = String.ofList body := by rw [contents, text, List.tail_cons, List.dropLast_concat]
  rw [← String.toList_inj, inner, text]
  simp

structure LiteralOf (t : Token) (value : String) : Prop where
  kind : t.kind = .string
  quoted : t.value = "\"" ++ value ++ "\""
  cut : CutAtInterpolation value

theorem literal_of_token (source : String) (t : Token) (present : t ∈ scan source) (literal : t.kind = .string) :
    LiteralOf t (contents t.value) :=
  ⟨literal, literal_quoted source t present literal, cut_at_interpolation _⟩

/-- The search for an interpolation finds the first backslash before a parenthesis that has an even number of backslashes in
front of it, or nothing if there is none. A string token is read to the text between its quotes, every string in what is read
is such a token, and its text is cut where the search ends. -/
theorem literals_cut_at_interpolation (source : String) :
    (∀ cs, FindsFirst (InterpolatesAt cs) (interpolationStart cs)) ∧
    (∀ t ∈ scan source, t.kind = .string →
      ∃ value, LiteralOf t value ∧ ∀ rest, reads .primary (t :: rest) = some (.string [t] value, rest)) ∧
    ∀ e, read source = .ok e → ∀ text value, .string text value ∈ e.nodes →
      ∃ t ∈ scan source, text = t.value ∧ LiteralOf t value := by
  refine ⟨interpolation_start_first, fun t present literal => ?_, fun e accepted text value inside => ?_⟩
  · exact ⟨_, literal_of_token source t present literal, string_primary t literal⟩
  · obtain ⟨tree, parsed, rfl⟩ := (read_ok_iff source e).mp accepted
    rw [nodes_map] at inside
    obtain ⟨n, below, same⟩ := List.mem_map.mp inside
    obtain ⟨own, rfl, rfl⟩ := string_of_map _ n text value same
    obtain ⟨t, present, literal, rfl, rfl⟩ := literal_token (scan source) tree parsed own value below
    exact ⟨t, present, text_of_token source t present, literal_of_token source t present literal⟩

def escapedSource : String := "[\"a\\\\(b)\\(c)\": \"\\(d)\"]"

def escapedKey : Token := ⟨.string, "\"a\\\\(b)\\(c)\"", 1, 13⟩

def escapedTree : Expr String :=
  .dictionary escapedSource [(.string escapedKey.value "a\\\\(b)\\(c)", .string "\"\\(d)\"" "\\(d)")]

theorem escaped_literals_cut :
    escapedKey ∈ scan escapedSource ∧ read escapedSource = .ok escapedTree ∧
    FindsFirst (InterpolatesAt "a\\\\(b)\\(c)".toList) (some 6) ∧
    (∃ value, LiteralOf escapedKey value ∧
      ∀ rest, reads .primary (escapedKey :: rest) = some (.string [escapedKey] value, rest)) ∧
    (∃ t ∈ scan escapedSource, "\"\\(d)\"" = t.value ∧ LiteralOf t "\\(d)") ∧ leadingSegment "\\(d)" = none := by
  have tokens : scan escapedSource =
      [⟨.punct, "[", 0, 1⟩, escapedKey, ⟨.punct, ":", 13, 14⟩, ⟨.string, "\"\\(d)\"", 15, 21⟩, ⟨.punct, "]", 21, 22⟩] := by
    cbv
  have present : escapedKey ∈ scan escapedSource := by simp [tokens]
  have accepted : read escapedSource = .ok escapedTree := by cbv
  have found : interpolationStart "a\\\\(b)\\(c)".toList = some 6 := by decide
  have inside : .string "\"\\(d)\"" "\\(d)" ∈ escapedTree.nodes := by simp [escapedTree, nodes, inner, innerEntries]
  obtain ⟨search, keys, values⟩ := literals_cut_at_interpolation escapedSource
  have first := search "a\\\\(b)\\(c)".toList
  rw [found] at first
  obtain ⟨t, among, same, literal⟩ := values escapedTree accepted _ _ inside
  exact ⟨present, accepted, first, keys escapedKey present rfl, ⟨t, among, same, literal⟩,
    literal.cut.opening (by decide)⟩

end ScreenDispatch.Expr
