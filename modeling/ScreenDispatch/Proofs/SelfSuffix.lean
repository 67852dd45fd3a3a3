import ScreenDispatch.Proofs.LexemeBoundary

/-!
The `.self` at the end of a text. What is cut off as characters is exactly two tokens behind the tokens of
what is left.
-/
set_option autoImplicit false

namespace ScreenDispatch.Expr

open Text Token

-- The text is `base`, which does not end in white space, then a dot and `self` with white space around
-- the dot and at most a line feed at the end.
structure SelfSuffixed (text base : List Char) : Prop where
  nonempty : base ≠ []
  solid : Solid base
  whole : ∃ gap space line, text = base ++ (gap ++ '.' :: (space ++ 's' :: 'e' :: 'l' :: 'f' :: line)) ∧
    (∀ c ∈ gap, isBlank c) ∧ (∀ c ∈ space, isBlank c) ∧ (line = [] ∨ line = ['\n'])

theorem before_self_iff (cs base : List Char) :
    beforeSelf? cs = some base ↔ ∃ space gap, cs = 'f' :: 'l' :: 'e' :: 's' :: (space ++ '.' :: (gap ++ base)) ∧
      (∀ c ∈ space, isBlank c) ∧ (∀ c ∈ gap, isBlank c) ∧ base ≠ [] ∧ ∀ c, base.head? = some c → isBlank c = false := by
  have blanks (xs : List Char) : ∀ c ∈ xs.takeWhile isBlank, isBlank c := by
    rw [← List.all_eq_true]
    exact List.all_takeWhile
  constructor
  · intro found
    unfold beforeSelf? at found
    split at found
    · rename_i rest
      split at found
      · rename_i before dot
        simp only [Option.ite_none_left_eq_some, Option.some.injEq, List.isEmpty_iff] at found
        obtain ⟨nonempty, rfl⟩ := found
        refine ⟨rest.takeWhile isBlank, before.takeWhile isBlank, ?_, blanks _, blanks _, nonempty, fun c first => ?_⟩
        · rw [List.takeWhile_append_dropWhile, ← dot, List.takeWhile_append_dropWhile]
        · have other := List.head?_dropWhile_not isBlank before
          rw [first] at other
          exact other
      · cases found
    · cases found
  · rintro ⟨space, gap, rfl, blankSpace, blankGap, nonempty, first⟩
    have solid : (gap ++ base).dropWhile isBlank = base := by
      rw [List.dropWhile_append_of_pos blankGap, drop_no_blank base first]
    have dotted : (space ++ '.' :: (gap ++ base)).dropWhile isBlank = '.' :: (gap ++ base) := by
      rw [List.dropWhile_append_of_pos blankSpace, List.dropWhile_cons_of_neg (by decide)]
    rw [beforeSelf?, dotted]
    change (if ((gap ++ base).dropWhile isBlank).isEmpty then none else some ((gap ++ base).dropWhile isBlank)) = _
    rw [solid, if_neg (by simpa using nonempty)]

theorem drop_line_feed_iff (cs rest : List Char) (c : Char) (plain : c ≠ '\n') :
    dropLineFeed cs = c :: rest ↔ cs = c :: rest ∨ cs = '\n' :: c :: rest := by
  unfold dropLineFeed
  split
  · rename_i more
    constructor
    · rintro rfl
      exact .inr rfl
    · rintro (same | same)
      · cases same
        exact absurd rfl plain
      · exact (List.cons_eq_cons.mp same).2
  · rename_i other
    constructor
    · exact .inl
    · rintro (same | same)
      · exact same
      · exact absurd same (other _)

theorem self_base_iff (text base : List Char) : selfBase? text = some base ↔ SelfSuffixed text base := by
  have turned (xs ys : List Char) : xs = ys.reverse ↔ xs.reverse = ys := by
    constructor
    · rintro rfl
      exact List.reverse_reverse ys
    · rintro rfl
      exact (List.reverse_reverse xs).symm
  -- The cut works on the reversed text, where the line feed comes first.
  rw [selfBase?, Option.map_eq_some_iff]
  constructor
  · rintro ⟨rev, found, rfl⟩
    obtain ⟨space, gap, whole, blankSpace, blankGap, nonempty, first⟩ := (before_self_iff _ _).mp found
    refine ⟨by simpa using nonempty, fun c last => first c (by simpa using last), gap.reverse, space.reverse, ?_⟩
    rw [drop_line_feed_iff _ _ _ (by decide), ← turned, ← turned] at whole
    obtain same | same := whole
    · refine ⟨[], ?_, by simpa using blankGap, by simpa using blankSpace, .inl rfl⟩
      rw [same]
      simp
    · refine ⟨['\n'], ?_, by simpa using blankGap, by simpa using blankSpace, .inr rfl⟩
      rw [same]
      simp
  · rintro ⟨nonempty, solid, gap, space, line, rfl, blankGap, blankSpace, ending⟩
    refine ⟨base.reverse, (before_self_iff _ _).mpr ⟨space.reverse, gap.reverse, ?_, by simpa using blankSpace,
      by simpa using blankGap, by simpa using nonempty, fun c first => solid c (by simpa using first)⟩,
      List.reverse_reverse base⟩
    rw [drop_line_feed_iff _ _ _ (by decide)]
    obtain rfl | rfl := ending
    · exact .inl (by simp)
    · exact .inr (by simp)

theorem scan_blanks (pos : Nat) (blanks rest : List Char) (all : ∀ c ∈ blanks, isBlank c)
    (behind : ∀ c, rest.head? = some c → isBlank c = false) :
    scanFrom pos (blanks ++ rest) = scanFrom (pos + blanks.length) rest := by
  cases blanks with
  | nil => rfl
  | cons c more =>
      obtain ⟨first, others⟩ := List.forall_mem_cons.mp all
      have lexed : lexeme c (more ++ rest) = (none, more.length) := by
        rw [lexeme, if_pos first, take_while_all isBlank more rest (List.all_eq_true.mpr others) behind]
      rw [List.cons_append, scan_from_blank _ _ _ (by rw [lexed]), lexed, List.drop_left', List.length_cons]
      · congr 1
        omega
      · rfl

theorem self_lexeme (line : List Char) (ending : line = [] ∨ line = ['\n']) :
    lexeme 's' ('e' :: 'l' :: 'f' :: line) = (some .ident, 3) := by
  obtain rfl | rfl := ending
  · decide
  · decide

theorem self_apart (gap space line : List Char) (blankGap : ∀ c ∈ gap, isBlank c)
    (blankSpace : ∀ c ∈ space, isBlank c) (blankLine : ∀ c ∈ line, isBlank c) :
    Apart (gap ++ '.' :: (space ++ 's' :: 'e' :: 'l' :: 'f' :: line)) := by
  have missing (mark : Char) (solid : isBlank mark = false) (other : mark ∉ ['.', 's', 'e', 'l', 'f']) :
      mark ∉ gap ++ '.' :: (space ++ 's' :: 'e' :: 'l' :: 'f' :: line) := by
    have outside (cs : List Char) (blank : ∀ c ∈ cs, isBlank c) : mark ∉ cs := fun inside => by
      rw [blank mark inside] at solid
      cases solid
    simp only [List.mem_cons, List.not_mem_nil, or_false, not_or] at other
    simp [outside gap blankGap, outside space blankSpace, outside line blankLine, other]
  refine ⟨?_, fun d rest same => ?_, missing _ (by decide) (by decide), missing _ (by decide) (by decide)⟩
  · cases gap with
    | nil => exact ⟨'.', _, rfl, by decide⟩
    | cons c more => exact ⟨c, _, rfl, by simp [parts, blankGap c List.mem_cons_self]⟩
  · cases gap with
    | nil =>
        cases space with
        | nil =>
            cases same
            decide
        | cons c more =>
            cases same
            exact parts_no_digit d (by simp [parts, blankSpace d List.mem_cons_self])
    | cons c more =>
        have blank := blankGap c List.mem_cons_self
        rw [(List.cons_eq_cons.mp same).1] at blank
        exact absurd blank (by decide)

structure SelfTokens (dot name : Token) : Prop where
  dotKind : dot.kind = .punct
  dotValue : dot.value = "."
  nameKind : name.kind = .ident
  nameValue : name.value = "self"

theorem scan_self_suffixed (text base : List Char) (suffixed : SelfSuffixed text base) :
    ∃ dot name, SelfTokens dot name ∧ scanFrom 0 text = scanFrom 0 base ++ [dot, name] := by
  obtain ⟨_, solid, gap, space, line, rfl, blankGap, blankSpace, ending⟩ := suffixed
  have blankLine : ∀ c ∈ line, isBlank c := by
    obtain rfl | rfl := ending
    · nofun
    · intro c inside
      rw [List.mem_singleton.mp inside]
      decide
  have apart := self_apart gap space line blankGap blankSpace blankLine
  -- Scan the base, the gap, the dot, the space, the name and the line feed.
  rw [scan_apart 0 base _ solid apart, scan_blanks _ gap _ blankGap (by simp; decide),
    scan_from_token _ _ _ _ (by rw [punct_lexeme _ _ rfl]), punct_lexeme _ _ rfl, List.drop_zero,
    scan_blanks _ space _ blankSpace (by simp; decide),
    scan_from_token _ _ _ _ (by rw [self_lexeme line ending]), self_lexeme line ending]
  refine ⟨_, _, ⟨rfl, rfl, rfl, rfl⟩, congrArg _ (congrArg _ (congrArg _ ?_))⟩
  have nothing (pos : Nat) : scanFrom pos (line ++ []) = [] := by
    rw [scan_blanks pos line [] blankLine nofun, scanFrom]
  rw [List.append_nil] at nothing
  exact nothing _

end ScreenDispatch.Expr
