import Mathlib.Data.List.TakeWhile
import ScreenDispatch.Text.Blank

/-!
What is left of a text when the white space at its ends is cut off.
-/
set_option autoImplicit false

namespace ScreenDispatch.Text

theorem drop_no_blank (cs : List Char) (first : ∀ c, cs.head? = some c → isBlank c = false) :
    cs.dropWhile isBlank = cs := by
  cases cs with
  | nil => rfl
  | cons c rest => rw [List.dropWhile_cons_of_neg (by simp [first c rfl])]

theorem drop_blank_head (cs : List Char) (c : Char) (first : (cs.dropWhile isBlank).head? = some c) :
    isBlank c = false := by
  have stopped := List.head?_dropWhile_not isBlank cs
  rw [first] at stopped
  exact stopped

structure Trims (given left : List Char) : Prop where
  cut : ∃ before after, given = before ++ left ++ after ∧ (∀ c ∈ before, isBlank c = true) ∧
    ∀ c ∈ after, isBlank c = true
  head : ∀ c, left.head? = some c → isBlank c = false
  last : ∀ c, left.getLast? = some c → isBlank c = false

theorem trim_trims (given : List Char) : Trims given (trim given) := by
  have ends : trimLeft given = trim given ++ ((trimLeft given).reverse.takeWhile isBlank).reverse := by
    rw [trim, trimRight, ← List.reverse_append, List.takeWhile_append_dropWhile, List.reverse_reverse]
  refine ⟨⟨given.takeWhile isBlank, ((trimLeft given).reverse.takeWhile isBlank).reverse, ?_, ?_, ?_⟩, ?_, ?_⟩
  · rw [List.append_assoc, ← ends, trimLeft, List.takeWhile_append_dropWhile]
  · intro c member
    exact List.mem_takeWhile_imp member
  · intro c member
    exact List.mem_takeWhile_imp (List.mem_reverse.mp member)
  · intro c first
    apply drop_blank_head given c
    change (trimLeft given).head? = some c
    rw [ends, List.head?_append, first]
    rfl
  · intro c last
    rw [trim, trimRight, List.getLast?_reverse] at last
    exact drop_blank_head _ c last

theorem trim_of_trims (given left : List Char) (trims : Trims given left) : trim given = left := by
  obtain ⟨⟨before, after, rfl, blankBefore, blankAfter⟩, head, last⟩ := trims
  cases left with
  | nil =>
      have blank : ∀ c ∈ before ++ [] ++ after, isBlank c = true := by
        simpa [or_imp, forall_and] using And.intro blankBefore blankAfter
      rw [trim, trimLeft, List.dropWhile_eq_nil_iff.mpr blank]
      rfl
  | cons c rest =>
      have front : trimLeft (before ++ c :: rest ++ after) = c :: rest ++ after := by
        rw [trimLeft, List.append_assoc, List.dropWhile_append_of_pos blankBefore]
        exact drop_no_blank _ head
      rw [trim, front, trimRight, List.reverse_append,
        List.dropWhile_append_of_pos fun d member => blankAfter d (List.mem_reverse.mp member),
        drop_no_blank _ fun d first => last d (by rwa [List.head?_reverse] at first), List.reverse_reverse]

theorem trim_iff (given left : List Char) : trim given = left ↔ Trims given left := by
  constructor
  · rintro rfl
    exact trim_trims given
  · exact trim_of_trims given left

theorem trim_nil_iff (given : List Char) : trim given = [] ↔ ∀ c ∈ given, isBlank c = true := by
  constructor
  · intro empty
    obtain ⟨⟨before, after, rfl, blankBefore, blankAfter⟩, -, -⟩ := (trim_iff given []).mp empty
    intro c member
    rcases List.mem_append.mp member with front | behind
    · exact blankBefore c (by simpa using front)
    · exact blankAfter c behind
  · intro blank
    rw [trim, trimLeft, List.dropWhile_eq_nil_iff.mpr blank]
    rfl

end ScreenDispatch.Text
