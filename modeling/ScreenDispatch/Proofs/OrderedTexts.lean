import Mathlib.Data.List.Nodup
import ScreenDispatch.Text.Ordered

/-!
Texts in the order of their characters. A set of texts has one such list without repetitions.
-/
set_option autoImplicit false

namespace ScreenDispatch.Text

theorem sorted_texts (texts : List String) : (texts.mergeSort fun a b => decide (a ≤ b)).Pairwise (· ≤ ·) := by
  have transitive (a b c : String) (ab : decide (a ≤ b) = true) (bc : decide (b ≤ c) = true) :
      decide (a ≤ c) = true :=
    decide_eq_true (String.le_trans (of_decide_eq_true ab) (of_decide_eq_true bc))
  have total (a b : String) : (decide (a ≤ b) || decide (b ≤ a)) = true := by
    simpa using String.le_total a b
  exact (List.pairwise_mergeSort transitive total texts).imp fun le => of_decide_eq_true le

theorem first_occurrences_nodup (texts : List String) : texts.eraseDups.Nodup := by
  cases texts with
  | nil => exact .nil
  | cons first rest =>
      rw [List.eraseDups_cons, List.nodup_cons, List.mem_eraseDups]
      exact ⟨by simp, first_occurrences_nodup _⟩
termination_by texts.length
decreasing_by exact Nat.lt_succ_of_le (List.length_filter_le _ _)

theorem ordered_nodup (texts : List String) : (ordered texts).Nodup :=
  (List.mergeSort_perm _ _).nodup_iff.mpr (first_occurrences_nodup texts)

theorem ordered_of_same (texts others : List String) (same : ∀ text, text ∈ texts ↔ text ∈ others) :
    ordered texts = ordered others := by
  refine List.Perm.eq_of_pairwise ?_ (sorted_texts _) (sorted_texts _) ?_
  · intro a b _ _ ab ba
    exact String.le_antisymm ab ba
  · refine (List.perm_ext_iff_of_nodup (ordered_nodup texts) (ordered_nodup others)).mpr fun text => ?_
    rw [mem_ordered, mem_ordered, same]

end ScreenDispatch.Text
