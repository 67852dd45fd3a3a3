import Mathlib.Data.List.Induction
import ScreenDispatch.Mapping

/-!
The order of a mapping: a key stands where it came first and has the value that came last.
-/
set_option autoImplicit false

namespace ScreenDispatch.Mapping

theorem keys_insert (m : Mapping) (key value : String) :
    (m.insert key value).keys = if key ∈ m.keys then m.keys else m.keys ++ [key] := by
  unfold insert
  by_cases present : key ∈ m.keys
  · rw [dif_pos present, if_pos present]
    exact keys_replace key value m.entries
  · rw [dif_neg present, if_neg present]
    exact List.map_append

theorem lookup_replace_other (key value wanted : String) (entries : List (String × String))
    (other : wanted ≠ key) : (replace key value entries).lookup wanted = entries.lookup wanted := by
  induction entries with
  | nil => rfl
  | cons entry rest ih =>
      rw [replace, List.map_cons, ← replace]
      obtain ⟨name, old⟩ := entry
      by_cases same : name = key
      · rw [if_pos same, List.lookup_cons, List.lookup_cons, ih, same, beq_false_of_ne other]
      · rw [if_neg same, List.lookup_cons, List.lookup_cons, ih]

theorem lookup_replace_self (key value : String) (entries : List (String × String))
    (present : key ∈ entries.map Prod.fst) : (replace key value entries).lookup key = some value := by
  induction entries with
  | nil => cases present
  | cons entry rest ih =>
      rw [replace, List.map_cons, ← replace]
      obtain ⟨name, old⟩ := entry
      by_cases same : name = key
      · rw [if_pos same, List.lookup_cons_self]
      · rw [if_neg same, List.lookup_cons, beq_false_of_ne (Ne.symm same)]
        obtain first | later := List.mem_cons.mp present
        · exact absurd first.symm same
        · exact ih later

theorem get_insert (m : Mapping) (key value wanted : String) :
    (m.insert key value).get? wanted = if wanted = key then some value else m.get? wanted := by
  unfold insert get?
  by_cases present : key ∈ m.keys
  · rw [dif_pos present]
    by_cases same : wanted = key
    · rw [if_pos same, same]
      exact lookup_replace_self key value m.entries present
    · rw [if_neg same]
      exact lookup_replace_other key value wanted m.entries same
  · rw [dif_neg present]
    dsimp only
    rw [List.lookup_append, List.lookup_singleton]
    by_cases same : wanted = key
    · have missing : m.entries.lookup wanted = none := by
        rw [List.lookup_eq_none_iff]
        rintro ⟨name, old⟩ inside
        refine bne_iff_ne.mpr fun hit => present ?_
        rw [← same, hit]
        exact List.mem_map_of_mem inside
      rw [missing, if_pos same, if_pos (beq_iff_eq.mpr same)]
      rfl
    · rw [if_neg same, if_neg (by simpa using same), Option.or_none]

theorem of_list_append (entries : List (String × String)) (key value : String) :
    ofList (entries ++ [(key, value)]) = (ofList entries).insert key value := by
  rw [ofList, List.foldl_append]
  rfl

theorem keys_of_list (entries : List (String × String)) :
    (ofList entries).keys = (entries.map Prod.fst).eraseDups := by
  induction entries using List.reverseRec with
  | nil => rfl
  | append_singleton others last ih =>
      obtain ⟨key, value⟩ := last
      rw [of_list_append, keys_insert, ih, List.map_append, List.eraseDups_append]
      by_cases present : key ∈ others.map Prod.fst
      · rw [if_pos (List.mem_eraseDups.mpr present)]
        simp [List.removeAll, present]
      · rw [if_neg fun inside => present (List.mem_eraseDups.mp inside)]
        simp [List.removeAll, present, List.eraseDups_cons]

theorem get_of_list (entries : List (String × String)) (key : String) :
    (ofList entries).get? key = entries.reverse.lookup key := by
  induction entries using List.reverseRec with
  | nil => rfl
  | append_singleton others last ih =>
      obtain ⟨name, value⟩ := last
      rw [of_list_append, get_insert, ih, List.reverse_append, List.reverse_singleton, List.singleton_append,
        List.lookup_cons]
      by_cases same : key = name
      · rw [if_pos same, beq_iff_eq.mpr same]
      · rw [if_neg same, beq_false_of_ne same]

end ScreenDispatch.Mapping
