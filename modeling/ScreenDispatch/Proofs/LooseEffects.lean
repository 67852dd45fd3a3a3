import ScreenDispatch.Proofs.Effects
import ScreenDispatch.Proofs.PlacedNodes

/-!
Effects without an arrow. A tuple, and any type in parentheses, takes along the effects behind it even where no arrow
shows that they belong to the type of a function.
-/
set_option autoImplicit false

namespace ScreenDispatch.Expr

open Token Text

-- Somewhere a closing parenthesis has effects behind it, and no arrow behind these.
def hasLooseEffects : List Token → Bool
  | [] => false
  | t :: rest =>
    (t.isSymbol ")" && rest.head?.any isEffect && !startsWith "->" (skipEffects rest)) || hasLooseEffects rest

theorem loose_behind (xs ys : List Token) (tidy : hasLooseEffects (xs ++ ys) = false) : hasLooseEffects ys = false := by
  induction xs with
  | nil => exact tidy
  | cons t xs ih => exact ih (Bool.or_eq_false_iff.mp tidy).2

theorem starts_with_append (symbol : String) (xs ys : List Token) (some : xs ≠ []) :
    startsWith symbol (xs ++ ys) = startsWith symbol xs := by
  cases xs with
  | nil => exact absurd rfl some
  | cons t xs => rfl

theorem NoResult.skips {rest : List Token} (none : NoResult rest) : skipEffects rest = rest := by
  cases rest with
  | nil => rfl
  | cons t more => rw [skipEffects, List.dropWhile_cons_of_neg (by simp [(none t rfl).1])]

theorem NoResult.no_arrow {rest : List Token} (none : NoResult rest) : startsWith "->" rest = false := by
  cases rest with
  | nil => rfl
  | cons t more => exact (none t rfl).2

theorem loose_front (run rest : List Token) (complete : Complete run rest) (tidy : hasLooseEffects (run ++ rest) = false) :
    hasLooseEffects run = false := by
  induction run with
  | nil => rfl
  | cons t more ih =>
      have here : (t.isSymbol ")" && (more ++ rest).head?.any isEffect &&
          !startsWith "->" (skipEffects (more ++ rest))) = false := (Bool.or_eq_false_iff.mp tidy).1
      have inner : Complete more rest := by
        rintro ⟨before, closing, effects, rfl, parenthesis, all⟩
        exact complete ⟨t :: before, closing, effects, rfl, parenthesis, all⟩
      refine Bool.or_eq_false_iff.mpr ⟨?_, ih inner (loose_behind [t] _ tidy)⟩
      by_contra loose
      simp only [Bool.not_eq_false, Bool.and_eq_true, Bool.not_eq_true'] at loose
      obtain ⟨⟨parenthesis, effect⟩, noArrow⟩ := loose
      have behind : (more ++ rest).head?.any isEffect = true := by
        cases more with
        | nil => cases effect
        | cons u others => exact effect
      have arrow : startsWith "->" (skipEffects (more ++ rest)) = true := by
        simpa only [parenthesis, behind, Bool.true_and, Bool.not_eq_false'] using here
      rw [skipEffects, List.dropWhile_append] at arrow
      split at arrow
      · rename_i all
        have effects := List.dropWhile_eq_nil_iff.mp (List.isEmpty_iff.mp all)
        have none := complete ⟨[], t, more, rfl, parenthesis, effects⟩
        rw [← skipEffects, none.skips, none.no_arrow] at arrow
        cases arrow
      · rename_i some
        rw [starts_with_append _ _ _ (by simpa using some), ← skipEffects, noArrow] at arrow
        cases arrow

theorem ends_closed_shifted (offset : Nat) (ts : List Token) (closed : EndsClosed (ts.map (shifted offset))) :
    EndsClosed ts := by
  obtain ⟨before, closing, effects, whole, parenthesis, all⟩ := closed
  obtain ⟨front, back, rfl, -, same⟩ := List.map_eq_append_iff.mp whole
  obtain ⟨t, others, rfl, rfl, rfl⟩ := List.map_eq_cons_iff.mp same
  exact ⟨front, t, others, rfl, parenthesis, fun u present => all (shifted offset u) (List.mem_map_of_mem present)⟩

theorem loose_shifted (offset : Nat) (ts : List Token) :
    hasLooseEffects (ts.map (shifted offset)) = hasLooseEffects ts := by
  induction ts with
  | nil => rfl
  | cons t rest ih =>
      have head : (rest.map (shifted offset)).head?.any isEffect = rest.head?.any isEffect := by
        cases rest <;> rfl
      have behind : startsWith "->" (skipEffects (rest.map (shifted offset))) = startsWith "->" (skipEffects rest) := by
        rw [skipEffects, List.dropWhile_map, skipEffects, show isEffect ∘ shifted offset = isEffect from rfl]
        cases rest.dropWhile isEffect <;> rfl
      rw [List.map_cons, hasLooseEffects, hasLooseEffects, head, behind, ih]
      rfl

theorem ends_without_effects (run : List Token) (closed : EndsClosed run) (tidy : hasLooseEffects run = false) :
    ∃ before closing, run = before ++ [closing] ∧ closing.isSymbol ")" := by
  obtain ⟨before, closing, effects, rfl, parenthesis, all⟩ := closed
  have here := (Bool.or_eq_false_iff.mp (loose_behind before _ tidy)).1
  cases effects with
  | nil => exact ⟨before, closing, rfl, parenthesis⟩
  | cons effect others =>
      have nothing : skipEffects (effect :: others) = [] := List.dropWhile_eq_nil_iff.mpr all
      rw [parenthesis, nothing, List.head?_cons, Option.any_some, all effect List.mem_cons_self] at here
      cases here

theorem no_blanks_behind (front blanks : List Char) (solid : Solid (front ++ blanks)) (all : ∀ c ∈ blanks, isBlank c) :
    blanks = [] := by
  by_contra behind
  have last := List.getLast?_eq_some_getLast behind
  have blank := all _ (List.mem_of_getLast? last)
  rw [solid _ (by rw [List.getLast?_append, last]; rfl)] at blank
  cases blank

theorem text_of_ends (source : String) (before others after : List Token) (last : Token)
    (whole : scan source = before ++ (others ++ [last]) ++ after) :
    ∃ front, (textOf source.toList (others ++ [last])).toList = front ++ last.value.toList := by
  have filled : others ++ [last] ≠ [] := by simp
  have solid := text_of_solid source before _ after filled whole
  have tokens := scan_text_of source.toList before _ after _ whole (List.head?_eq_some_head filled)
  obtain ⟨ts, us, split, -, same⟩ := List.map_eq_append_iff.mp tokens
  obtain ⟨u, rfl, moved⟩ := List.map_eq_singleton_iff.mp same
  have value : u.value = last.value := by
    rw [← moved]
    rfl
  obtain ⟨front, blanks, text, -, all⟩ := scan_last 0 _ ts u split
  rw [text, ← List.append_assoc] at solid
  rw [text, no_blanks_behind _ blanks solid all, List.append_nil, value]
  exact ⟨front, rfl⟩

section Texts

variable {source : String} {run : List Token}

theorem rounded_scan (rounded : Rounded (scan source) run) (filled : run ≠ []) :
    ∃ offset, (scan (textOf source.toList run)).map (shifted offset) = run := by
  obtain ⟨before, after, whole, -⟩ := rounded
  obtain ⟨first, head⟩ : ∃ first, run.head? = some first := ⟨_, List.head?_eq_some_head filled⟩
  exact ⟨first.start, scan_text_of source.toList before run after first (by rw [← scan, whole]; simp) head⟩

theorem rounded_tidy (rounded : Rounded (scan source) run) (tidy : hasLooseEffects (scan source) = false) :
    hasLooseEffects run = false := by
  obtain ⟨before, after, whole, complete⟩ := rounded
  rw [whole] at tidy
  exact loose_front run after complete (loose_behind before _ tidy)

theorem rounded_text_tidy (rounded : Rounded (scan source) run) (tidy : hasLooseEffects (scan source) = false) :
    hasLooseEffects (scan (textOf source.toList run)) = false := by
  by_cases filled : run = []
  · rw [filled, scan, show (textOf source.toList []).toList = [] from rfl, scanFrom, hasLooseEffects]
  · obtain ⟨offset, same⟩ := rounded_scan rounded filled
    rw [← loose_shifted offset, same]
    exact rounded_tidy rounded tidy

theorem closed_text (rounded : Rounded (scan source) run) (closed : EndsClosed run) :
    EndsClosed (scan (textOf source.toList run)) := by
  have filled : run ≠ [] := fun empty => not_ends_closed_nil (empty ▸ closed)
  obtain ⟨offset, same⟩ := rounded_scan rounded filled
  rw [← same] at closed
  exact ends_closed_shifted offset _ closed

theorem tidy_text_ends (rounded : Rounded (scan source) run) (closed : EndsClosed run)
    (tidy : hasLooseEffects (scan source) = false) : (textOf source.toList run).toList.getLast? = some ')' := by
  obtain ⟨others, closing, rfl, parenthesis⟩ := ends_without_effects run closed (rounded_tidy rounded tidy)
  obtain ⟨before, after, whole, -⟩ := rounded
  obtain ⟨front, text⟩ := text_of_ends source before others after closing (by simp [whole])
  rw [text, symbol_value ")" closing parenthesis]
  simp

end Texts

def cuts {α : Type} (e : Expr α) : List α := e.source :: e.extras

theorem cuts_map {α β : Type} (f : α → β) (e : Expr α) : (e.map f).cuts = e.cuts.map f := by
  rw [cuts, source_map, extras_map, cuts, List.map_cons]

theorem is_tuple_map {α β : Type} (f : α → β) (e : Expr α) : (e.map f).isTuple = e.isTuple := by
  cases e <;> rfl

def RoundedText (source text : String) : Prop :=
  ∃ run, Rounded (scan source) run ∧ text = textOf source.toList run

/-- Every text that is cut out takes along the effects behind its last parenthesis, and so a tuple ends with effects
wherever they stand behind it. Where all effects behind parentheses have an arrow, a tuple ends with its parenthesis,
and no node, generic argument or operand has effects without one. -/
theorem effects_taken_along (source : String) (e : Expr String) (accepted : read source = .ok e) :
    (∀ n ∈ e.nodes, ∀ text ∈ n.cuts, RoundedText source text) ∧
      (∀ n ∈ e.nodes, n.isTuple → EndsClosed (scan n.source)) ∧
      (hasLooseEffects (scan source) = false → ∀ n ∈ e.nodes,
        (n.isTuple → n.source.toList.getLast? = some ')') ∧ ∀ text ∈ n.cuts, hasLooseEffects (scan text) = false) := by
  obtain ⟨tree, parsed, rfl⟩ := (read_ok_iff source e).mp accepted
  have rounded : AllRounded (taken (scan source) [] ++ []) tree.nodes :=
    reads_complete .expression (scan source) tree [] parsed
  rw [taken_nil, List.append_nil] at rounded
  have cutRounded (m : Tree) (present : m ∈ tree.nodes) : ∀ run ∈ m.cuts, Rounded (scan source) run :=
    List.forall_mem_cons.mpr ⟨(rounded m present).own, (rounded m present).extras⟩
  rw [nodes_map]
  refine ⟨List.forall_mem_map.mpr fun m present => ?_, List.forall_mem_map.mpr fun m present => ?_,
    fun tidy => List.forall_mem_map.mpr fun m present => ⟨?_, ?_⟩⟩
  · rw [cuts_map]
    exact List.forall_mem_map.mpr fun run held => ⟨run, cutRounded m present run held, rfl⟩
  · rw [is_tuple_map, source_map]
    exact fun tuple => closed_text (rounded m present).own ((rounded m present).tuple tuple)
  · rw [is_tuple_map, source_map]
    exact fun tuple => tidy_text_ends (rounded m present).own ((rounded m present).tuple tuple) tidy
  · rw [cuts_map]
    exact List.forall_mem_map.mpr fun run held => rounded_text_tidy (cutRounded m present run held) tidy

def arrowedSource : String := "[(a, (b)): View<(Int) async throws -> Void>.self]"

def arrowedTree : Expr String :=
  .dictionary arrowedSource
    [(.tuple "(a, (b))" [.reference "a" "a", .tuple "(b)" [.reference "b" "b"]],
      .member "View<(Int) async throws -> Void>.self"
        (.specialization "View<(Int) async throws -> Void>" (.reference "View" "View")
          ["(Int) async throws -> Void"]) "self")]

theorem arrowed_effects_taken :
    read arrowedSource = .ok arrowedTree ∧ hasLooseEffects (scan arrowedSource) = false ∧
      ∀ n ∈ arrowedTree.nodes,
        (n.isTuple → n.source.toList.getLast? = some ')') ∧ ∀ text ∈ n.cuts, hasLooseEffects (scan text) = false :=
  have accepted : read arrowedSource = .ok arrowedTree := by cbv
  have tidy : hasLooseEffects (scan arrowedSource) = false := by cbv
  ⟨accepted, tidy, (effects_taken_along arrowedSource arrowedTree accepted).2.2 tidy⟩

theorem loose_effects_accepted :
    read "(Int) async" = .ok (.tuple "(Int) async" [.reference "Int" "Int"]) ∧
      "(Int) async".toList.getLast? ≠ some ')' ∧
      read "View<(Int) throws>.self" =
        .ok (.member "View<(Int) throws>.self"
          (.specialization "View<(Int) throws>" (.reference "View" "View") ["(Int) throws"]) "self") ∧
      hasLooseEffects (scan "(Int) throws") = true :=
  ⟨by cbv, by decide, by cbv, by cbv⟩

end ScreenDispatch.Expr
