import Mathlib
import ScreenDispatch.Proofs.MovedTokens
import ScreenDispatch.Proofs.NodesStandalone
import ScreenDispatch.Proofs.ScannedPiece

/-!
Reading the text of a node. It has the tokens of the node at other places, so it is read to the same
node, texts included.
-/
set_option autoImplicit false

namespace ScreenDispatch.Expr

open Token

variable {α β γ : Type}

mutual
theorem map_map (f : α → β) (g : β → γ) (e : Expr α) : (e.map f).map g = e.map (g ∘ f) := by
  cases e with
  | member source base name => simp [Expr.map, map_map f g base]
  | specialization source base arguments => simp [Expr.map, map_map f g base]
  | dictionary source entries => simp [Expr.map, map_entries_map f g entries]
  | array source items | tuple source items => simp [Expr.map, map_items_map f g items]
  | _ => simp [Expr.map]

theorem map_items_map (f : α → β) (g : β → γ) (items : List (Expr α)) :
    mapItems g (mapItems f items) = mapItems (g ∘ f) items := by
  cases items with
  | nil => rfl
  | cons e rest => simp [mapItems, map_map f g e, map_items_map f g rest]

theorem map_entries_map (f : α → β) (g : β → γ) (entries : List (Expr α × Expr α)) :
    mapEntries g (mapEntries f entries) = mapEntries (g ∘ f) entries := by
  cases entries with
  | nil => rfl
  | cons entry rest =>
      obtain ⟨key, value⟩ := entry
      simp [mapEntries, map_map f g key, map_map f g value, map_entries_map f g rest]
end

theorem nodes_map (f : α → β) (e : Expr α) : (e.map f).nodes = e.nodes.map (Expr.map f) := by
  rw [nodes, nodes, inner_map]
  rfl

theorem unparsed_map (f : α → β) (e : Expr α) : (e.map f).isUnparsed = e.isUnparsed := by
  cases e <;> rfl

theorem of_tokens_ok_iff (ts : List Token) (tree : Tree) :
    ofTokens ts = .ok tree ↔ reads .expression ts = some (tree, []) := by
  change _ ↔ outcome (expression ts) = _
  rw [ofTokens]
  cases expression ts with
  | error fault => constructor <;> nofun
  | ok p =>
      obtain ⟨value, rest, shorter⟩ := p
      change (if rest.isEmpty then Except.ok value else failAt .trailingInput rest) = _ ↔
        some (value, rest) = _
      cases rest with
      | nil => simp
      | cons t more => simp [failAt]

theorem read_ok_iff (source : String) (e : Expr String) :
    read source = .ok e ↔
      ∃ tree, reads .expression (scan source) = some (tree, []) ∧ e = tree.map (textOf source.toList) := by
  unfold read
  cases scan source with
  | nil =>
      refine ⟨nofun, fun ⟨tree, parsed, _⟩ => ?_⟩
      have shorter := length_reads .expression [] tree [] parsed
      cases shorter
  | cons t rest =>
      dsimp only
      cases result : ofTokens (t :: rest) with
      | error fault =>
          refine ⟨nofun, fun ⟨tree, parsed, _⟩ => ?_⟩
          rw [← of_tokens_ok_iff, result] at parsed
          cases parsed
      | ok tree =>
          have parsed := (of_tokens_ok_iff _ tree).mp result
          simp [parsed, eq_comm]

theorem read_error_iff (source : String) :
    (∃ error, read source = .error error) ↔ ∀ tree, reads .expression (scan source) ≠ some (tree, []) := by
  cases result : read source with
  | error error =>
      refine ⟨fun _ tree parsed => ?_, fun _ => ⟨error, rfl⟩⟩
      have accepted := (read_ok_iff source _).mpr ⟨tree, parsed, rfl⟩
      rw [result] at accepted
      cases accepted
  | ok e =>
      obtain ⟨tree, parsed, _⟩ := (read_ok_iff source e).mp result
      exact ⟨nofun, fun none => absurd parsed (none tree)⟩

theorem shifted_keeps (offset : Nat) : KeepsText (shifted offset) := ⟨fun _ => rfl, fun _ => rfl⟩

def clamped (size : Nat) (t : Token) : Token := { t with stop := min t.stop size }

theorem clamped_keeps (size : Nat) : KeepsText (clamped size) := ⟨fun _ => rfl, fun _ => rfl⟩

theorem clamped_scan (text : String) : (scan text).map (clamped text.toList.length) = scan text := by
  refine (List.map_congr_left fun t present => ?_).trans (List.map_id _)
  have bounds := scan_bounds 0 text.toList t present
  rw [clamped, Nat.min_eq_left (by omega)]
  rfl

theorem tree_clamped (text : String) (tree : Tree) (rest : List Token)
    (read : reads .expression (scan text) = some (tree, rest)) :
    Tree.move (clamped text.toList.length) tree = tree := by
  have moved := expression_moved (clamped_keeps text.toList.length) (scan text)
  rw [clamped_scan, read] at moved
  exact (congrArg Prod.fst (Option.some.inj moved)).symm

theorem piece_moved (source : String) (before run after : List Token) (first : Token)
    (whole : scan source = before ++ run ++ after) (head : run.head? = some first) :
    reads .expression run = (reads .expression (scan (textOf source.toList run))).map fun r =>
      (Tree.move (shifted first.start) r.1, r.2.map (shifted first.start)) := by
  have same := expression_moved (shifted_keeps first.start) (scan (textOf source.toList run))
  rwa [scan_text_of source.toList before run after first whole head] at same

theorem piece_text (source : String) (run : List Token) (first last : Token) (head : run.head? = some first)
    (ending : run.getLast? = some last) (size : Nat) (fits : size + first.start ≤ last.stop) (tree : Tree) :
    (Tree.move (clamped size) tree).map (textOf (textOf source.toList run).toList) =
      (Tree.move (shifted first.start) (Tree.move (clamped size) tree)).map (textOf source.toList) := by
  rw [map_map, map_map, map_map]
  congr 1
  funext piece
  refine text_of_inner source.toList run first last (piece.map (clamped size)) head ending fun t present => ?_
  obtain ⟨u, _, rfl⟩ := List.mem_map.mp present
  change min u.stop size + first.start ≤ last.stop
  omega

theorem read_piece (source : String) (before run after : List Token) (nonempty : run ≠ [])
    (whole : scan source = before ++ run ++ after) (tree : Tree)
    (parsed : reads .expression run = some (tree, [])) :
    read (textOf source.toList run) = .ok (tree.map (textOf source.toList)) := by
  obtain ⟨first, head⟩ : ∃ first, run.head? = some first := ⟨_, List.head?_eq_some_head nonempty⟩
  have ending := List.getLast?_eq_some_getLast nonempty
  have tokens := scan_text_of source.toList before run after first whole head
  rw [piece_moved source before run after first whole head] at parsed
  obtain ⟨⟨small, left⟩, found, same⟩ := Option.map_eq_some_iff.mp parsed
  obtain ⟨rfl, empty⟩ := Prod.mk.inj same
  cases List.map_eq_nil_iff.mp empty
  have length : (textOf source.toList run).toList.length + first.start ≤ (run.getLast nonempty).stop := by
    have size := congrArg List.length (text_of_eq source.toList first _ run head ending)
    rw [List.length_drop, List.length_take] at size
    have positive : (textOf source.toList run).toList ≠ [] := fun empty => by
      rw [scan, empty, scanFrom] at tokens
      exact nonempty tokens.symm
    have characters := List.length_pos_iff.mpr positive
    omega
  have clampedTree := tree_clamped _ small [] found
  rw [read_ok_iff]
  refine ⟨small, found, ?_⟩
  have texts := piece_text source run first _ head ending _ length small
  rw [clampedTree] at texts
  exact texts.symm

theorem read_piece_error (source : String) (before run after : List Token) (nonempty : run ≠ [])
    (whole : scan source = before ++ run ++ after) (rejected : ∀ tree, reads .expression run ≠ some (tree, [])) :
    ∃ error, read (textOf source.toList run) = .error error := by
  obtain ⟨first, head⟩ : ∃ first, run.head? = some first := ⟨_, List.head?_eq_some_head nonempty⟩
  rw [read_error_iff]
  intro tree parsed
  refine rejected (Tree.move (shifted first.start) tree) ?_
  rw [piece_moved source before run after first whole head, parsed]
  rfl

/-- Where closers match, the text of every node of an expression is read to that node, and the text of an
unparsed one is rejected. -/
theorem read_node_text (source : String) (e : Expr String) (accepted : read source = .ok e)
    (matched : (awaited [] (scan source)).isSome) (n : Expr String) (present : n ∈ e.nodes) :
    (n.isUnparsed = false → read n.source = .ok n) ∧
      (n.isUnparsed = true → ∃ error, read n.source = .error error) := by
  obtain ⟨tree, parsed, rfl⟩ := (read_ok_iff source e).mp accepted
  have closing : Matched [] (scan source) :=
    ⟨fun t inside => scan_faithful 0 source.toList t inside, Option.isSome_iff_exists.mp matched⟩
  have alone := nodes_standalone (scan source) closing tree [] parsed
  rw [taken_nil] at alone
  rw [nodes_map] at present
  obtain ⟨m, below, rfl⟩ := List.mem_map.mp present
  obtain ⟨rereads, nonempty, before, after, whole⟩ := alone m below
  unfold Rereads at rereads
  rw [unparsed_map, source_map]
  refine ⟨fun other => ?_, fun unparsed => ?_⟩
  · rw [if_neg (by simp [other])] at rereads
    exact read_piece source before m.source after nonempty whole.symm m rereads
  · rw [if_pos unparsed] at rereads
    exact read_piece_error source before m.source after nonempty whole.symm rereads

def pairedSource : String := "[\"k\": a<b, c>: Box<[Int: T]>.self]"

def pairedTree : Expr String :=
  .dictionary pairedSource
    [(.string "\"k\"" "k", .unparsed "a<b"),
      (.unparsed "c>", .member "Box<[Int: T]>.self"
        (.specialization "Box<[Int: T]>" (.reference "Box" "Box") ["[Int: T]"]) "self")]

theorem read_paired_node_texts :
    read pairedSource = .ok pairedTree ∧
      (read "Box<[Int: T]>" = .ok (.specialization "Box<[Int: T]>" (.reference "Box" "Box") ["[Int: T]"])) ∧
      ∃ error, read "a<b" = .error error :=
  have accepted : read pairedSource = .ok pairedTree := by cbv
  have matched : (awaited [] (scan pairedSource)).isSome := by cbv
  have nodes := read_node_text pairedSource pairedTree accepted matched
  ⟨accepted,
    (nodes (.specialization "Box<[Int: T]>" (.reference "Box" "Box") ["[Int: T]"])
      (by simp [pairedTree, Expr.nodes, inner, innerEntries])).1 rfl,
    (nodes (.unparsed "a<b") (by simp [pairedTree, Expr.nodes, inner, innerEntries])).2 rfl⟩

end ScreenDispatch.Expr
