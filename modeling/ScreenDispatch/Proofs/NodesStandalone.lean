import ScreenDispatch.Proofs.Locality
import ScreenDispatch.Proofs.Nodes
import ScreenDispatch.Proofs.SuffixChain

/-!
Every node stands by itself. A node ends where it ends when nothing follows, because reading is local,
and each longer node of a chain of members and arguments is read on from the shorter one.
-/
set_option autoImplicit false

namespace ScreenDispatch.Expr

open Token Script

theorem reads_cut (p : Production) (value : p.Value) (xs left cut : List Token) (free : p.enclosed = false)
    (closed : p.closers = []) (closing : Closing [] (xs ++ left))
    (read : reads p (xs ++ left ++ cut) = some (value, left ++ cut)) :
    reads p (xs ++ left) = some (value, left) := by
  have same := reads_local p (xs ++ left) [] cut (fun other => by simp [free] at other) (by simpa [closed] using closing)
  obtain ⟨kept, whole, short⟩ := same.back value (left ++ cut) read (.inr (.inr (by simp)))
  rw [short, List.append_cancel_right whole]

-- `node` is read from `before`, and on from there, whatever part of `ts` follows.
def Begun (before : List Token) (node : Tree) (ts : List Token) : Prop :=
  ∀ first rest, ts = first ++ rest → Nested first →
    reads .expression (before ++ first) = reads (.suffixes before node) first

theorem begun_more (before : List Token) (node longer : Tree) (xs more : List Token)
    (begun : Begun before node (xs ++ more)) (nested : Nested xs)
    (step : ∀ first rest, more = first ++ rest → Nested first →
      reads (.suffixes before node) (xs ++ first) = reads (.suffixes (before ++ xs) longer) first) :
    Begun (before ++ xs) longer more := by
  intro first rest whole inside
  rw [List.append_assoc, ← step first rest whole inside]
  exact begun (xs ++ first) rest (by rw [whole, List.append_assoc]) ((nested_append xs first nested).mpr inside)

theorem begun_standalone (before : List Token) (node : Tree) (ts : List Token) (begun : Begun before node ts)
    (parsed : node.isUnparsed = false) (source : node.source = before) (nonempty : before ≠ []) :
    Standalone before node := by
  refine ⟨?_, by rwa [source], source ▸ List.infix_refl _⟩
  have alone := begun [] ts rfl rfl
  rw [List.append_nil, suffixes_nil] at alone
  unfold Rereads
  rw [if_neg (by simp [parsed]), source, alone]

def Settles (p : Production) (ts : List Token) : Prop :=
  ∀ outer, Matched (p.closers ++ outer) ts → ∀ value rest, reads p ts = some (value, rest) →
    nodeConditions.good p (taken ts rest) value

theorem longer_settles (before xs more rest : List Token) (longer e : Tree) (bound : rest.length ≤ more.length)
    (parsed : longer.isUnparsed = false) (source : longer.source = before ++ xs) (nonempty : xs ≠ [])
    (inner : AllStandalone before longer.inner) (begun : Begun (before ++ xs) longer more)
    (onward : AllStandalone (before ++ xs) longer.nodes → e.source = before ++ xs ++ taken more rest ∧
      AllStandalone (before ++ xs ++ taken more rest) e.nodes) :
    e.source = before ++ taken (xs ++ more) rest ∧
      AllStandalone (before ++ taken (xs ++ more) rest) e.nodes := by
  rw [taken_append_left xs more rest bound, ← List.append_assoc]
  apply onward
  intro n present
  obtain rfl | below := List.mem_cons.mp present
  · exact begun_standalone _ _ more begun parsed source (by simp [nonempty])
  · exact (inner n below).left xs

theorem chain_settles {before ts rest : List Token} {node e : Tree} (chain : Chain before node ts e rest)
    (outer : List String) (matched : Matched outer ts) (source : node.source = before)
    (alone : AllStandalone before node.nodes) (begun : Begun before node ts) :
    e.source = before ++ taken ts rest ∧ AllStandalone (before ++ taken ts rest) e.nodes := by
  induction chain with
  | stop before node ts noDot =>
      rw [taken_self, List.append_nil]
      exact ⟨source, alone⟩
  | member before node dot name more e rest symbol word onward ih =>
      have nested : Nested [dot, name] :=
        closes_cons (advance_symbol "." (by decide) dot symbol _)
          (closes_cons (advance_of_kind _ name (by grind)) rfl)
      have behind : Matched outer more := by
        refine matched_rest [] outer ?_ nested
        exact matched
      -- The longer node is read on from the shorter one whatever follows the name.
      have longer := begun_more before node (.member (before ++ [dot, name]) node (unticked name.value)) [dot, name]
        more begun nested fun first _ _ _ => suffixes_member before node dot name symbol word first
      exact longer_settles before [dot, name] more rest (.member _ node _) e onward.suffix.length_le rfl rfl (by simp)
        alone longer fun nodes => ih behind rfl nodes longer
  | arguments before node opening xs more arguments e rest symbol generic typed onward ih =>
      have plain := advance_symbol "<" (by decide) opening symbol
      have inside : Matched outer (xs ++ more) := by
        refine matched_tail outer ?_ (plain [])
        exact matched
      obtain ⟨ys, same, nested⟩ := reads_nested .typeArguments _ outer inside arguments more typed
      cases List.append_cancel_right same
      have behind : Matched outer more := matched_rest [] outer inside nested
      -- The arguments are read from `xs` alone, so they stay the same when the input is cut behind them.
      have longer := begun_more before node (.specialization (before ++ opening :: xs) node arguments) (opening :: xs)
        more begun (closes_cons (plain []) nested) fun first left whole part => by
          refine suffixes_arguments before node opening symbol generic xs first arguments ?_
          refine reads_cut .typeArguments arguments xs first left rfl rfl ⟨?_, closes_append nested part⟩ ?_
          · intro u present
            apply inside.faithful u
            rw [whole, ← List.append_assoc]
            exact List.mem_append_left left present
          · rw [List.append_assoc, ← whole]
            exact typed
      exact longer_settles before (opening :: xs) more rest (.specialization _ node _) e onward.suffix.length_le rfl
        rfl (by simp) alone longer fun nodes => ih behind rfl nodes longer

theorem expression_settles (ts : List Token) (settles : Settles .primary ts) (outer : List String)
    (matched : Matched outer ts) (e : Tree) (rest : List Token) (read : reads .expression ts = some (e, rest)) :
    e.source = taken ts rest ∧ AllStandalone (taken ts rest) e.nodes := by
  obtain ⟨node, more, first, chain⟩ := expression_chain ts e rest read
  have shorter := length_reads .primary ts node more first
  have holds := settles outer matched node more first
  obtain ⟨xs, rfl, nested⟩ := reads_nested .primary ts outer matched node more first
  rw [taken_from] at chain holds
  obtain ⟨source, parsed, inner⟩ := holds
  have nonempty : xs ≠ [] := fun empty => by
    rw [empty] at shorter
    simp only [Production.least, List.nil_append] at shorter
    omega
  have begun : Begun xs node more := by
    intro front left whole part
    have primary : reads .primary (xs ++ front) = some (node, front) := by
      refine reads_cut .primary node xs front left rfl rfl ⟨?_, closes_append nested part⟩ ?_
      · intro u present
        apply matched.faithful u
        rw [whole, ← List.append_assoc]
        exact List.mem_append_left left present
      · rw [List.append_assoc, ← whole]
        exact first
    rw [expression_from_primary _ front node primary, taken_from]
  have alone : AllStandalone xs node.nodes := by
    intro n present
    obtain rfl | below := List.mem_cons.mp present
    · exact begun_standalone _ _ more begun parsed source nonempty
    · exact inner n below
  rw [taken_append_left xs more rest chain.suffix.length_le]
  exact chain_settles chain outer (matched_rest [] outer matched nested) source alone begun

theorem stop_follows (stops : List String) (ts rest : List Token) (skipped : skipTo stops 0 ts = .ok rest)
    (quietly : ∀ symbol ∈ stops, symbol ∈ [":", ",", "]"]) :
    QuietHead rest ∧ stops.any (startsWith · rest) := by
  obtain ⟨t, more, rfl, punct, stop⟩ := skip_to_stop stops 0 ts rest skipped
  refine ⟨⟨t, more, rfl, ?_⟩, ?_⟩
  · refine (quiet_iff t).mpr ⟨punct, ?_⟩
    have mark := quietly t.value stop
    grind
  · rw [List.any_eq_true]
    exact ⟨t.value, stop, by simp [startsWith, isSymbol, punct]⟩

-- What is kept unparsed is no expression: it would have ended at the stop.
theorem unreadable_standalone (stops : List String) (ts : List Token) (outer : List String)
    (matched : Matched outer ts) (quietly : ∀ symbol ∈ stops, symbol ∈ [":", ",", "]"])
    (missed : ∀ other left, reads .expression ts = some (other, left) → ¬ stops.any (startsWith · left))
    (e : Tree) (rest : List Token) (read : outcome (unreadable stops ts) = some (e, rest)) :
    e.source = taken ts rest ∧ AllStandalone (taken ts rest) e.nodes := by
  rw [outcome_unreadable] at read
  split at read
  · rename_i found skipped
    split at read
    · rename_i shorter
      cases read
      obtain ⟨left, run⟩ := matched.closing
      obtain ⟨xs, rfl, nested⟩ := skip_to_nested stops [] outer left ts rest skipped run
      obtain ⟨quietHead, stop⟩ := stop_follows stops _ rest skipped quietly
      refine ⟨rfl, fun n present => ?_⟩
      rw [taken_from] at present ⊢
      cases List.mem_singleton.mp present
      refine ⟨?_, fun empty => ?_, List.infix_refl _⟩
      · change ∀ other, reads .expression xs ≠ some (other, [])
        intro other parsed
        have closing : Closing [] xs :=
          ⟨fun u inside => matched.faithful u (List.mem_append_left rest inside), nested⟩
        have same := reads_local .expression xs [] rest (fun free => by cases free) closing
        exact missed other rest (same.forth (.inr quietHead) other [] parsed) stop
      · change xs = [] at empty
        simp [empty] at shorter
    · cases read
  · cases read

theorem element_settles (stops : List String) (ts : List Token) (outer : List String)
    (settles : Settles .expression ts) (matched : Matched outer ts)
    (quietly : ∀ symbol ∈ stops, symbol ∈ [":", ",", "]"]) (e : Tree) (rest : List Token)
    (read : outcome (element stops ts) = some (e, rest)) :
    e.source = taken ts rest ∧ AllStandalone (taken ts rest) e.nodes := by
  rw [outcome_element] at read
  split at read
  · rename_i value left found
    split at read
    · cases read
      exact settles outer matched e rest found
    · rename_i elsewhere
      refine unreadable_standalone stops ts outer matched quietly (fun other more parsed => ?_) e rest read
      rw [found] at parsed
      cases parsed
      exact elsewhere
  · rename_i missing
    refine unreadable_standalone stops ts outer matched quietly (fun other more parsed => ?_) e rest read
    rw [missing] at parsed
    cases parsed

theorem settled_meets (p : Production) (ts : List Token)
    (settled : (∃ outer, Matched (p.closers ++ outer) ts) ∧ Settles p ts) : Meets nodeConditions p ts := by
  obtain ⟨⟨outer, matched⟩, settles⟩ := settled
  refine ⟨settles outer matched, ?_⟩
  rintro rfl stops e rest read quietly
  exact element_settles stops ts outer settles matched quietly e rest read

theorem reads_settle (p : Production) (ts : List Token) : Settles p ts := by
  induction p, ts using production_induction with
  | step p ts calls =>
      intro outer matched
      have meets : (script p).Calls (Meets nodeConditions) ts ts :=
        Script.Calls.imp settled_meets ts (script p) ts
          (calls_matched p.enclosed p.closers outer ts (script p) ts (disciplined p) matched
            (Script.Calls.imp (fun q us settles _ _ => settles) ts (script p) ts calls))
      have ensured := reads_ensure nodeConditions p ts meets
      cases p with
      | expression => exact expression_settles ts calls.1 outer matched
      | primary => exact ensured primary_conditions
      | collection before => exact ensured (collection_conditions before)
      | parenthesized before => exact ensured (parenthesized_conditions before)
      | entries => exact ensured entries_conditions
      | items => exact ensured items_conditions
      | tupleItems => exact ensured tuple_items_conditions
      | _ => exact fun _ _ _ => trivial

theorem nodes_standalone (ts : List Token) (matched : Matched [] ts) (e : Tree) (rest : List Token)
    (read : reads .expression ts = some (e, rest)) : AllStandalone (taken ts rest) e.nodes :=
  (reads_settle .expression ts [] matched e rest read).2

end ScreenDispatch.Expr
