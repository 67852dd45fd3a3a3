import ScreenDispatch.Proofs.LexemeForms
import ScreenDispatch.Proofs.LiteralNodes
import ScreenDispatch.Proofs.MappingOrder
import ScreenDispatch.Proofs.ViewTypes

/-!
Line feeds in arguments. White space apart no token has one, so that the name of a type has one only from a generic
argument, which is kept as it is written, and a mapping has none.
-/
set_option autoImplicit false

namespace ScreenDispatch

open Text

namespace Token

theorem token_one_line (pos : Nat) (cs : List Char) (t : Token) (present : t ∈ scanFrom pos cs) : OneLine t.value :=
  (scan_spelled pos cs t present).one_line

end Token

namespace Expr

open Token

def genericTexts : Expr String → List String
  | .member _ base _ => base.genericTexts
  | .specialization _ base arguments => base.genericTexts ++ arguments
  | _ => []

theorem unticked_one_line (name : String) (plain : OneLine name) : OneLine (unticked name) := by
  unfold unticked
  dsimp only
  split
  · intro feed
    rw [String.toList_ofList] at feed
    exact plain (List.mem_of_mem_tail (List.dropLast_subset _ feed))
  · exact plain

theorem contents_one_line (literal : String) (plain : OneLine literal) : OneLine (contents literal) := by
  intro feed
  rw [contents, String.toList_ofList] at feed
  exact plain (List.mem_of_mem_tail (List.dropLast_subset _ feed))

def Spelled (e : Expr String) : Prop :=
  ∀ name, e.typeName? = some name → (OneLine name ↔ ∀ argument ∈ e.genericTexts, OneLine argument)

theorem Chain.spelled {text : List Token → String} {before ts rest : List Token} {node e : Tree}
    (chain : Chain before node ts e rest) (plain : ∀ t ∈ ts, OneLine t.value) (owner : Spelled (node.map text)) :
    Spelled (e.map text) := by
  induction chain with
  | stop before node ts noDot => exact owner
  | member before node dot token more e rest symbol word onward ih =>
      have word : OneLine (unticked token.value) := unticked_one_line _ (plain token (by simp))
      refine ih (fun t inside => plain t (by simp [inside])) ?_
      intro longer behind
      obtain ⟨base, baseName, rfl⟩ := (member_name _ _ _ _).mp behind
      rw [Expr.map, genericTexts, ← owner base baseName]
      split
      · rfl
      · have dot : OneLine "." := by decide
        simp only [one_line_append, word, dot, and_true]
  | arguments before node opening xs more arguments e rest symbol generic typed onward ih =>
      refine ih (fun t inside => plain t (by simp [inside])) ?_
      intro longer behind
      obtain ⟨base, baseName, rfl⟩ := (specialization_name _ _ _ _).mp behind
      have opening : OneLine "<" := by decide
      have closing : OneLine ">" := by decide
      rw [Expr.map, genericTexts, List.forall_mem_append, ← owner base baseName]
      simp only [one_line_append, one_line_intercalate ", " (by decide), opening, closing, and_true]

theorem view_type_one_line (text viewType : String) (typed : (ofArgument text).viewType? = .ok (some viewType)) :
    OneLine viewType ↔ ∀ argument ∈ (ofArgument text).genericTexts, OneLine argument := by
  have named := (view_type_iff _ viewType).mp typed
  obtain ⟨tree, parsed, same⟩ := (read_ok_iff text _).mp (read_of_view_type text viewType typed)
  obtain ⟨run, node, more, whole, primary, chain⟩ := expression_node_chain _ tree [] parsed
  have plain : ∀ t ∈ scan text, OneLine t.value := token_one_line 0 text.toList
  rw [same] at named ⊢
  refine chain.spelled (fun t inside => plain t (by simp [whole, inside])) (fun owner ownerName => ?_) viewType named
  obtain ⟨t, rfl, rfl, -, -, rfl⟩ := primary.named owner ownerName
  exact iff_of_true (unticked_one_line t.value (plain t (by simp [whole]))) nofun

section Mappings

def StringFrom (run : List Token) (e : Tree) : Prop :=
  ∀ source value, e = .string source value → ∃ t ∈ run, value = contents t.value

theorem entry_nodes {α : Type} (entries : List (Expr α × Expr α)) :
    ∀ entry ∈ entries, entry.1 ∈ innerEntries entries ∧ entry.2 ∈ innerEntries entries := by
  induction entries with
  | nil => exact nofun
  | cons first rest ih =>
      obtain ⟨key, value⟩ := first
      refine List.forall_mem_cons.mpr ⟨by simp [innerEntries], fun entry behind => ?_⟩
      obtain ⟨left, right⟩ := ih entry behind
      simp [innerEntries, left, right]

theorem dictionary_strings (ts : List Token) (source : List Token) (entries : List (Tree × Tree))
    (read : reads .expression ts = some (.dictionary source entries, [])) :
    ∀ entry ∈ entries, StringFrom ts entry.1 ∧ StringFrom ts entry.2 := by
  intro entry inside
  obtain ⟨key, value⟩ := entry_nodes entries entry inside
  have found (e : Tree) (below : e ∈ innerEntries entries) : StringFrom ts e := by
    rintro own text rfl
    obtain ⟨t, among, -, -, same⟩ := literal_token ts _ read own text (List.mem_cons_of_mem _ below)
    exact ⟨t, among, same⟩
  exact ⟨found _ key, found _ value⟩

theorem leading_segment_one_line (value segment : String) (plain : OneLine value)
    (leading : leadingSegment value = some segment) : OneLine segment := by
  unfold leadingSegment at leading
  split at leading
  · rwa [← Option.some.inj leading]
  · cases leading
  · rw [← Option.some.inj leading, OneLine, String.toList_ofList]
    exact fun feed => plain (List.mem_of_mem_take feed)

theorem segment_one_line {text : List Token → String} {run : List Token} (plain : ∀ t ∈ run, OneLine t.value) (e : Tree)
    (found : StringFrom run e) (segment : String) (read : (e.map text).segment? = some segment) : OneLine segment := by
  cases e with
  | string source value =>
      obtain ⟨t, inside, rfl⟩ := found source value rfl
      exact leading_segment_one_line _ segment (contents_one_line t.value (plain t inside)) read
  | _ => cases read

theorem insert_entries {P : String × String → Prop} (m : Mapping) (all : ∀ entry ∈ m.entries, P entry)
    (key value : String) (new : P (key, value)) : ∀ entry ∈ (m.insert key value).entries, P entry := by
  unfold Mapping.insert
  split
  · intro entry inside
    obtain ⟨old, present, rfl⟩ := List.mem_map.mp inside
    split
    · exact new
    · exact all old present
  · exact List.forall_mem_append.mpr ⟨all, List.forall_mem_singleton.mpr new⟩

theorem of_list_entries {P : String × String → Prop} (entries : List (String × String))
    (all : ∀ entry ∈ entries, P entry) : ∀ entry ∈ (Mapping.ofList entries).entries, P entry := by
  induction entries using List.reverseRec with
  | nil => exact nofun
  | append_singleton others last ih =>
      obtain ⟨front, own⟩ := List.forall_mem_append.mp all
      obtain ⟨key, value⟩ := last
      rw [Mapping.of_list_append]
      exact insert_entries _ (ih front) key value (own _ List.mem_cons_self)

theorem mapping_one_line (text : String) (mapping : Mapping) (found : (ofArgument text).mapping? = some mapping) :
    ∀ entry ∈ mapping.entries, OneLine entry.1 ∧ OneLine entry.2 := by
  cases accepted : read text with
  | error error =>
      obtain ⟨-, count, kept, -⟩ := of_argument_opaque text ⟨error, accepted⟩
      cases kept.no_mapping.symm.trans found
  | ok e =>
      have same : ofArgument text = e := by rw [ofArgument, accepted]
      obtain ⟨tree, parsed, rfl⟩ := (read_ok_iff text e).mp accepted
      rw [same] at found
      cases tree with
      | dictionary source entries =>
          have strings := dictionary_strings (scan text) source entries parsed
          have plain : ∀ t ∈ scan text, OneLine t.value := token_one_line 0 text.toList
          obtain rfl := Option.some.inj found
          refine of_list_entries _ fun entry inside => ?_
          obtain ⟨pair, present, segments⟩ := List.mem_filterMap.mp inside
          rw [map_entries_eq] at present
          obtain ⟨⟨key, value⟩, member, rfl⟩ := List.mem_map.mp present
          obtain ⟨first, second⟩ := strings _ member
          split at segments
          · rename_i left right leftSegment rightSegment
            obtain rfl := Option.some.inj segments
            exact ⟨segment_one_line plain key first left leftSegment,
              segment_one_line plain value second right rightSegment⟩
          · cases segments
      | _ => cases found

end Mappings

end Expr

end ScreenDispatch
