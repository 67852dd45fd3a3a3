import ScreenDispatch.Proofs.PrimaryNodes
import ScreenDispatch.Proofs.RejectedArguments
import ScreenDispatch.Proofs.TypeSpelling

/-!
View types. Along a chain of members and generic arguments the name of the type grows by a spelling, so the view
type that an argument names is the text of a type itself.
-/
set_option autoImplicit false

namespace ScreenDispatch.Expr

open Text Token

theorem view_type_iff (e : Expr String) (viewType : String) :
    e.viewType? = .ok (some viewType) ↔ e.typeName? = some viewType := by
  unfold viewType?
  split
  · rename_i source base
    rw [typeName?]
    cases base.typeName? <;> simp
  · simp

theorem unticked_scanned (source : List Char) (noTick : '\x60' ∉ source) (t : Token) (present : t ∈ scanFrom 0 source)
    (word : t.kind = .ident ∨ t.kind = .number) : unticked t.value = t.value := by
  have plain : t.value.toList.head? ≠ some '\x60' := by
    obtain ident | number := word
    · exact word_plain _ (scanned_word 0 source noTick t present ident)
    · exact number_plain _ (scanned_number 0 source t present number)
  have kept := unticked_plain t.value.toList plain
  rwa [String.ofList_toList] at kept

theorem primary_text (source : List Char) (noTick : '\x60' ∉ source) (before ts : List Token) (node : Tree)
    (primary : PrimaryNode before node) (whole : scanFrom 0 source = before ++ ts) (owner : String)
    (named : (node.map (textOf source)).typeName? = some owner) :
    takesArguments node ∧ isWord owner.toList ∧ isLiteralKeyword owner = false := by
  obtain ⟨t, rfl, rfl, ident, other, rfl⟩ := primary.named owner named
  have present : t ∈ scanFrom 0 source := by simp [whole]
  rw [unticked_scanned source noTick t present (.inl ident)]
  exact ⟨rfl, scanned_word 0 source noTick t present ident, other⟩

theorem member_spelling (source : List Char) (noTick : '\x60' ∉ source) (name : Token)
    (present : name ∈ scanFrom 0 source) (word : name.kind = .ident ∨ name.kind = .number) (generic : Bool)
    (tail : List Char) (other : name.value ≠ "self") (spelled : Spelling true tail) :
    Spelling generic ('.' :: (name.value.toList ++ tail)) := by
  obtain ident | number := word
  · have chars := scanned_word 0 source noTick name present ident
    exact .word generic _ tail chars (by rwa [String.ofList_toList]) spelled
  · exact .number (scanned_number 0 source name present number) spelled

theorem chain_spelling (source : List Char) (noTick : '\x60' ∉ source) (before ts rest : List Token) (node e : Tree)
    (chain : Chain before node ts e rest) (whole : scanFrom 0 source = before ++ ts) (viewType : String)
    (named : (e.map (textOf source)).typeName? = some viewType) :
    ∃ owner tail, (node.map (textOf source)).typeName? = some owner ∧ viewType = owner ++ String.ofList tail ∧
      Spelling (takesArguments node) tail := by
  -- What follows the last node is nothing; each node in front of it puts its own piece before what is spelled so far.
  induction chain with
  | stop before node ts noDot => exact ⟨viewType, [], named, String.append_empty.symm, .done _⟩
  | member before node dot name more e rest symbol word onward ih =>
      obtain ⟨longer, tail, memberName, rfl, spelled⟩ := ih (by simp [whole]) named
      have present : name ∈ scanFrom 0 source := by simp [whole]
      rw [unticked_scanned source noTick name present word] at memberName spelled
      obtain ⟨owner, ownerName, same⟩ := (member_name _ _ _ _).mp memberName
      by_cases self : name.value = "self"
      · rw [if_pos self] at same
        rw [takesArguments, self] at spelled
        exact ⟨owner, tail, ownerName, same ▸ rfl, spelled.loosen⟩
      · rw [if_neg self] at same
        rw [takesArguments, bne_iff_ne.mpr self] at spelled
        refine ⟨owner, _, ownerName, ?_, member_spelling source noTick name present word _ tail self spelled⟩
        rw [← same, ← String.toList_inj]
        simp
  | arguments before node opening xs more arguments e rest symbol generic typed onward ih =>
      obtain ⟨longer, tail, longerName, rfl, spelled⟩ := ih (by simp [whole]) named
      obtain ⟨owner, ownerName, same⟩ := (specialization_name _ _ _ _).mp longerName
      have texts := arguments_text source noTick (before ++ [opening]) (xs ++ more) more (by simp [whole]) arguments typed
      rw [generic]
      refine ⟨owner, _, ownerName, ?_, .arguments _ tail texts spelled⟩
      rw [← same, ← String.toList_inj]
      simp [argumentsText]

theorem type_text_of_read (text : String) (noTick : '\x60' ∉ text.toList) (e : Expr String)
    (accepted : read text = .ok e) (viewType : String) (named : e.typeName? = some viewType) :
    TypeText viewType.toList := by
  obtain ⟨tree, parsed, rfl⟩ := (read_ok_iff text e).mp accepted
  obtain ⟨run, node, more, whole, primary, chain⟩ := expression_node_chain _ tree [] parsed
  obtain ⟨owner, tail, ownerName, rfl, spelled⟩ :=
    chain_spelling text.toList noTick run more [] node tree chain whole viewType named
  obtain ⟨generic, word, other⟩ := primary_text text.toList noTick run more node primary whole owner ownerName
  rw [generic] at spelled
  rw [String.toList_append, String.toList_ofList]
  exact .named owner.toList tail word (by rwa [String.ofList_toList]) spelled

theorem read_of_view_type (text viewType : String) (typed : (ofArgument text).viewType? = .ok (some viewType)) :
    read text = .ok (ofArgument text) := by
  cases accepted : read text with
  | ok e => rw [ofArgument, accepted]
  | error error =>
      obtain ⟨_, count, kept, _⟩ := of_argument_opaque text ⟨error, accepted⟩
      rw [kept.view_type] at typed
      split at typed <;> cases typed

/-- The view type that an argument without backticks names is the text of a type reference to itself, with
`.self` behind it or not. -/
theorem view_type_names_itself (text viewType : String) (noTick : '\x60' ∉ text.toList)
    (typed : (ofArgument text).viewType? = .ok (some viewType)) :
    viewType ≠ "" ∧ Text.trimmed viewType = viewType ∧
      (∃ e, read viewType = .ok e ∧ e.viewType? = .ok (some viewType)) ∧
      ∃ e, read (viewType ++ ".self") = .ok e ∧ e.viewType? = .ok (some viewType) := by
  have named := type_text_of_read text noTick _ (read_of_view_type text viewType typed) viewType
    ((view_type_iff _ viewType).mp typed)
  refine ⟨fun empty => ?_, named.trimmed, ?_, ?_⟩
  · obtain ⟨c, rest, whole, _⟩ := named.head
    rw [empty] at whole
    cases whole
  · obtain ⟨e, accepted, name⟩ := named.read
    exact ⟨e, accepted, (view_type_iff e viewType).mpr name⟩
  · obtain ⟨e, accepted, name⟩ := named.read_self
    exact ⟨e, accepted, (view_type_iff e viewType).mpr name⟩

def crowdedType : String := "A . B< C,[D] >.self.1 .2"

def tidyType : String := "A.B<C, [D]>.1.2"

theorem crowded_type_names_itself :
    (ofArgument crowdedType).viewType? = .ok (some tidyType) ∧
      (∃ e, read tidyType = .ok e ∧ e.viewType? = .ok (some tidyType)) ∧
      ∃ e, read (tidyType ++ ".self") = .ok e ∧ e.viewType? = .ok (some tidyType) := by
  have typed : (ofArgument crowdedType).viewType? = .ok (some tidyType) := by cbv
  have named := view_type_names_itself crowdedType tidyType (by decide) typed
  exact ⟨typed, named.2.2.1, named.2.2.2⟩

end ScreenDispatch.Expr
