import ScreenDispatch.Proofs.Rereading
import ScreenDispatch.Proofs.SelfAppended
import ScreenDispatch.Screen

/-!
Arguments that cannot be read. They are kept unparsed, behind as many members `self` as are written at the
end, and no screen comes of them.
-/
set_option autoImplicit false

namespace ScreenDispatch.Expr

open Token

theorem read_self_suffixed (text base : String) (suffixed : SelfSuffixed text.toList base.toList)
    (rejected : ∃ error, read text = .error error) : ∃ error, read base = .error error := by
  -- If the base were accepted, the text would be: it has the tokens of the base and a member behind them.
  rw [read_error_iff] at rejected ⊢
  intro tree parsed
  obtain ⟨dot, name, self, tokens⟩ := scan_self_suffixed text.toList base.toList suffixed
  obtain ⟨longer, accepted⟩ := expression_self self (scan base) tree parsed
  exact rejected longer (by rw [scan, tokens]; exact accepted)

-- A rejected text behind this many members `self`.
inductive Opaque : Nat → Expr String → Prop where
  | unparsed (text : String) (rejected : ∃ error, read text = .error error) : Opaque 0 (.unparsed text)
  | member (text : String) {count : Nat} {base : Expr String} (inner : Opaque count base) :
      Opaque (count + 1) (.member text base "self")

theorem Opaque.no_type {count : Nat} {e : Expr String} (kept : Opaque count e) : e.typeName? = none := by
  induction kept with
  | unparsed text rejected => rfl
  | member text inner ih => rw [typeName?, ih]; rfl

theorem Opaque.no_mapping {count : Nat} {e : Expr String} (kept : Opaque count e) : e.mapping? = none := by
  cases kept with
  | unparsed text rejected => rfl
  | member text inner => rfl

theorem Opaque.view_type {count : Nat} {e : Expr String} (kept : Opaque count e) :
    e.viewType? = if count = 0 then .ok none else .error .unsupportedTypeExpression := by
  cases kept with
  | unparsed text rejected => rfl
  | member text inner =>
      rw [viewType?, inner.no_type]
      rfl

theorem no_mapping_of_type {e : Expr String} {viewType : String} (typed : e.viewType? = .ok (some viewType)) :
    e.mapping? = none := by
  cases e with
  | dictionary source entries => cases typed
  | _ => rfl

theorem of_argument_self (text base : String) (rejected : ∃ error, read text = .error error)
    (suffixed : SelfSuffixed text.toList base.toList) : ofArgument text = .member text (ofArgument base) "self" := by
  obtain ⟨error, failed⟩ := rejected
  have cut := (self_base_iff _ _).mpr suffixed
  rw [ofArgument, failed]
  dsimp only
  split
  · rename_i found same
    rw [cut] at same
    rw [← Option.some.inj same, String.ofList_toList]
  · rename_i missing
    rw [cut] at missing
    cases missing

theorem of_argument_unparsed (text : String) (rejected : ∃ error, read text = .error error)
    (never : ∀ base : String, ¬ SelfSuffixed text.toList base.toList) : ofArgument text = .unparsed text := by
  obtain ⟨error, failed⟩ := rejected
  rw [ofArgument, failed]
  dsimp only
  split
  · rename_i base found
    have suffixed := (self_base_iff _ _).mp found
    exact absurd (by rwa [String.toList_ofList]) (never (String.ofList base))
  · rfl

theorem of_argument_opaque (text : String) (rejected : ∃ error, read text = .error error) :
    (ofArgument text).source = text ∧ ∃ count, Opaque count (ofArgument text) ∧
      (1 ≤ count ↔ ∃ base, SelfSuffixed text.toList base) := by
  by_cases ends : ∃ base, SelfSuffixed text.toList base
  -- The base is rejected as well, so what is kept of it is known by induction on its length.
  · obtain ⟨chars, cut⟩ := ends
    obtain ⟨base, rfl⟩ : ∃ base : String, chars = base.toList := ⟨String.ofList chars, String.toList_ofList.symm⟩
    have shorter := length_self_base ((self_base_iff _ _).mpr cut)
    obtain ⟨-, count, kept, -⟩ := of_argument_opaque base (read_self_suffixed text base cut rejected)
    rw [of_argument_self text base rejected cut]
    exact ⟨rfl, count + 1, .member text kept, fun _ => ⟨_, cut⟩, fun _ => Nat.le_add_left 1 count⟩
  · rw [of_argument_unparsed text rejected fun base suffixed => ends ⟨_, suffixed⟩]
    exact ⟨rfl, 0, .unparsed text rejected, fun some => absurd some (Nat.not_succ_le_zero 0), fun some => absurd some ends⟩
termination_by text.toList.length

/-- A text that is rejected names no view type and no mapping, wherever it stands in an attribute. -/
theorem rejected_argument_resolves_to_nothing (text : String) (rejected : ∃ error, read text = .error error) :
    (ofArgument text).source = text ∧
      ∃ count, Opaque count (ofArgument text) ∧ (1 ≤ count ↔ ∃ base, SelfSuffixed text.toList base) ∧
        (∀ viewType, (ofArgument text).viewType? ≠ .ok (some viewType)) ∧ (ofArgument text).mapping? = none ∧
        (∀ given others, given.arguments = ofArgument text :: others →
          ScreenShape.ofAttribute (some given) =
            .error (if 1 ≤ count then .unsupportedTypeExpression else .invalidScreenAttribute)) ∧
        ∀ given first viewType others, given.arguments = first :: ofArgument text :: others →
          first.viewType? = .ok (some viewType) →
          ScreenShape.ofAttribute (some given) = .error .invalidMappingArgument := by
  obtain ⟨source, count, kept, counted⟩ := of_argument_opaque text rejected
  have unmapped := kept.no_mapping
  have untyped := kept.view_type
  refine ⟨source, count, kept, counted, fun viewType typed => ?_, unmapped, fun given others same => ?_,
    fun given first viewType others same typed => ?_⟩
  · rw [untyped] at typed
    split at typed
    · cases typed
    · cases typed
  · rw [ScreenShape.ofAttribute, same, ScreenShape.ofArguments, unmapped]
    dsimp only
    rw [untyped]
    cases count with
    | zero => rfl
    | succ count => rfl
  · rw [ScreenShape.ofAttribute, same, ScreenShape.ofArguments, no_mapping_of_type typed]
    dsimp only
    rw [typed]
    dsimp only [bind, Except.bind]
    rw [unmapped]

def calledText : String := "f() .self"

theorem called_text_resolves_to_nothing :
    read calledText = .error (.unreadable calledText ⟨.trailingInput, some ⟨.punct, "(", 1, 2⟩⟩) ∧
      SelfSuffixed calledText.toList ['f', '(', ')'] ∧
      ScreenShape.ofAttribute (some ⟨"Screen", [ofArgument calledText]⟩) = .error .unsupportedTypeExpression ∧
      ScreenShape.ofAttribute (some ⟨"Screen", [.reference "A" "A", ofArgument calledText]⟩) =
        .error .invalidMappingArgument := by
  have failed : read calledText = .error (.unreadable calledText ⟨.trailingInput, some ⟨.punct, "(", 1, 2⟩⟩) := by
    cbv
  have whole : calledText.toList =
      ['f', '(', ')'] ++ ([' '] ++ '.' :: ([] ++ 's' :: 'e' :: 'l' :: 'f' :: [])) := by cbv
  have suffixed : SelfSuffixed calledText.toList ['f', '(', ')'] := by
    refine ⟨List.cons_ne_nil _ _, fun c last => ?_, [' '], [], [], whole, fun c inside => ?_, List.forall_mem_nil _,
      .inl rfl⟩
    · cases last
      decide
    · rw [List.mem_singleton.mp inside]
      decide
  obtain ⟨_, count, _, counted, _, _, first, second⟩ :=
    rejected_argument_resolves_to_nothing calledText ⟨_, failed⟩
  have alone := first ⟨"Screen", [ofArgument calledText]⟩ [] rfl
  rw [if_pos (counted.mpr ⟨_, suffixed⟩)] at alone
  exact ⟨failed, suffixed, alone,
    second ⟨"Screen", [.reference "A" "A", ofArgument calledText]⟩ _ "A" [] rfl rfl⟩

end ScreenDispatch.Expr
