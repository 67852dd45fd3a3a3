import ScreenDispatch.Proofs.RelaidArguments

/-!
What the attributes of a case come to. The first attribute called `Screen` decides, by its first two arguments, and
every list of arguments has one outcome.
-/
set_option autoImplicit false

namespace ScreenDispatch

inductive Expr.Named {α : Type} : Expr α → Prop where
  | reference (source : α) (name : String) : Named (.reference source name)
  | member (source : α) {base : Expr α} (name : String) (inner : Named base) : Named (.member source base name)
  | specialization (source : α) {base : Expr α} (arguments : List α) (inner : Named base) :
      Named (.specialization source base arguments)

theorem Expr.type_of_named {e : Expr String} (named : e.Named) : ∃ viewType, e.typeName? = some viewType := by
  induction named with
  | reference source name => exact ⟨name, rfl⟩
  | member source name inner ih =>
      obtain ⟨owner, found⟩ := ih
      exact ⟨_, by rw [typeName?, found]; rfl⟩
  | specialization source arguments inner ih =>
      obtain ⟨owner, found⟩ := ih
      exact ⟨_, by rw [typeName?, found]; rfl⟩

theorem Expr.named_of_type (e : Expr String) (viewType : String) (found : e.typeName? = some viewType) : e.Named := by
  cases e with
  | reference source name => exact .reference source name
  | member source base name =>
      obtain ⟨owner, inner, -⟩ := Option.map_eq_some_iff.mp found
      exact .member source name (named_of_type base owner inner)
  | specialization source base arguments =>
      obtain ⟨owner, inner, -⟩ := Option.map_eq_some_iff.mp found
      exact .specialization source arguments (named_of_type base owner inner)
  | _ => cases found

theorem Expr.type_name_none_iff (e : Expr String) : e.typeName? = none ↔ ¬ e.Named := by
  constructor
  · intro missing named
    obtain ⟨viewType, found⟩ := type_of_named named
    rw [missing] at found
    cases found
  · intro other
    cases found : e.typeName? with
    | none => rfl
    | some viewType => exact absurd (named_of_type e viewType found) other

def Expr.isDictionary {α : Type} : Expr α → Bool
  | .dictionary _ _ => true
  | _ => false

inductive ComesTo (caseName : String) : List (Expr String) → Except ScreenError Screen → Prop where
  | inferred : ComesTo caseName [] (.ok ⟨inferredType caseName, .empty, true⟩)
  | mapped (source : String) (entries : List (Expr String × Expr String)) (others : List (Expr String)) :
      ComesTo caseName (.dictionary source entries :: others) (.ok ⟨inferredType caseName, .ofEntries entries, true⟩)
  | typed (first : Expr String) (viewType : String) (named : first.Named) (spelled : first.typeName? = some viewType) :
      ComesTo caseName [first] (.ok ⟨viewType, .empty, false⟩)
  | typedAndMapped (first : Expr String) (viewType source : String) (entries : List (Expr String × Expr String))
      (others : List (Expr String)) (named : first.Named) (spelled : first.typeName? = some viewType) :
      ComesTo caseName (first :: .dictionary source entries :: others) (.ok ⟨viewType, .ofEntries entries, false⟩)
  | invalidMapping (first second : Expr String) (others : List (Expr String)) (named : first.Named)
      (other : second.isDictionary = false) : ComesTo caseName (first :: second :: others) (.error .invalidMappingArgument)
  | unsupported (source : String) (base : Expr String) (others : List (Expr String)) (unnamed : ¬ base.Named) :
      ComesTo caseName (.member source base "self" :: others) (.error .unsupportedTypeExpression)
  | invalid (first : Expr String) (others : List (Expr String)) (other : first.isDictionary = false)
      (unnamed : ¬ first.Named) (unclaimed : first.claimsType = false) :
      ComesTo caseName (first :: others) (.error .invalidScreenAttribute)

theorem mapping_none_iff (e : Expr String) : e.mapping? = none ↔ e.isDictionary = false := by
  cases e with
  | dictionary source entries => exact ⟨nofun, nofun⟩
  | _ => exact ⟨fun _ => rfl, fun _ => rfl⟩

theorem Expr.Named.no_mapping {e : Expr String} (named : e.Named) : e.mapping? = none := by
  cases named <;> rfl

theorem outcome_typed (first : Expr String) (viewType : String) (named : first.Named)
    (spelled : first.typeName? = some viewType) (others : List (Expr String)) :
    ScreenShape.ofArguments (first :: others) =
      match others with
      | [] => .ok (.typed viewType)
      | second :: _ =>
        match second.mapping? with
        | some mapping => .ok (.typedAndMapped viewType mapping)
        | none => .error .invalidMappingArgument := by
  rw [ScreenShape.ofArguments, named.no_mapping, Expr.view_type_eq, spelled, if_neg (by simp)]
  rfl

theorem outcome_untyped (first : Expr String) (others : List (Expr String)) (other : first.isDictionary = false)
    (unnamed : ¬ first.Named) :
    ScreenShape.ofArguments (first :: others) =
      .error (if first.claimsType then .unsupportedTypeExpression else .invalidScreenAttribute) := by
  rw [ScreenShape.ofArguments, (mapping_none_iff first).mpr other, Expr.view_type_eq,
    (Expr.type_name_none_iff first).mpr unnamed]
  cases first.claimsType <;> rfl

def outcomeOf (caseName : String) (arguments : List (Expr String)) : Except ScreenError Screen :=
  (ScreenShape.ofArguments arguments).map (·.screen caseName)

theorem comes_to_outcome (caseName : String) (arguments : List (Expr String)) :
    ComesTo caseName arguments (outcomeOf caseName arguments) := by
  cases arguments with
  | nil => exact .inferred
  | cons first others =>
      by_cases dictionary : first.isDictionary
      · cases first with
        | dictionary source entries => exact .mapped source entries others
        | _ => cases dictionary
      have other : first.isDictionary = false := by simpa using dictionary
      by_cases named : first.Named
      · obtain ⟨viewType, spelled⟩ := Expr.type_of_named named
        rw [outcomeOf, outcome_typed first viewType named spelled others]
        cases others with
        | nil => exact .typed first viewType named spelled
        | cons second rest =>
            cases second with
            | dictionary source entries => exact .typedAndMapped first viewType source entries rest named spelled
            | _ => exact .invalidMapping first _ rest named rfl
      · rw [outcomeOf, outcome_untyped first others other named]
        cases claimed : first.claimsType with
        | true =>
            cases first with
            | member source base name =>
                obtain rfl : name = "self" := by simpa [Expr.claimsType] using claimed
                exact .unsupported source base others fun inner => named (.member source "self" inner)
            | _ => cases claimed
        | false => exact .invalid first others other named claimed

theorem outcome_of_comes_to (caseName : String) (arguments : List (Expr String)) (r : Except ScreenError Screen)
    (comes : ComesTo caseName arguments r) : outcomeOf caseName arguments = r := by
  cases comes with
  | inferred => rfl
  | mapped source entries others => rfl
  | typed first viewType named spelled => rw [outcomeOf, outcome_typed first viewType named spelled]; rfl
  | typedAndMapped first viewType source entries others named spelled =>
      rw [outcomeOf, outcome_typed first viewType named spelled]
      rfl
  | invalidMapping first second others named other =>
      obtain ⟨viewType, spelled⟩ := Expr.type_of_named named
      rw [outcomeOf, outcome_typed first viewType named spelled]
      dsimp only
      rw [(mapping_none_iff second).mpr other]
      rfl
  | unsupported source base others unnamed =>
      have outer : ¬ (Expr.member source base "self").Named := fun named => by
        cases named with
        | member source name inner => exact unnamed inner
      rw [outcomeOf, outcome_untyped _ others rfl outer]
      rfl
  | invalid first others other unnamed unclaimed =>
      rw [outcomeOf, outcome_untyped first others other unnamed, unclaimed]
      rfl

theorem comes_to_iff (caseName : String) (arguments : List (Expr String)) (r : Except ScreenError Screen) :
    ComesTo caseName arguments r ↔ outcomeOf caseName arguments = r := by
  constructor
  · exact outcome_of_comes_to caseName arguments r
  · rintro rfl
    exact comes_to_outcome caseName arguments

inductive ScreenArguments : List Attribute → List (Expr String) → Prop where
  | absent (attributes : List Attribute) (others : ∀ a ∈ attributes, a.name ≠ "Screen") : ScreenArguments attributes []
  | first (before after : List Attribute) (given : Attribute) (others : ∀ a ∈ before, a.name ≠ "Screen")
      (named : given.name = "Screen") : ScreenArguments (before ++ given :: after) given.arguments

theorem screen_arguments_exist (attributes : List Attribute) : ∃ arguments, ScreenArguments attributes arguments := by
  cases found : attributes.find? isScreenAttribute with
  | none =>
      refine ⟨[], .absent attributes fun a present named => ?_⟩
      exact List.find?_eq_none.mp found a present (by simp [isScreenAttribute, named])
  | some given =>
      obtain ⟨named, before, after, rfl, others⟩ := List.find?_eq_some_iff_append.mp found
      refine ⟨given.arguments, .first before after given (fun a present => ?_) (by simpa [isScreenAttribute] using named)⟩
      simpa [isScreenAttribute] using others a present

theorem resolve_eq (attributes : List Attribute) (caseName : String) (arguments : List (Expr String))
    (screen : ScreenArguments attributes arguments) : Screen.resolve attributes caseName = outcomeOf caseName arguments := by
  cases screen with
  | absent _ others =>
      have missing : screenAttribute? attributes = none := by
        refine List.find?_eq_none.mpr fun a present => ?_
        simpa [isScreenAttribute] using others a present
      rw [Screen.resolve, missing]
      rfl
  | first before after given others named =>
      have found : screenAttribute? (before ++ given :: after) = some given := by
        refine List.find?_eq_some_iff_append.mpr ⟨by simp [isScreenAttribute, named], before, after, rfl, ?_⟩
        intro a present
        simpa [isScreenAttribute] using others a present
      rw [Screen.resolve, found]
      rfl

-- All that counts of a list of arguments: the first two, or a dictionary at its beginning.
inductive AlikeInFront : List (Expr String) → List (Expr String) → Prop where
  | pair {arguments others : List (Expr String)} (same : arguments.take 2 = others.take 2) : AlikeInFront arguments others
  | dictionary (source : String) (entries : List (Expr String × Expr String)) (arguments others : List (Expr String)) :
      AlikeInFront (.dictionary source entries :: arguments) (.dictionary source entries :: others)

theorem shape_of_two (arguments : List (Expr String)) :
    ScreenShape.ofArguments (arguments.take 2) = ScreenShape.ofArguments arguments := by
  match arguments with
  | [] => rfl
  | [first] => rfl
  | first :: second :: others => rw [List.take_succ_cons, List.take_succ_cons, ScreenShape.ofArguments]; rfl

theorem outcome_alike (caseName : String) (arguments others : List (Expr String)) (alike : AlikeInFront arguments others) :
    outcomeOf caseName arguments = outcomeOf caseName others := by
  cases alike with
  | pair same => rw [outcomeOf, outcomeOf, ← shape_of_two arguments, same, shape_of_two]
  | dictionary source entries arguments others => rfl

/-- The first attribute called `Screen` decides about a case, by its first two arguments or by a dictionary that comes
first. What they come to is told by exactly one rule. -/
theorem first_screen_attribute_decides (caseName : String) :
    (∀ attributes, ∃ arguments, ScreenArguments attributes arguments) ∧
      (∀ attributes arguments, ScreenArguments attributes arguments →
        ∀ r, Screen.resolve attributes caseName = r ↔ ComesTo caseName arguments r) ∧
      ∀ attributes others arguments given, ScreenArguments attributes arguments → ScreenArguments others given →
        AlikeInFront arguments given → Screen.resolve attributes caseName = Screen.resolve others caseName := by
  refine ⟨screen_arguments_exist, fun attributes arguments screen r => ?_,
    fun attributes others arguments given screen other alike => ?_⟩
  · rw [resolve_eq attributes caseName arguments screen, comes_to_iff]
  · rw [resolve_eq attributes caseName arguments screen, resolve_eq others caseName given other,
      outcome_alike caseName arguments given alike]

def listEntries : List (Expr String × Expr String) := [(.string "\"id\"" "id", .string "\"key\"" "key")]

def listArguments : List (Expr String) :=
  [.member "List<Int>.self" (.specialization "List<Int>" (.reference "List" "List") ["Int"]) "self",
    .dictionary "[\"id\": \"key\"]" listEntries]

def crowdedScreen : Attribute := ⟨"Screen", listArguments ++ [.number "2"]⟩

def crowdedAttributes : List Attribute := [⟨"screen", [.number "1"]⟩, crowdedScreen, ⟨"Screen", []⟩]

theorem crowded_attributes_decided :
    Screen.resolve crowdedAttributes "items" = .ok ⟨"List<Int>", .ofList [("id", "key")], false⟩ ∧
      Screen.resolve crowdedAttributes "items" = Screen.resolve [⟨"Screen", listArguments⟩] "items" ∧
      Screen.resolve [⟨"Screen", [.member "().self" (.tuple "()" []) "self"]⟩] "items" =
        .error .unsupportedTypeExpression ∧
      Screen.resolve [⟨"Screen", [.implicitMember ".self" "self"]⟩] "items" = .error .invalidScreenAttribute := by
  obtain ⟨-, rule, alike⟩ := first_screen_attribute_decides "items"
  have crowded : ScreenArguments crowdedAttributes crowdedScreen.arguments :=
    .first [⟨"screen", [.number "1"]⟩] [⟨"Screen", []⟩] crowdedScreen (by simp) rfl
  have alone (arguments : List (Expr String)) : ScreenArguments [⟨"Screen", arguments⟩] arguments :=
    .first [] [] ⟨"Screen", arguments⟩ (by simp) rfl
  have mapped := (rule _ _ crowded _).mpr
    (.typedAndMapped _ "List<Int>" _ listEntries _ (.member _ _ (.specialization _ _ (.reference _ _))) (by cbv))
  refine ⟨mapped, alike _ _ _ _ crowded (alone _) (.pair rfl), ?_, ?_⟩
  · refine (rule _ _ (alone _) _).mpr (.unsupported _ _ _ fun named => ?_)
    cases named
  · refine (rule _ _ (alone _) _).mpr (.invalid _ _ rfl (fun named => ?_) rfl)
    cases named

end ScreenDispatch
