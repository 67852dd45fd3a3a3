import ScreenDispatch.Proofs.PrimaryNodes
import ScreenDispatch.Proofs.TypeText

/-!
The grammar of types, as a relation between tokens and what they stand for. Whatever is read as a type is one of the
grammar, as long as nothing in it is an effect: reading passes over effects behind parentheses, the grammar has none.
-/
set_option autoImplicit false

namespace ScreenDispatch.Expr

open Token Script

-- What tokens stand for in a type. A list of arguments tells each of them, without the brackets around the list.
inductive Category where
  | type | operand | element | elements | result | members | optionalArguments
  | arguments (runs : List (List Token))

inductive Derives : Category → List Token → Prop where
  | single {xs : List Token} (operand : Derives .operand xs) : Derives .type xs
  | joined {xs more : List Token} (and : Token) (symbol : and.isSymbol "&") (operand : Derives .operand xs)
      (onward : Derives .type more) : Derives .type (xs ++ and :: more)
  | prefixed {xs : List Token} (word : Token) (isPrefix : isTypePrefix word) (operand : Derives .operand xs) :
      Derives .operand (word :: xs)
  | named {arguments members marks : List Token} (name : Token) (ident : name.kind = .ident)
      (noPrefix : ¬ isTypePrefix name) (first : Derives .optionalArguments arguments)
      (behind : Derives .members members) (marked : ∀ t ∈ marks, isPostfixMark t) :
      Derives .operand (name :: (arguments ++ (members ++ marks)))
  | array {xs marks : List Token} (opening closing : Token) (opens : opening.isPunctuation "[")
      (closes : closing.isSymbol "]") (item : Derives .type xs) (marked : ∀ t ∈ marks, isPostfixMark t) :
      Derives .operand (opening :: (xs ++ closing :: marks))
  | dictionary {xs ys marks : List Token} (opening colon closing : Token) (opens : opening.isPunctuation "[")
      (divider : colon.isSymbol ":") (closes : closing.isSymbol "]") (key : Derives .type xs) (value : Derives .type ys)
      (marked : ∀ t ∈ marks, isPostfixMark t) :
      Derives .operand (opening :: (xs ++ colon :: (ys ++ closing :: marks)))
  | unit {result marks : List Token} (opening closing : Token) (opens : opening.isPunctuation "(")
      (closes : closing.isSymbol ")") (returned : Derives .result result) (marked : ∀ t ∈ marks, isPostfixMark t) :
      Derives .operand (opening :: closing :: (result ++ marks))
  | tuple {xs result marks : List Token} (opening closing : Token) (opens : opening.isPunctuation "(")
      (closes : closing.isSymbol ")") (inside : Derives .elements xs) (returned : Derives .result result)
      (marked : ∀ t ∈ marks, isPostfixMark t) :
      Derives .operand (opening :: (xs ++ closing :: (result ++ marks)))
  | noResult : Derives .result []
  | result {xs : List Token} (arrow : Token) (symbol : arrow.isSymbol "->") (returned : Derives .type xs) :
      Derives .result (arrow :: xs)
  | plain {xs : List Token} (item : Derives .type xs) : Derives .element xs
  | labelled {xs : List Token} (label colon : Token) (ident : label.kind = .ident) (divider : colon.isSymbol ":")
      (item : Derives .type xs) : Derives .element (label :: colon :: xs)
  | lastElement {xs : List Token} (item : Derives .element xs) : Derives .elements xs
  | nextElement {xs more : List Token} (comma : Token) (separator : comma.isSymbol ",") (item : Derives .element xs)
      (onward : Derives .elements more) : Derives .elements (xs ++ comma :: more)
  | noMember : Derives .members []
  | member {arguments more : List Token} (dot name : Token) (symbol : dot.isSymbol ".") (ident : name.kind = .ident)
      (first : Derives .optionalArguments arguments) (onward : Derives .members more) :
      Derives .members (dot :: name :: (arguments ++ more))
  | noArguments : Derives .optionalArguments []
  | bracketed {xs : List Token} {runs : List (List Token)} (opening closing : Token) (opens : opening.isSymbol "<")
      (closes : closing.isSymbol ">") (inside : Derives (.arguments runs) xs) :
      Derives .optionalArguments (opening :: (xs ++ [closing]))
  | lastArgument {xs : List Token} (item : Derives .type xs) : Derives (.arguments [xs]) xs
  | nextArgument {xs more : List Token} {runs : List (List Token)} (comma : Token) (separator : comma.isSymbol ",")
      (item : Derives .type xs) (onward : Derives (.arguments runs) more) :
      Derives (.arguments (xs :: runs)) (xs ++ comma :: more)

def Effectless (ts : List Token) : Prop := ∀ t ∈ ts, isEffect t = false

theorem effectless_append (xs ys : List Token) : Effectless (xs ++ ys) ↔ Effectless xs ∧ Effectless ys :=
  List.forall_mem_append

theorem effectless_cons (t : Token) (ts : List Token) : Effectless (t :: ts) ↔ isEffect t = false ∧ Effectless ts :=
  List.forall_mem_cons

def grammarConditions : Conditions where
  good
    | .type, run, _ => Effectless run → Derives .type run
    | .typeOperand, run, _ => Effectless run → Derives .operand run
    | .valueType, run, _ => Effectless run →
      run = [] ∨ ∃ colon xs, run = colon :: xs ∧ colon.isSymbol ":" ∧ Derives .type xs
    | .typeElements, run, _ => Effectless run → Derives .elements run
    | .functionResult, run, _ => Effectless run → Derives .result run
    | .memberTypes, run, _ => Effectless run → Derives .members run
    | .optionalArguments, run, _ => Effectless run → Derives .optionalArguments run
    | .typeArguments, run, runs => Effectless run →
      ∃ xs closing, run = xs ++ [closing] ∧ closing.isSymbol ">" ∧ Derives (.arguments runs) xs
    | .marks, run, _ => ∀ t ∈ run, isPostfixMark t
    | .effects, run, _ => ∀ t ∈ run, isEffect t
    | _, _, _ => True
  whole _ _ _ := True

theorem type_derived : typeScript.Ensures grammarConditions (grammarConditions.good .type) [] := by
  refine fun xs _ operand => ⟨fun and symbol more _ onward => fun plain => ?_, fun plain => .single (operand plain)⟩
  obtain ⟨front, later⟩ := (effectless_append _ _).mp plain
  rw [List.append_assoc]
  exact .joined and symbol (operand ((effectless_append _ _).mp front).1) (onward later)

theorem value_type_derived : valueTypeScript.Ensures grammarConditions (grammarConditions.good .valueType) [] :=
  ⟨fun colon divider xs _ value plain => .inr ⟨colon, xs, rfl, divider, value ((effectless_cons _ _).mp plain).2⟩,
    fun _ => .inl rfl⟩

theorem element_derived (before : List Token)
    (item : ∀ xs, Derives .type xs → Derives .element (before ++ xs)) :
    typeElement.Ensures grammarConditions (grammarConditions.good .typeElements) before := by
  intro xs _ type
  refine ⟨fun comma separator more _ onward => fun plain => ?_, fun plain => ?_⟩
  · obtain ⟨front, later⟩ := (effectless_append _ _).mp plain
    obtain ⟨first, -⟩ := (effectless_append _ _).mp front
    rw [List.append_assoc]
    exact .nextElement comma separator (item xs (type ((effectless_append _ _).mp first).2)) (onward later)
  · exact .lastElement (item xs (type ((effectless_append _ _).mp plain).2))

theorem type_elements_derived :
    typeElementsScript.Ensures grammarConditions (grammarConditions.good .typeElements) [] :=
  ⟨fun label colon ident divider =>
      element_derived [label, colon] fun _ type => .labelled label colon (by simpa using ident) divider type,
    element_derived [] fun _ type => .plain type⟩

theorem function_result_derived :
    functionResultScript.Ensures grammarConditions (grammarConditions.good .functionResult) [] := by
  intro effects _ all
  have none (plain : Effectless effects) : effects = [] := by
    refine List.eq_nil_iff_forall_not_mem.mpr fun t present => ?_
    have effect := all t present
    rw [plain t present] at effect
    cases effect
  refine ⟨fun arrow symbol xs _ type => fun plain => ?_, fun plain => ?_⟩
  · obtain ⟨front, later⟩ := (effectless_append _ _).mp plain
    have nothing := none ((effectless_append _ _).mp front).1
    subst nothing
    exact .result arrow symbol (type later)
  · have nothing := none plain
    subst nothing
    exact .noResult

theorem member_types_derived :
    memberTypesScript.Ensures grammarConditions (grammarConditions.good .memberTypes) [] := by
  refine ⟨fun dot name symbol ident arguments _ first more _ onward => fun plain => ?_, fun _ => .noMember⟩
  obtain ⟨front, later⟩ := (effectless_append _ _).mp plain
  have inside := ((effectless_append _ _).mp front).2
  rw [List.append_assoc]
  change Derives .members (dot :: name :: (arguments ++ more))
  exact .member dot name symbol (by simpa using ident) (first inside) (onward later)

theorem optional_arguments_derived :
    optionalArgumentsScript.Ensures grammarConditions (grammarConditions.good .optionalArguments) [] := by
  refine ⟨fun opening symbol run runs list => fun plain => ?_, fun _ => .noArguments⟩
  obtain ⟨xs, closing, rfl, closes, inside⟩ := list ((effectless_cons _ _).mp plain).2
  exact .bracketed opening closing symbol closes inside

theorem type_arguments_derived :
    typeArgumentsScript.Ensures grammarConditions (grammarConditions.good .typeArguments) [] := by
  intro xs _ type
  refine ⟨fun comma separator run runs list => fun plain => ?_, ⟨fun closing closes => fun plain => ?_, trivial⟩⟩
  · obtain ⟨front, later⟩ := (effectless_append _ _).mp plain
    obtain ⟨more, closing, rfl, closes, inside⟩ := list later
    refine ⟨xs ++ comma :: more, closing, by simp, closes, ?_⟩
    exact .nextArgument comma separator (type ((effectless_append _ _).mp front).1) inside
  · exact ⟨xs, closing, rfl, closes, .lastArgument (type ((effectless_append _ _).mp plain).1)⟩

theorem marks_derived : marksScript.Ensures grammarConditions (grammarConditions.good .marks) [] :=
  ⟨fun _ mark _ _ others => List.forall_mem_cons.mpr ⟨mark, others⟩, nofun⟩

theorem effects_derived : effectsScript.Ensures grammarConditions (grammarConditions.good .effects) [] :=
  ⟨fun _ effect _ _ others => List.forall_mem_cons.mpr ⟨effect, others⟩, nofun⟩

theorem result_marks_derived (opening closing : Token) (inside : List Token)
    (whole : ∀ result marks, Derives .result result → (∀ t ∈ marks, isPostfixMark t) →
      Effectless inside → Derives .operand (opening :: (inside ++ closing :: (result ++ marks)))) :
    resultMarks.Ensures grammarConditions (grammarConditions.good .typeOperand)
      ([opening] ++ inside ++ [closing]) := by
  intro result _ returned marks _ marked plain
  obtain ⟨front, -⟩ := (effectless_append _ _).mp plain
  obtain ⟨before, own⟩ := (effectless_append _ _).mp front
  obtain ⟨head, -⟩ := (effectless_append _ _).mp before
  have derived := whole result marks (returned own) marked ((effectless_append _ _).mp head).2
  simpa using derived

theorem type_operand_derived :
    typeOperandScript.Ensures grammarConditions (grammarConditions.good .typeOperand) [] := by
  intro t
  dsimp only [List.nil_append]
  split
  · rename_i word
    exact fun xs _ operand plain => .prefixed t word (operand ((effectless_cons _ _).mp plain).2)
  split
  · rename_i noPrefix ident
    intro arguments _ first members _ behind marks _ marked plain
    obtain ⟨front, -⟩ := (effectless_append _ _).mp plain
    obtain ⟨before, own⟩ := (effectless_append _ _).mp front
    have derived := Derives.named t ident noPrefix (first ((effectless_append _ _).mp before).2) (behind own) marked
    simpa using derived
  split
  · rename_i opens
    refine fun xs _ type value _ valued => ⟨fun closing closes marks _ marked plain => ?_, trivial⟩
    obtain ⟨front, -⟩ := (effectless_append _ _).mp plain
    obtain ⟨inside, -⟩ := (effectless_append _ _).mp front
    obtain ⟨before, behind⟩ := (effectless_append _ _).mp inside
    have item := type ((effectless_append _ _).mp before).2
    obtain rfl | ⟨colon, ys, rfl, divider, derived⟩ := valued behind
    · simpa using Derives.array t closing opens closes item marked
    · simpa using Derives.dictionary t colon closing opens divider closes item derived marked
  split
  · rename_i opens
    refine ⟨fun closing closes => ?_, fun xs _ elements => ⟨fun closing closes => ?_, trivial⟩⟩
    · exact result_marks_derived t closing [] fun result marks returned marked _ =>
        .unit t closing opens closes returned marked
    · exact result_marks_derived t closing xs fun result marks returned marked plain =>
        .tuple t closing opens closes (elements plain) returned marked
  · trivial

theorem reads_derived (p : Production) (ts : List Token) : ∀ value rest, reads p ts = some (value, rest) →
    grammarConditions.good p (taken ts rest) value := by
  induction p, ts using production_induction with
  | step p ts calls =>
      have meets : (script p).Calls (Meets grammarConditions) ts ts :=
        Script.Calls.imp (fun q us good => ⟨good, fun _ _ _ _ _ => trivial⟩) ts (script p) ts calls
      have ensured := reads_ensure grammarConditions p ts meets
      cases p with
      | type => exact ensured type_derived
      | typeOperand => exact ensured type_operand_derived
      | valueType => exact ensured value_type_derived
      | typeElements => exact ensured type_elements_derived
      | functionResult => exact ensured function_result_derived
      | memberTypes => exact ensured member_types_derived
      | optionalArguments => exact ensured optional_arguments_derived
      | typeArguments => exact ensured type_arguments_derived
      | marks => exact ensured marks_derived
      | effects => exact ensured effects_derived
      | _ => exact fun _ _ _ => trivial

end ScreenDispatch.Expr
