import ScreenDispatch.Proofs.TypesRead
import ScreenDispatch.Proofs.ViewTypes

/-!
The sources that name a type. A name with members and generic arguments behind it is all that there is, and the name of
the type is made of their texts.
-/
set_option autoImplicit false

namespace ScreenDispatch.Expr

open Token Script

-- What stands behind a name, and what it adds to the name of the type. Generic arguments may come first if the last
-- node takes them.
inductive Segments (text : List Token → String) : Bool → List Token → String → Prop where
  | done (generic : Bool) : Segments text generic [] ""
  | member (generic : Bool) {more : List Token} {tail : String} (dot name : Token) (symbol : dot.isSymbol ".")
      (word : name.kind = .ident ∨ name.kind = .number)
      (onward : Segments text (unticked name.value != "self") more tail) :
      Segments text generic (dot :: name :: more)
        ((if unticked name.value = "self" then "" else "." ++ unticked name.value) ++ tail)
  | arguments {xs more : List Token} {runs : List (List Token)} {tail : String} (opening closing : Token)
      (opens : opening.isSymbol "<") (closes : closing.isSymbol ">") (inside : Derives (.arguments runs) xs)
      (onward : Segments text false more tail) :
      Segments text true (opening :: (xs ++ closing :: more))
        ("<" ++ String.intercalate ", " (runs.map text) ++ ">" ++ tail)

inductive NamesType (source : String) : List Token → String → Prop where
  | named {rest : List Token} {tail : String} (root : Token) (ident : root.kind = .ident)
      (other : isLiteralKeyword root.value = false) (behind : Segments (textOf source.toList) true rest tail) :
      NamesType source (root :: rest) (unticked root.value ++ tail)

theorem arguments_derived (xs more : List Token) (runs : List (List Token)) (plain : Effectless xs)
    (read : reads .typeArguments (xs ++ more) = some (runs, more)) :
    ∃ ys closing, xs = ys ++ [closing] ∧ closing.isSymbol ">" ∧ Derives (.arguments runs) ys := by
  have derived := reads_derived .typeArguments _ runs more read
  rw [taken_from] at derived
  exact derived plain

theorem chain_segments (text : List Token → String) (before ts rest : List Token) (node e : Tree)
    (chain : Chain before node ts e rest) (ended : rest = []) (plain : Effectless ts) (name : String)
    (named : (e.map text).typeName? = some name) :
    ∃ owner tail, (node.map text).typeName? = some owner ∧ name = owner ++ tail ∧
      Segments text (takesArguments node) ts tail := by
  induction chain with
  | stop before node ts noDot =>
      subst ended
      exact ⟨name, "", named, String.append_empty.symm, .done _⟩
  | member before node dot token more e rest symbol word onward ih =>
      have behind := ((effectless_cons _ _).mp ((effectless_cons _ _).mp plain).2).2
      obtain ⟨longer, tail, longerName, rfl, segments⟩ := ih ended behind named
      obtain ⟨owner, ownerName, rfl⟩ := (member_name _ _ _ _).mp longerName
      refine ⟨owner, _, ownerName, ?_, .member _ dot token symbol word segments⟩
      split <;> simp [String.append_assoc]
  | arguments before node opening xs more runs e rest symbol generic typed onward ih =>
      obtain ⟨inside, behind⟩ := (effectless_append _ _).mp plain
      obtain ⟨longer, tail, longerName, rfl, segments⟩ := ih ended behind named
      obtain ⟨owner, ownerName, rfl⟩ := (specialization_name _ _ _ _).mp longerName
      obtain ⟨ys, closing, rfl, closes, derived⟩ :=
        arguments_derived xs more runs ((effectless_cons _ _).mp inside).2 typed
      rw [generic]
      have all := Segments.arguments opening closing symbol closes derived segments
      refine ⟨owner, _, ownerName, ?_, by simpa using all⟩
      simp only [String.append_assoc]

theorem names_type_of_read (source : String) (plain : Effectless (scan source)) (e : Expr String)
    (accepted : read source = .ok e) (name : String) (named : e.typeName? = some name) :
    NamesType source (scan source) name := by
  obtain ⟨tree, parsed, rfl⟩ := (read_ok_iff source e).mp accepted
  obtain ⟨run, node, more, whole, primary, chain⟩ := expression_node_chain _ tree [] parsed
  rw [whole] at plain ⊢
  obtain ⟨owner, tail, ownerName, rfl, segments⟩ := chain_segments _ run more [] node tree chain rfl
    ((effectless_append _ _).mp plain).2 name named
  obtain ⟨t, rfl, rfl, ident, other, rfl⟩ := primary.named owner ownerName
  exact .named t ident other segments

theorem Segments.read {text : List Token → String} {generic : Bool} {ts : List Token} {tail : String}
    (segments : Segments text generic ts tail) (before : List Token) (node : Tree)
    (takes : takesArguments node = generic) (owner : String) (named : (node.map text).typeName? = some owner) :
    ∃ e, reads (.suffixes before node) ts = some (e, []) ∧ (e.map text).typeName? = some (owner ++ tail) := by
  induction segments generalizing before node owner with
  | done generic => exact ⟨node, suffixes_nil before node, by rw [named, String.append_empty]⟩
  | member generic dot name symbol word onward ih =>
      rw [suffixes_member before node dot name symbol word]
      obtain ⟨e, read, longer⟩ := ih (before ++ [dot, name]) (.member (before ++ [dot, name]) node (unticked name.value)) rfl _
        ((member_name _ _ _ _).mpr ⟨owner, named, rfl⟩)
      refine ⟨e, read, longer.trans (congrArg some ?_)⟩
      split <;> simp [String.append_assoc]
  | arguments opening closing opens closes inside onward ih =>
      rename_i xs more runs tail
      have list : reads .typeArguments ((xs ++ [closing]) ++ more) = some (runs, more) := by
        rw [List.append_assoc]
        exact derived_read _ xs inside closing more closes
      have whole := suffixes_arguments before node opening opens takes (xs ++ [closing]) more runs list
      rw [List.cons_append, List.append_assoc] at whole
      obtain ⟨e, read, longer⟩ := ih (before ++ opening :: (xs ++ [closing]))
        (.specialization (before ++ opening :: (xs ++ [closing])) node runs) rfl _
        ((specialization_name _ _ _ _).mpr ⟨owner, named, rfl⟩)
      refine ⟨e, whole.trans read, longer.trans (congrArg some ?_)⟩
      simp [String.append_assoc]

theorem Segments.no_operand {text : List Token → String} {generic : Bool} {ts : List Token} {tail : String}
    (segments : Segments text generic ts tail) : startsOperand ts = false := by
  have plain (t : Token) (more : List Token) (symbol : String) (found : t.isSymbol symbol)
      (other : symbol ∉ ["(", "["]) : startsOperand (t :: more) = false := by
    rw [Bool.eq_false_iff]
    intro starts
    have missed := operand_no_symbol symbol other (t :: more) [] starts
    exact Bool.false_ne_true (missed.symm.trans found)
  cases segments with
  | done generic => rfl
  | member generic dot name symbol word onward => exact plain dot _ "." symbol (by decide)
  | arguments opening closing opens closes inside onward => exact plain opening _ "<" opens (by decide)

theorem read_of_names_type (source name : String) (names : NamesType source (scan source) name) :
    ∃ e, read source = .ok e ∧ e.typeName? = some name := by
  generalize whole : scan source = ts at names
  obtain ⟨root, ident, other, behind⟩ := names
  rename_i rest tail
  have primary := reference_read root rest ident other behind.no_operand
  obtain ⟨tree, parsed, named⟩ := behind.read [root] (.reference [root] (unticked root.value)) rfl _ rfl
  refine ⟨tree.map (textOf source.toList), (read_ok_iff source _).mpr ⟨tree, ?_, rfl⟩, named⟩
  rw [whole, expression_from_primary _ rest _ primary, ← List.singleton_append, taken_from, parsed]

/-- A source without effects is read to an expression that names a type exactly if its tokens are a name with members
and generic arguments of the grammar behind it, and then the type is named by their texts. -/
theorem named_type_iff (source : String) (plain : ∀ t ∈ scan source, isEffect t = false) (name : String) :
    (∃ e, read source = .ok e ∧ e.typeName? = some name) ↔ NamesType source (scan source) name := by
  constructor
  · rintro ⟨e, accepted, named⟩
    exact names_type_of_read source plain e accepted name named
  · exact read_of_names_type source name

def nestedSource : String := "\x60A\x60 . B< [Int :any C&D?], (x: E) -> F >.self.1"

def nestedType : String := "A.B<[Int :any C&D?], (x: E) -> F>.1"

theorem nested_source_names_type :
    (∀ t ∈ scan nestedSource, isEffect t = false) ∧ NamesType nestedSource (scan nestedSource) nestedType := by
  have plain : (scan nestedSource).all (!isEffect ·) = true := by cbv
  have effectless : ∀ t ∈ scan nestedSource, isEffect t = false := by simpa using plain
  have named : (ofArgument nestedSource).typeName? = some nestedType := by cbv
  have accepted := read_of_view_type nestedSource nestedType ((view_type_iff _ _).mpr named)
  exact ⟨effectless, (named_type_iff nestedSource effectless nestedType).mp ⟨_, accepted, named⟩⟩

end ScreenDispatch.Expr
