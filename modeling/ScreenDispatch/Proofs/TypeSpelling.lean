import ScreenDispatch.Expr.TypeName
import ScreenDispatch.Proofs.Rereading
import ScreenDispatch.Proofs.Stretch
import ScreenDispatch.Proofs.SuffixChain
import ScreenDispatch.Proofs.TypeText

/-!
The spelling of a type name. A name with its members and generic arguments, written without white space around
the dots, is read to a type of just this name. Two members of digits in a row are one number when they are read
again, but the name stays the same.
-/
set_option autoImplicit false

namespace ScreenDispatch.Expr

open Text Token Script

inductive Spelling : Bool → List Char → Prop where
  | done (generic : Bool) : Spelling generic []
  | word (generic : Bool) (name tail : List Char) (word : isWord name) (other : String.ofList name ≠ "self")
      (onward : Spelling true tail) : Spelling generic ('.' :: (name ++ tail))
  | digits (generic : Bool) (run tail : List Char) (digits : isDigitRun run) (onward : Spelling true tail) :
      Spelling generic ('.' :: (run ++ tail))
  | arguments (arguments : List String) (tail : List Char) (texts : ArgumentTexts arguments)
      (onward : Spelling false tail) : Spelling true ('<' :: ((argumentsText arguments).toList ++ tail))

theorem Spelling.loosen {generic : Bool} {s : List Char} (spelled : Spelling false s) : Spelling generic s := by
  cases spelled with
  | done => exact .done generic
  | word _ name tail word other onward => exact .word generic name tail word other onward
  | digits _ run tail digits onward => exact .digits generic run tail digits onward

theorem Spelling.number {generic : Bool} {number tail : List Char} (shape : IsNumber number)
    (onward : Spelling true tail) : Spelling generic ('.' :: (number ++ tail)) := by
  obtain run | ⟨whole, places, rfl, first, second⟩ := shape
  · exact .digits generic number tail run onward
  · rw [List.append_assoc]
    exact .digits generic whole _ first (.digits true places tail second onward)

theorem Spelling.head {generic : Bool} {s : List Char} (spelled : Spelling generic s) (c : Char)
    (first : s.head? = some c) : c = '.' ∨ c = '<' := by
  cases spelled with
  | done => cases first
  | word | digits =>
      cases first
      exact .inl rfl
  | arguments =>
      cases first
      exact .inr rfl

def SpellsOut (generic : Bool) (s : List Char) : Prop :=
  ∀ (front behind : List Char) (before : List Token) (node : Tree) (owner : String),
    (generic → takesArguments node) → (node.map (textOf (front ++ (s ++ behind)))).typeName? = some owner →
    ∃ longer e, (∀ more, reads (.suffixes before node) (scanFrom front.length s ++ more) =
        reads (.suffixes longer e) more) ∧
      (e.map (textOf (front ++ (s ++ behind)))).typeName? = some (owner ++ String.ofList s)

theorem unticked_plain (name : List Char) (plain : name.head? ≠ some '\x60') :
    unticked (String.ofList name) = String.ofList name := by
  unfold unticked
  rw [String.toList_ofList]
  dsimp only
  rw [if_neg]
  simp [plain]

theorem member_spells (generic : Bool) (name tail : List Char) (kind : TokenKind) (word : kind = .ident ∨ kind = .number)
    (scanned : ∀ pos, scanFrom pos (name ++ tail) =
      ⟨kind, String.ofList name, pos, pos + name.length⟩ :: scanFrom (pos + name.length) tail)
    (plain : name.head? ≠ some '\x60') (other : String.ofList name ≠ "self") (onward : SpellsOut true tail) :
    SpellsOut generic ('.' :: (name ++ tail)) := by
  intro front behind before node owner _ named
  obtain ⟨dot, dotKind, dotValue, dotScanned⟩ := scan_sign front.length '.' (name ++ tail) (by decide)
  have place : front.length + 1 + name.length = (front ++ '.' :: name).length := by
    rw [List.length_append, List.length_cons]
    omega
  have source : front ++ ('.' :: (name ++ tail) ++ behind) = front ++ '.' :: name ++ (tail ++ behind) := by simp
  rw [source] at named ⊢
  have memberName (run : List Token) :
      ((Expr.member run node (String.ofList name)).map (textOf (front ++ '.' :: name ++ (tail ++ behind)))).typeName? =
        some (owner ++ "." ++ String.ofList name) := by
    rw [Expr.map, typeName?, named, Option.map_some, if_neg other]
  have generic (run : List Token) : takesArguments (.member run node (String.ofList name)) := bne_iff_ne.mpr other
  obtain ⟨longer, e, read, longerName⟩ :=
    onward (front ++ '.' :: name) behind _ _ _ (fun _ => generic (before ++ [dot, _])) (memberName _)
  refine ⟨longer, e, fun more => ?_, ?_⟩
  · rw [dotScanned, scanned, place, List.cons_append, List.cons_append,
      suffixes_member before node dot _ (by simp [isSymbol, dotKind, dotValue]) word, unticked_plain name plain, read]
  · rw [longerName, Option.some_inj, ← String.toList_inj]
    simp

theorem arguments_spell (arguments : List String) (tail : List Char) (texts : ArgumentTexts arguments)
    (onward : SpellsOut false tail) : SpellsOut true ('<' :: ((argumentsText arguments).toList ++ tail)) := by
  intro front behind before node owner generic named
  obtain ⟨opening, kind, value, openingScanned⟩ :=
    scan_sign front.length '<' ((argumentsText arguments).toList ++ tail) (by decide)
  obtain ⟨xs, runs, scanned, typed, runTexts⟩ :=
    arguments_read arguments texts (front ++ ['<']) tail (tail ++ behind)
  have place : front.length + 1 = (front ++ ['<']).length := by rw [List.length_append, List.length_singleton]
  have source : front ++ ('<' :: ((argumentsText arguments).toList ++ tail) ++ behind) =
      front ++ ['<'] ++ (argumentsText arguments).toList ++ (tail ++ behind) := by simp
  rw [source] at named ⊢
  rw [← List.append_assoc] at runTexts
  have longerName : ((Expr.specialization (before ++ opening :: xs) node runs).map
      (textOf (front ++ ['<'] ++ (argumentsText arguments).toList ++ (tail ++ behind)))).typeName? =
        some (owner ++ "<" ++ argumentsText arguments) := by
    rw [Expr.map, typeName?, named, Option.map_some, runTexts, argumentsText, String.append_assoc]
  obtain ⟨longer, e, read, finalName⟩ :=
    onward (front ++ ['<'] ++ (argumentsText arguments).toList) behind (before ++ opening :: xs) _ _
      (fun none => absurd none Bool.false_ne_true) longerName
  refine ⟨longer, e, fun more => ?_, ?_⟩
  · rw [openingScanned, place, scanned, ← List.length_append, ← List.cons_append, List.append_assoc,
      suffixes_arguments before node opening (by simp [isSymbol, kind, value]) (generic rfl) xs _ runs (typed _), read]
  · rw [finalName, Option.some_inj, ← String.toList_inj]
    simp

theorem number_spells (generic : Bool) (name tail : List Char) (number : IsNumber name)
    (scanned : ∀ pos, scanFrom pos (name ++ tail) =
      ⟨.number, String.ofList name, pos, pos + name.length⟩ :: scanFrom (pos + name.length) tail)
    (onward : SpellsOut true tail) : SpellsOut generic ('.' :: (name ++ tail)) := by
  refine member_spells generic name tail .number (.inr rfl) scanned (number_plain name number) (fun word => ?_) onward
  obtain ⟨d, rest, rfl, digit⟩ := number_head name number
  cases String.ofList_injective word
  exact absurd digit (by decide)

theorem Spelling.no_word_char {generic : Bool} {s : List Char} (spelled : Spelling generic s) (c : Char)
    (first : s.head? = some c) : isIdentifierChar c = false ∧ isNumberChar c = false := by
  obtain rfl | rfl := spelled.head c first <;> decide

-- A run of digits in front of the text is carried along, because it is one number with digits behind the next dot.
theorem spelled_out {generic : Bool} {s : List Char} (spelled : Spelling generic s) :
    SpellsOut generic s ∧ ∀ other run, isDigitRun run → SpellsOut true s → SpellsOut other ('.' :: (run ++ s)) := by
  have alone (s : List Char) (spelled : Spelling true s)
      (noFraction : ∀ d rest, s = '.' :: d :: rest → isDigit d = false) (other : Bool) (run : List Char)
      (digits : isDigitRun run) (onward : SpellsOut true s) : SpellsOut other ('.' :: (run ++ s)) := by
    refine number_spells other run s (.inl digits) (fun pos => ?_) onward
    exact scan_digit_run pos run s digits (fun c first => (spelled.no_word_char c first).2) noFraction
  induction spelled with
  | done generic =>
      refine ⟨fun front behind before node owner _ named => ⟨before, node, fun more => ?_, ?_⟩,
        alone [] (.done true) fun d rest same => by cases same⟩
      · rw [scanFrom, List.nil_append]
      · rw [named, String.ofList_nil, String.append_empty]
  | word generic name tail word other onward ih =>
      refine ⟨member_spells generic name tail .ident (.inl rfl) (fun pos => ?_) (word_plain name word) other ih.1,
        alone _ (.word true name tail word other onward) fun d more same => ?_⟩
      · exact scan_word pos name tail word fun c first => (onward.no_word_char c first).1
      · obtain ⟨c, rest, rfl, start⟩ := word_head name word
        cases same
        exact starts_word_no_digit _ start
  | digits generic run tail digits onward ih =>
      refine ⟨ih.2 generic run digits ih.1, fun other whole first _ => ?_⟩
      have joined := number_spells other (whole ++ '.' :: run) tail (.inr ⟨whole, run, rfl, first, digits⟩)
        (fun pos => scan_fraction pos whole run tail first digits fun c head => (onward.no_word_char c head).2) ih.1
      simpa using joined
  | arguments arguments tail texts onward ih =>
      exact ⟨arguments_spell arguments tail texts ih.1,
        alone _ (.arguments arguments tail texts onward) fun d rest same => by cases same⟩

theorem Spelling.solid {generic : Bool} {s : List Char} (spelled : Spelling generic s) : Solid s := by
  have member (name tail : List Char) (chars : ∀ c ∈ name, isBlank c = false) (onward : Solid tail) :
      Solid ('.' :: (name ++ tail)) :=
    solid_append ('.' :: name) tail onward fun _ => solid_of_all _ (List.forall_mem_cons.mpr ⟨by decide, chars⟩)
  induction spelled with
  | done => exact nofun
  | word generic name tail word other onward ih => exact member name tail (word_solid name word) ih
  | digits generic run tail digits onward ih => exact member run tail (digit_run_solid run digits) ih
  | arguments arguments tail texts onward ih =>
      refine solid_append ('<' :: (argumentsText arguments).toList) tail ih fun _ c last => ?_
      rw [argumentsText, String.toList_append, ← List.cons_append, List.getLast?_append] at last
      cases last
      decide

theorem Spelling.no_operand {generic : Bool} {s : List Char} (spelled : Spelling generic s) (pos : Nat)
    (more : List Token) (bare : startsOperand more = false) : startsOperand (scanFrom pos s ++ more) = false := by
  cases s with
  | nil => rwa [scanFrom]
  | cons c rest =>
      have head := spelled.head c rfl
      obtain ⟨t, kind, value, scanned⟩ := scan_sign pos c rest (by obtain rfl | rfl := head <;> decide)
      rw [scanned, List.cons_append, startsOperand, kind]
      obtain rfl | rfl := head <;> simp [isPunctuation, value]

theorem reference_read (t : Token) (rest : List Token) (ident : t.kind = .ident)
    (other : isLiteralKeyword t.value = false) (bare : startsOperand rest = false) :
    reads .primary (t :: rest) = some (.reference [t] (unticked t.value), rest) := by
  have plain : (plainName t).run (t :: rest) rest = some (.reference [t] (unticked t.value), rest) := by
    rw [plainName, if_neg (by simp [other]), run_done]
  rw [reads_eq]
  change primaryScript.run _ _ = _
  rw [primaryScript, run_take, ident]
  dsimp only
  split
  · rw [run_if_type, if_neg (by simp [bare]), plain]
  · exact plain

inductive TypeText : List Char → Prop where
  | named (root tail : List Char) (word : isWord root) (other : isLiteralKeyword (String.ofList root) = false)
      (spelled : Spelling true tail) : TypeText (root ++ tail)

theorem TypeText.expression {text : List Char} (named : TypeText text) (behind : List Char) :
    ∃ before e, (∀ more, startsOperand more = false →
        reads .expression (scanFrom 0 text ++ more) = reads (.suffixes before e) more) ∧
      (e.map (textOf (text ++ behind))).typeName? = some (String.ofList text) := by
  obtain ⟨root, tail, word, other, spelled⟩ := named
  have scanned := scan_word 0 root tail word fun c first => (spelled.no_word_char c first).1
  rw [Nat.zero_add] at scanned
  have rootName (run : List Token) : ((Expr.reference run (String.ofList root)).map
      (textOf (root ++ (tail ++ behind)))).typeName? = some (String.ofList root) := rfl
  obtain ⟨longer, e, read, name⟩ := (spelled_out spelled).1 root behind _ _ _ (fun _ => rfl) (rootName [_])
  refine ⟨longer, e, fun more bare => ?_, ?_⟩
  · have primary := reference_read ⟨.ident, String.ofList root, 0, root.length⟩ _ rfl other
      (spelled.no_operand root.length more bare)
    rw [unticked_plain root (word_plain root word)] at primary
    rw [scanned, List.cons_append, expression_from_primary _ _ _ primary, ← List.singleton_append, taken_from]
    exact read more
  · rw [List.append_assoc, name, String.ofList_append]

theorem TypeText.head {text : List Char} (named : TypeText text) : ∃ c rest, text = c :: rest ∧ startsWord c := by
  obtain ⟨root, tail, word, other, spelled⟩ := named
  obtain ⟨c, rest, rfl, start⟩ := word_head root word
  exact ⟨c, rest ++ tail, rfl, start⟩

theorem TypeText.solid {text : List Char} (named : TypeText text) : Solid text := by
  obtain ⟨root, tail, word, other, spelled⟩ := named
  exact solid_append root tail spelled.solid fun _ => solid_of_all root (word_solid root word)

theorem TypeText.trimmed {text : String} (named : TypeText text.toList) : Text.trimmed text = text := by
  obtain ⟨c, rest, whole, start⟩ := named.head
  have left : trimLeft text.toList = text.toList := drop_no_blank _ fun d first => by
    rw [whole] at first
    cases first
    exact starts_word_no_blank c start
  have right : trimRight text.toList = text.toList := by
    rw [trimRight, drop_no_blank _ fun d last => named.solid d (by rwa [List.head?_reverse] at last),
      List.reverse_reverse]
  rw [Text.trimmed, trim, left, right, String.ofList_toList]

theorem TypeText.read {text : String} (named : TypeText text.toList) :
    ∃ e, read text = .ok e ∧ e.typeName? = some text := by
  obtain ⟨before, e, parsed, name⟩ := named.expression []
  have whole := parsed [] rfl
  rw [List.append_nil, suffixes_nil] at whole
  rw [List.append_nil, String.ofList_toList] at name
  exact ⟨_, (read_ok_iff text _).mpr ⟨e, whole, rfl⟩, name⟩

theorem TypeText.read_self {text : String} (named : TypeText text.toList) :
    ∃ e, Expr.read (text ++ ".self") = .ok e ∧ e.typeName? = some text := by
  obtain ⟨c, rest, same, _⟩ := named.head
  have suffixed : SelfSuffixed (text ++ ".self").toList text.toList :=
    ⟨by simp [same], named.solid, [], [], [], String.toList_append, nofun, nofun, .inl rfl⟩
  obtain ⟨dot, name, self, scanned⟩ := scan_self_suffixed _ _ suffixed
  obtain ⟨before, e, parsed, owner⟩ := named.expression ".self".toList
  have whole := parsed [dot, name] (by simp [startsOperand, isPunctuation, self.dotKind, self.dotValue])
  rw [suffixes_member before e dot name ((dot_symbol self ".").mpr rfl) (.inl self.nameKind), suffixes_nil,
    self.nameValue] at whole
  refine ⟨_, (read_ok_iff _ _).mpr ⟨_, by rw [scan, scanned, whole], rfl⟩, ?_⟩
  rw [← String.toList_append, String.ofList_toList] at owner
  rw [Expr.map, typeName?, owner]
  rfl

end ScreenDispatch.Expr
