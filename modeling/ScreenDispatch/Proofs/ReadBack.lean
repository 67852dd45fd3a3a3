import ScreenDispatch.Proofs.FileLines
import ScreenDispatch.Proofs.LexemeBoundary

/-!
Reading extensions back from their lines. The name, the access level and the arms are found again, as long as the
names in the patterns are identifiers.
-/
set_option autoImplicit false

namespace ScreenDispatch

open Text (isIdentifier isIdentifierChar identifier_chars no_word_char)
open Token (take_while_all)

structure ShownArm where
  caseName : String
  parameters : List Parameter
  initializer : String
deriving DecidableEq

structure ShownExtension where
  typeName : String
  modifier : String
  arms : List ShownArm
deriving DecidableEq

def Arm.shown (policy : UnlabeledPolicy) (arm : Arm) : ShownArm :=
  ⟨arm.caseName, arm.parameters, arm.initializer policy⟩

def Extension.shown (policy : UnlabeledPolicy) (x : Extension) : ShownExtension :=
  ⟨x.typeName, x.modifier, x.arms.map (·.shown policy)⟩

section Reading

def behind (front text : String) : String := String.ofList (text.toList.drop front.toList.length)

def firstWord (cs : List Char) : String := String.ofList (cs.takeWhile isIdentifierChar)

def afterWord (cs : List Char) : List Char := cs.dropWhile isIdentifierChar

def readBinding (cs : List Char) : Parameter :=
  let rest := afterWord cs
  if rest.head? = some ':' then ⟨some (firstWord cs), firstWord (rest.drop ": let ".toList.length)⟩
  else ⟨none, firstWord (rest.drop 1)⟩

def readBindings (cs : List Char) : List Parameter :=
  match cs.splitOn ',' with
  | [] => []
  | first :: rest => readBinding first :: rest.map fun piece => readBinding (piece.drop 1)

def readPattern (cs : List Char) : String × List Parameter :=
  let name := firstWord (cs.drop 1)
  let rest := afterWord (cs.drop 1)
  if rest.isEmpty then (name, []) else (name, readBindings (rest.drop 1).dropLast)

def readArm (pattern initializer : String) : ShownArm :=
  let shown := readPattern (behind "case " pattern).toList.dropLast
  ⟨shown.1, shown.2, behind indent initializer⟩

def readArms : List String → List ShownArm
  | pattern :: initializer :: rest => readArm pattern initializer :: readArms rest
  | _ => []

def readHead (line : String) : String × String :=
  match modifiers.find? fun modifier => (modifier ++ "extension ").toList.isPrefixOf line.toList with
  | some modifier => (modifier, firstWord (behind (modifier ++ "extension ") line).toList)
  | none => ("", "")

def readExtension (lines : List String) : ShownExtension :=
  let head := readHead (lines.headD "")
  let switch := ((lines.drop 3).dropLast.dropLast).map (behind (indent ++ indent))
  ⟨head.2, head.1, readArms (switch.drop 1).dropLast⟩

end Reading

structure Parameter.Legible (p : Parameter) : Prop where
  label : ∀ label, p.label = some label → isIdentifier label.toList = true
  name : isIdentifier p.name.toList = true

structure Arm.Legible (arm : Arm) : Prop where
  name : isIdentifier arm.caseName.toList = true
  parameters : ∀ p ∈ arm.parameters, p.Legible

theorem behind_append (front rest : String) : behind front (front ++ rest) = rest := by
  rw [behind, String.toList_append, List.drop_left, String.ofList_toList]

section Words

variable (name : String) (rest : List Char) (identifier : isIdentifier name.toList = true)
  (stop : ∀ c, rest.head? = some c → isIdentifierChar c = false)

include identifier stop

theorem first_word : firstWord (name.toList ++ rest) = name := by
  rw [firstWord, take_while_all _ _ _ (identifier_chars _ identifier) stop, String.ofList_toList]

theorem after_word : afterWord (name.toList ++ rest) = rest := by
  have whole := List.takeWhile_append_dropWhile (p := isIdentifierChar) (l := name.toList ++ rest)
  rw [take_while_all _ _ _ (identifier_chars _ identifier) stop] at whole
  exact List.append_cancel_left whole

end Words

theorem read_binding (p : Parameter) (legible : p.Legible) : readBinding p.binding.toList = p := by
  obtain ⟨label, name⟩ := p
  have whole := first_word name [] legible.name (by simp)
  rw [List.append_nil] at whole
  cases label with
  | none =>
      have text : ("let " ++ name).toList = "let".toList ++ ' ' :: name.toList := by simp
      have blank : isIdentifierChar ' ' = false := by decide
      have rest := after_word "let" (' ' :: name.toList) (by decide) (by simpa using blank)
      simp only [Parameter.binding, readBinding, text, rest, List.head?_cons, List.drop_one, List.tail_cons, whole]
      rfl
  | some label =>
      have text : (label ++ ": let " ++ name).toList = label.toList ++ (": let ".toList ++ name.toList) := by simp
      have colon : isIdentifierChar ':' = false := by decide
      have stop : ∀ c, (": let ".toList ++ name.toList).head? = some c → isIdentifierChar c = false := by
        simpa using colon
      have identifier := legible.label label rfl
      have front := first_word label _ identifier stop
      have rest := after_word label _ identifier stop
      have marked : (": let ".toList ++ name.toList).head? = some ':' := by simp
      simp only [Parameter.binding, readBinding, text, front, rest, marked, if_pos, List.drop_left, whole]

theorem binding_without_comma (p : Parameter) (legible : p.Legible) : ',' ∉ p.binding.toList := by
  have name := no_word_char p.name.toList ',' (by decide) legible.name
  obtain ⟨label, _⟩ := p
  cases label with
  | none => simpa [Parameter.binding] using name
  | some label =>
      have front := no_word_char label.toList ',' (by decide) (legible.label label rfl)
      simpa [Parameter.binding, front] using name

theorem split_joined (first : String) (rest : List String) (plain : ∀ piece ∈ first :: rest, ',' ∉ piece.toList) :
    (String.intercalate ", " (first :: rest)).toList.splitOn ',' =
      first.toList :: rest.map (' ' :: ·.toList) := by
  induction rest generalizing first with
  | nil =>
      rw [String.intercalate_singleton, List.map_nil]
      exact List.splitOn_eq_singleton (plain first List.mem_cons_self)
  | cons next others ih =>
      obtain ⟨head, tail⟩ := List.forall_mem_cons.mp plain
      have text : (String.intercalate ", " (first :: next :: others)).toList =
          first.toList ++ ',' :: ' ' :: (String.intercalate ", " (next :: others)).toList := by
        simp [String.intercalate_cons_cons]
      rw [text, List.splitOn_append_cons_self, List.splitOn_eq_singleton head, List.splitOn_cons_eq_if_modifyHead,
        ih next tail]
      rfl

theorem read_bindings (first : Parameter) (rest : List Parameter) (legible : ∀ p ∈ first :: rest, p.Legible) :
    readBindings (String.intercalate ", " ((first :: rest).map Parameter.binding)).toList = first :: rest := by
  have plain : ∀ piece ∈ (first :: rest).map Parameter.binding, ',' ∉ piece.toList :=
    List.forall_mem_map.mpr fun p member => binding_without_comma p (legible p member)
  have others : rest.map (fun p => readBinding p.binding.toList) = rest := by
    rw [List.map_congr_left fun p member => read_binding p (legible p (List.mem_cons_of_mem _ member)), List.map_id']
  rw [List.map_cons] at plain
  rw [readBindings, List.map_cons, split_joined _ _ plain]
  simp only [read_binding first (legible first List.mem_cons_self), List.map_map, Function.comp_def, List.drop_one,
    List.tail_cons, others]

theorem read_pattern (arm : Arm) (legible : arm.Legible) :
    readPattern arm.pattern.toList = (arm.caseName, arm.parameters) := by
  cases listed : arm.parameters with
  | nil =>
      have text : arm.pattern.toList.drop 1 = arm.caseName.toList ++ [] := by simp [Arm.pattern, listed]
      have name := first_word arm.caseName [] legible.name (by simp)
      have rest := after_word arm.caseName [] legible.name (by simp)
      simp only [readPattern, text, name, rest, List.isEmpty_nil, if_pos]
  | cons first others =>
      let bindings := (String.intercalate ", " ((first :: others).map Parameter.binding)).toList
      have text : arm.pattern.toList.drop 1 = arm.caseName.toList ++ '(' :: (bindings ++ [')']) := by
        simp [Arm.pattern, listed, bindings]
      have bracket : isIdentifierChar '(' = false := by decide
      have stop : ∀ c, ('(' :: (bindings ++ [')'])).head? = some c → isIdentifierChar c = false := by
        simpa using bracket
      have name := first_word arm.caseName _ legible.name stop
      have rest := after_word arm.caseName _ legible.name stop
      have inner : readBindings bindings = first :: others := read_bindings first others (listed ▸ legible.parameters)
      simp [readPattern, text, name, rest, inner]

theorem read_arm (policy : UnlabeledPolicy) (arm : Arm) (legible : arm.Legible) :
    readArm ("case " ++ arm.pattern ++ ":") (indent ++ arm.initializer policy) = arm.shown policy := by
  have pattern : (arm.pattern ++ ":").toList.dropLast = arm.pattern.toList := by simp
  rw [readArm, String.append_assoc, behind_append, behind_append, pattern, read_pattern arm legible]
  rfl

theorem read_arms (policy : UnlabeledPolicy) (arms : List Arm) (legible : ∀ arm ∈ arms, arm.Legible) :
    readArms (arms.flatMap (·.lines policy)) = arms.map (·.shown policy) := by
  induction arms with
  | nil => rfl
  | cons arm rest ih =>
      obtain ⟨first, others⟩ := List.forall_mem_cons.mp legible
      rw [List.flatMap_cons, Arm.lines, List.map_cons, ← ih others, ← read_arm policy arm first]
      rfl

theorem read_head (modifier : String) (known : modifier ∈ modifiers) (name : String)
    (identifier : isIdentifier name.toList = true) :
    readHead (modifier ++ "extension " ++ name ++ ": View, ScreenMacros.Screens \x7b") = (modifier, name) := by
  have found : (modifiers.find? fun m => (m ++ "extension ").toList.isPrefixOf
      (modifier ++ "extension " ++ name ++ ": View, ScreenMacros.Screens \x7b").toList) = some modifier := by
    simp only [modifiers, AccessLevel.all, List.map_cons, List.map_nil, AccessLevel.name, List.mem_cons,
      List.not_mem_nil, or_false] at known
    rcases known with rfl | rfl | rfl | rfl | rfl <;>
      simp [modifiers, AccessLevel.all, AccessLevel.name, List.find?, List.isPrefixOf]
  have text : (name ++ ": View, ScreenMacros.Screens \x7b").toList =
      name.toList ++ ':' :: " View, ScreenMacros.Screens \x7b".toList := by simp
  have colon : isIdentifierChar ':' = false := by decide
  have word := first_word name (':' :: " View, ScreenMacros.Screens \x7b".toList) identifier (by simpa using colon)
  have rest : behind (modifier ++ "extension ")
      (modifier ++ "extension " ++ name ++ ": View, ScreenMacros.Screens \x7b") =
        name ++ ": View, ScreenMacros.Screens \x7b" := by
    rw [String.append_assoc, behind_append]
  rw [readHead, found]
  simp only [rest, text, word]

theorem read_extension (name modifier : String) (arms : List Arm) (policy : UnlabeledPolicy)
    (known : modifier ∈ modifiers) (identifier : isIdentifier name.toList = true)
    (legible : ∀ arm ∈ arms, arm.Legible) :
    readExtension (extensionLines name modifier (switchLines arms policy)) =
      ⟨name, modifier, arms.map (·.shown policy)⟩ := by
  have head : (extensionLines name modifier (switchLines arms policy)).headD "" =
      modifier ++ "extension " ++ name ++ ": View, ScreenMacros.Screens \x7b" := rfl
  have switch : (((extensionLines name modifier (switchLines arms policy)).drop 3).dropLast.dropLast).map
      (behind (indent ++ indent)) = switchLines arms policy := by
    simp [extensionLines, Function.comp_def, behind_append]
  have lines : ((switchLines arms policy).drop 1).dropLast = arms.flatMap (·.lines policy) := by
    simp [switchLines]
  simp only [readExtension, head, switch, lines, read_head modifier known name identifier,
    read_arms policy arms legible]

end ScreenDispatch
