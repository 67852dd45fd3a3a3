import ScreenDispatch.Markup.Scan

/-!
The pieces of what stands before the root element: comments, instructions, and the names, literals
and signs of a document type.
-/
set_option autoImplicit false

namespace ScreenDispatch.Markup

inductive Occurrence where
  | once | optional | zeroOrMore | oneOrMore
deriving DecidableEq, Repr

def Occurrence.ofSign? : Char → Option Occurrence
  | '?' => some .optional
  | '*' => some .zeroOrMore
  | '+' => some .oneOrMore
  | _ => none

-- A word is made of name characters but is no name; a hash name begins with a number sign.
inductive PrologPiece where
  | space
  | comment
  | instruction (i : Instruction)
  | rootStart
  | opening (keyword : String)
  | name (name : QualifiedName)
  | markedName
  | word
  | hashName (text : String)
  | literal (quote : Char) (cs : List Char)
  | percent
  | parameter
  | bracketOpen
  | bracketClose
  | groupOpen
  | groupClose (occurs : Occurrence)
  | comma
  | bar
  | conditional
  | close
deriving Repr

def endsName (c : Char) : Bool :=
  isSpace c || ['>', ')', ',', '|', '[', '%'].contains c

inductive NameStart where
  | plain (text : List Char)
  | prefixed (pfx text : List Char)
  | word

namespace NameStart

def push (c : Char) : NameStart → NameStart
  | plain text => plain (text ++ [c])
  | prefixed pfx text => prefixed pfx (text ++ [c])
  | word => word

def piece : NameStart → PrologPiece
  | plain text => .name ⟨none, String.ofList text⟩
  | prefixed pfx text => .name ⟨some (String.ofList pfx), String.ofList text⟩
  | word => .word

def isName : NameStart → Bool
  | word => false
  | _ => true

end NameStart

def scanNameRest (start : NameStart) (cs : List Char) : Scan PrologPiece (cs.length + 1) :=
  match cs with
  | [] => .ok ⟨start.piece, [], by simp⟩
  | c :: rest =>
    if isNameChar c then do return (← scanNameRest (start.push c) rest).widen (by simp)
    else if endsName c then .ok ⟨start.piece, c :: rest, by simp⟩
    else if c = ':' then
      match start, rest with
      | .plain _, [] => .error .cutOff
      | .plain text, d :: rest => do
        if isNameChar d then
          return (← scanNameRest (.prefixed text [d]) rest).widen (Nat.le_add_right _ 2)
        else return (← scanNameRest .word (d :: rest)).widen (Nat.le_add_right _ 1)
      | _, rest => do return (← scanNameRest .word rest).widen (Nat.le_add_right _ 1)
    else if (Occurrence.ofSign? c).isSome ∧ start.isName then
      .ok ⟨.markedName, rest, Nat.lt_succ_of_lt (Parsed.length_tail c rest)⟩
    else refuse (c :: rest)
termination_by cs.length

def isKeywordChar (c : Char) : Bool := c.isAlpha || c == '_'

def scanOpening (cs : List Char) : Scan PrologPiece cs.length :=
  match cs with
  | [] => .error .cutOff
  | '-' :: rest => do
    return ((← scanComment rest).map fun _ => .comment).widen (Nat.le_of_lt (Parsed.length_tail '-' rest))
  | '[' :: rest => .ok ⟨.conditional, rest, Parsed.length_tail '[' rest⟩
  | c :: rest =>
    let after := rest.dropWhile isKeywordChar
    have : after.length ≤ rest.length := (List.dropWhile_sublist _).length_le
    if !isKeywordChar c then refuse (c :: rest)
    else
      match after with
      | [] => .error .cutOff
      | ['%'] => .error .cutOff
      | d :: more =>
        if isSpace d ∨ (d = '%' ∧ !more.head?.any fun x => isSpace x || x == '%') then
          .ok ⟨.opening (String.ofList (c :: rest.takeWhile isKeywordChar)), d :: more,
            Nat.lt_succ_of_le this⟩
        else refuse (d :: more)

def scanLiteral (quote : Char) (cs : List Char) : Scan (List Char) cs.length :=
  match cs with
  | [] => .error .cutOff
  | c :: rest =>
    if c = quote then
      if rest.head?.all fun d => isSpace d || d == '>' || d == '%' || d == '[' then
        .ok ⟨[], rest, by simp⟩
      else refuse rest
    else if isAllowed c then do
      return ((← scanLiteral quote rest).map (c :: ·)).widen (by simp)
    else refuse (c :: rest)

def scanPercent (cs : List Char) : Scan PrologPiece (cs.length + 1) :=
  match cs with
  | [] => .error .cutOff
  | c :: rest =>
    if isSpace c ∨ c = '%' then .ok ⟨.percent, c :: rest, by simp⟩
    else do
      let name ← scanName (c :: rest)
      let p ← scanChar ';' name.rest
      return ⟨.parameter, p.rest, by grind⟩

def scanPound (cs : List Char) : Scan PrologPiece cs.length := do
  let name ← scanName cs
  if name.rest.head?.all fun c => isSpace c || [')', '>', '%', '|'].contains c then
    return name.map .hashName
  else refuse name.rest

def scanPrologPiece (cs : List Char) : Scan PrologPiece cs.length :=
  match cs with
  | [] => .error .cutOff
  | c :: rest =>
    if isSpace c then .ok ⟨.space, skipSpace rest, Nat.lt_succ_of_le (length_skip_space rest)⟩
    else if c = '"' ∨ c = '\'' then do
      return ((← scanLiteral c rest).map (.literal c)).widen (Nat.le_of_lt (Parsed.length_tail c rest))
    else if c = '<' then
      match rest with
      | [] => .error .cutOff
      | '!' :: more => do return (← scanOpening more).widen (Nat.le_of_lt (Parsed.length_tail_two c '!' more))
      | '?' :: more => do
        return ((← scanInstruction more).map .instruction).widen (Nat.le_of_lt (Parsed.length_tail_two c '?' more))
      | d :: more =>
        if isNameStart d ∨ d.toNat ≥ 0x80 then .ok ⟨.rootStart, d :: more, by simp⟩
        else refuse (d :: more)
    else if c = '%' then do return (← scanPercent rest).widen (Nat.le_refl (c :: rest).length)
    else if c = '#' then do
      return (← scanPound rest).widen (Nat.le_of_lt (Parsed.length_tail c rest))
    else if c = '[' then .ok ⟨.bracketOpen, rest, Parsed.length_tail c rest⟩
    else if c = ']' then
      match rest with
      | [']'] => .error .cutOff
      | ']' :: '>' :: more =>
        .ok ⟨.conditional, more, Nat.lt_trans (Parsed.length_tail_two ']' '>' more) (Parsed.length_tail c _)⟩
      | rest => .ok ⟨.bracketClose, rest, Parsed.length_tail c rest⟩
    else if c = '>' then .ok ⟨.close, rest, Parsed.length_tail c rest⟩
    else if c = ',' then .ok ⟨.comma, rest, Parsed.length_tail c rest⟩
    else if c = '|' then .ok ⟨.bar, rest, Parsed.length_tail c rest⟩
    else if c = '(' then .ok ⟨.groupOpen, rest, Parsed.length_tail c rest⟩
    else if c = ')' then
      match rest with
      | [] => .ok ⟨.groupClose .once, [], by simp⟩
      | d :: more =>
        match Occurrence.ofSign? d with
        | some occurs => .ok ⟨.groupClose occurs, more, Parsed.length_tail_two c d more⟩
        | none =>
          if isSpace d ∨ ['>', ',', '|', ')'].contains d then
            .ok ⟨.groupClose .once, d :: more, by simp⟩
          else refuse (d :: more)
    else if isNameStart c then do
      return (← scanNameRest (.plain [c]) rest).widen (Nat.le_refl (c :: rest).length)
    else if isNameChar c ∨ c = ':' then do
      return (← scanNameRest .word rest).widen (Nat.le_refl (c :: rest).length)
    else refuse (c :: rest)

end ScreenDispatch.Markup
