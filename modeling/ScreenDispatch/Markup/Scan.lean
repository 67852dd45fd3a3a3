import ScreenDispatch.Markup.Chars
import ScreenDispatch.Parsed

/-!
Scanning the parts of a document that have a shape of their own: names, references, tags,
comments, instructions, sections and runs of text. A scan that fails hands back what was left
from the offending character on, or says that the input ended inside the part.
-/
set_option autoImplicit false

namespace ScreenDispatch.Markup

inductive ScanError where
  | invalid (rest : List Char)
  | cutOff
  | openSection (rest : List Char)
deriving DecidableEq, Repr

abbrev Scan (α : Type) (bound : Nat) := Except ScanError (Parsed Char α bound)

def skipSpace (cs : List Char) : List Char := cs.dropWhile isSpace

theorem length_skip_space (cs : List Char) : (skipSpace cs).length ≤ cs.length :=
  (List.dropWhile_sublist _).length_le

grind_pattern length_skip_space => skipSpace cs

def afterName (cs : List Char) : List Char := cs.dropWhile isNameChar

theorem length_after_name (cs : List Char) : (afterName cs).length ≤ cs.length :=
  (List.dropWhile_sublist _).length_le

grind_pattern length_after_name => afterName cs

def refuse {α : Type} (cs : List Char) : Except ScanError α :=
  match cs with
  | [] => .error .cutOff
  | _ :: _ => .error (.invalid cs)

def scanChar (wanted : Char) (cs : List Char) : Scan Unit cs.length :=
  match cs with
  | [] => .error .cutOff
  | c :: rest => if c = wanted then .ok ⟨(), rest, by simp⟩ else refuse (c :: rest)

def scanName (cs : List Char) : Scan String cs.length :=
  match cs with
  | [] => .error .cutOff
  | c :: rest =>
    if isNameStart c then
      .ok ⟨String.ofList (c :: rest.takeWhile isNameChar), afterName rest, by grind⟩
    else refuse (c :: rest)

structure QualifiedName where
  pfx : Option String
  base : String
deriving DecidableEq, Repr

def QualifiedName.text (q : QualifiedName) : String :=
  match q.pfx with
  | none => q.base
  | some pfx => pfx ++ ":" ++ q.base

def scanQualifiedName (cs : List Char) : Scan QualifiedName cs.length := do
  let first ← scanName cs
  match scanChar ':' first.rest with
  | .error _ => return first.map (⟨none, ·⟩)
  | .ok colon =>
    let second ← scanName colon.rest
    match scanChar ':' second.rest with
    | .ok _ => refuse second.rest
    | .error _ => return ⟨⟨some first.value, second.value⟩, second.rest, by grind⟩

inductive Reference where
  | number (n : Nat)
  | entity (name : String)
deriving DecidableEq, Repr

def digitValue (c : Char) : Nat :=
  if c.isDigit then c.toNat - '0'.toNat
  else if 'a' ≤ c ∧ c ≤ 'f' then c.toNat - 'a'.toNat + 10
  else c.toNat - 'A'.toNat + 10

def isHexDigit (c : Char) : Bool := c.isDigit || ('a' ≤ c && c ≤ 'f') || ('A' ≤ c && c ≤ 'F')

def scanNumber (base : Nat) (cs : List Char) : Scan Reference cs.length :=
  let isBaseDigit := if base = 16 then isHexDigit else Char.isDigit
  let digits := cs.takeWhile isBaseDigit
  let rest := cs.dropWhile isBaseDigit
  have : rest.length ≤ cs.length := (List.dropWhile_sublist _).length_le
  if digits.isEmpty then refuse rest
  else do
    let p ← scanChar ';' rest
    return ⟨.number (digits.foldl (fun n c => n * base + digitValue c) 0), p.rest, by grind⟩

def scanReference (cs : List Char) : Scan Reference cs.length :=
  match cs with
  | '#' :: 'x' :: rest => do return (← scanNumber 16 rest).widen (Nat.le_add_right _ 2)
  | '#' :: rest => do return (← scanNumber 10 rest).widen (Nat.le_add_right _ 1)
  | cs => do
    let name ← scanName cs
    let p ← scanChar ';' name.rest
    return ⟨.entity name.value, p.rest, Nat.lt_trans p.shorter name.shorter⟩

-- A character of a value as it is written, or a reference and what was left where it began.
-- A value is broken where it cannot be read on.
inductive ValuePart where
  | char (c : Char)
  | reference (r : Reference) (start : List Char)
  | broken (rest : List Char)
deriving DecidableEq, Repr

def scanValue (quote : Char) (cs : List Char) : Scan (List ValuePart) cs.length :=
  match cs with
  | [] => .error .cutOff
  | c :: rest =>
    if c = quote then .ok ⟨[], rest, by simp⟩
    else if c = '<' ∨ !isAllowed c then refuse (c :: rest)
    else if c = '&' then do
      let r ← scanReference rest
      let p ← scanValue quote r.rest
      return (p.map (.reference r.value (c :: rest) :: ·)).widen (by grind)
    else do
      let p ← scanValue quote rest
      return (p.map (.char c :: ·)).widen (by simp)
termination_by cs.length
decreasing_by all_goals grind

structure RawAttribute where
  name : QualifiedName
  start : List Char
  value : List ValuePart
deriving Repr

def scanQuote (cs : List Char) : Scan Char cs.length :=
  match cs with
  | [] => .error .cutOff
  | c :: rest => if c = '"' ∨ c = '\'' then .ok ⟨c, rest, by simp⟩ else refuse (c :: rest)

def scanAttribute (cs : List Char) : Scan RawAttribute cs.length := do
  let name ← scanQualifiedName cs
  let equals ← scanChar '=' (skipSpace name.rest)
  let quote ← scanQuote (skipSpace equals.rest)
  let value ← scanValue quote.value quote.rest
  return ⟨⟨name.value, cs, value.value⟩, value.rest, by grind⟩

def scanTagEnd (cs : List Char) : Scan Bool cs.length :=
  match cs with
  | '>' :: rest => .ok ⟨false, rest, by simp⟩
  | '/' :: rest => do return ((← scanChar '>' rest).map fun _ => true).widen (by simp)
  | cs => refuse cs

def scanAttributes (cs : List Char) : Scan (List RawAttribute × Bool) cs.length :=
  let after := skipSpace cs
  if cs.head?.any isSpace ∧ after.head?.any (fun c => c != '>' && c != '/') then do
    let given ← scanAttribute after
    let p ← scanAttributes given.rest
    return (p.map fun (more, isEmpty) => (given.value :: more, isEmpty)).widen (by grind)
  else do
    let p ← scanTagEnd after
    return (p.map fun isEmpty => ([], isEmpty)).widen (by grind)
termination_by cs.length
decreasing_by grind

structure StartTag where
  name : QualifiedName
  attributes : List RawAttribute
  isEmpty : Bool
deriving Repr

def scanStartTag (cs : List Char) : Scan StartTag cs.length := do
  let name ← scanQualifiedName cs
  let p ← scanAttributes name.rest
  return ⟨⟨name.value, p.value.1, p.value.2⟩, p.rest, by grind⟩

def isEndNameChar (c : Char) : Bool := isNameChar c || c == ':'

def scanEndTag (cs : List Char) : Scan String cs.length :=
  match cs with
  | [] => .error .cutOff
  | c :: rest =>
    if isNameStart c then do
      let after := rest.dropWhile isEndNameChar
      have : after.length ≤ rest.length := (List.dropWhile_sublist _).length_le
      let p ← scanChar '>' (skipSpace after)
      return ⟨String.ofList (c :: rest.takeWhile isEndNameChar), p.rest, by grind⟩
    else refuse (c :: rest)

def scanCommentBody (cs : List Char) : Scan Unit cs.length :=
  match cs with
  | [] => .error .cutOff
  | ['-'] => .error .cutOff
  | '-' :: '-' :: rest => do return (← scanChar '>' rest).widen (by grind)
  | c :: rest =>
    if isAllowed c then do return (← scanCommentBody rest).widen (by simp) else refuse (c :: rest)

def scanComment (cs : List Char) : Scan Unit cs.length := do
  let p ← scanChar '-' cs
  return (← scanCommentBody p.rest).widen (by grind)

def scanInstructionBody (cs : List Char) : Scan (List Char) cs.length :=
  match cs with
  | [] => .error .cutOff
  | ['?'] => .error .cutOff
  | '?' :: '>' :: rest => .ok ⟨[], rest, by grind⟩
  | c :: rest =>
    if isAllowed c then do return ((← scanInstructionBody rest).map (c :: ·)).widen (by simp)
    else refuse (c :: rest)

structure Instruction where
  target : String
  body : List Char
deriving Repr

def isReservedTarget (target : String) : Bool :=
  target != "xml" && target.toList.map Char.toLower == ['x', 'm', 'l']

def scanInstruction (cs : List Char) : Scan Instruction cs.length := do
  let target ← scanName cs
  match h : target.rest with
  | [] => .error .cutOff
  | c :: rest =>
    if isSpace c ∨ c = '?' then
      if isReservedTarget target.value then refuse (c :: rest)
      else if isSpace c then do
        let p ← scanInstructionBody rest
        return ⟨⟨target.value, c :: p.value⟩, p.rest, by grind⟩
      else do
        let p ← scanChar '>' rest
        return ⟨⟨target.value, []⟩, p.rest, by grind⟩
    else refuse (c :: rest)

def checkText (cs : List Char) : Except ScanError Unit :=
  match cs with
  | ']' :: ']' :: '>' :: rest => refuse ('>' :: rest)
  | cs => if cs.head?.any isAllowed then .ok () else refuse cs

def scanText (cs : List Char) : Scan (List Char) (cs.length + 1) :=
  match cs with
  | [] => .ok ⟨[], [], by simp⟩
  | c :: rest =>
    if c = '<' ∨ c = '&' then .ok ⟨[], c :: rest, by simp⟩
    else do
      checkText (c :: rest)
      return ((← scanText rest).map (c :: ·)).widen (by simp)

def scanWord (word : List Char) (cs : List Char) : Scan Unit (cs.length + 1) :=
  match word with
  | [] => .ok (.start cs)
  | c :: more => do
    let p ← scanChar c cs
    return (← scanWord more p.rest).widen (by grind)

def scanSectionText (cs : List Char) : Scan (List Char) cs.length :=
  match cs with
  | [] | [']'] | ['\r'] | [']', ']'] => .error (.openSection cs)
  | ']' :: ']' :: '>' :: rest => .ok ⟨[], rest, by grind⟩
  | c :: rest =>
    if isAllowed c then do return ((← scanSectionText rest).map (c :: ·)).widen (by simp)
    else refuse (c :: rest)

def encodedLength (cs : List Char) : Nat := cs.foldl (fun size c => size + c.utf8Size) 0

-- What follows `<![`. The input ends inside the opening if it is too short for it.
def scanSection (cs : List Char) : Scan (List Char) cs.length := do
  if encodedLength (cs.take 6) < 6 then .error .cutOff
  else
    let p ← scanWord ['C', 'D', 'A', 'T', 'A', '['] cs
    return (← scanSectionText p.rest).widen (by grind)

inductive Piece where
  | text (cs : List Char)
  | startTag (tag : StartTag)
  | endTag (name : String)
  | reference (r : Reference)
  | instruction (i : Instruction)
  | comment
deriving Repr

def scanMarkup (cs : List Char) : Scan Piece cs.length :=
  match cs with
  | '/' :: rest => do return ((← scanEndTag rest).map .endTag).widen (by simp)
  | '?' :: rest => do return ((← scanInstruction rest).map .instruction).widen (by simp)
  | '!' :: '-' :: rest => do return ((← scanComment rest).map fun _ => .comment).widen (by grind)
  | '!' :: '[' :: rest => do return ((← scanSection rest).map .text).widen (by grind)
  | '!' :: rest => refuse rest
  | cs => do return (← scanStartTag cs).map .startTag

def scanPiece (cs : List Char) : Scan Piece cs.length :=
  match cs with
  | [] => .error .cutOff
  | c :: rest =>
    if c = '<' then do return (← scanMarkup rest).widen (by simp)
    else if c = '&' then do return ((← scanReference rest).map .reference).widen (by simp)
    else do
      checkText (c :: rest)
      return ((← scanText rest).map fun more => .text (c :: more)).widen (by simp)

end ScreenDispatch.Markup
