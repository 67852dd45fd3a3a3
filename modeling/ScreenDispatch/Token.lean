import ScreenDispatch.Text.Blank
import ScreenDispatch.Text.Digit
import ScreenDispatch.Text.Identifier

/-!
Tokens of attribute arguments. White space separates tokens and is dropped; every other
character belongs to exactly one token, which knows its place in the source. A quote that is
not closed on its line is a token of its own, so every text has tokens.
-/
set_option autoImplicit false

namespace ScreenDispatch

inductive TokenKind where
  | string | number | ident | arrow | punct | other
deriving DecidableEq, Repr

-- `start` and `stop` count the characters of the source before the token's first character
-- and up to its last one.
structure Token where
  kind : TokenKind
  value : String
  start : Nat
  stop : Nat
deriving DecidableEq, Repr

namespace Token

open Text

def closingQuote : List Char → Option Nat
  | [] => none
  | '"' :: _ => some 1
  | ['\\'] => none
  | '\\' :: c :: rest => if c = '\n' then none else (closingQuote rest).map (· + 2)
  | c :: rest => if c = '\n' then none else (closingQuote rest).map (· + 1)

def isNumberChar (c : Char) : Bool := isDigit c || c == '_'

def numberTail (rest : List Char) : Nat :=
  let whole := (rest.takeWhile isNumberChar).length
  match rest.drop whole with
  | '.' :: d :: more =>
    if isDigit d then whole + 2 + (more.takeWhile isNumberChar).length else whole
  | _ => whole

def backtickTail : List Char → Option Nat
  | [] => none
  | c :: rest =>
    let more := (rest.takeWhile isIdentifierChar).length
    if isIdentifierStart c ∧ (rest.drop more).head? = some '\x60' then some (more + 2) else none

def isPunct (c : Char) : Bool :=
  ['.', ',', ':', '<', '>', '[', ']', '(', ')', '{', '}', '?', '!', '&'].contains c

-- The kind of the token that begins with `c`, none for white space, and the number of
-- characters of `rest` that belong to it.
def lexeme (c : Char) (rest : List Char) : Option TokenKind × Nat :=
  if isBlank c then (none, (rest.takeWhile isBlank).length)
  else if c = '"' then
    match closingQuote rest with
    | some n => (some .string, n)
    | none => (some .other, 0)
  else if isDigit c then (some .number, numberTail rest)
  else if c = '\x60' then
    match backtickTail rest with
    | some n => (some .ident, n)
    | none => (some .other, 0)
  else if isIdentifierStart c || c = '$' then
    (some .ident, (rest.takeWhile isIdentifierChar).length)
  else if c = '-' ∧ rest.head? = some '>' then (some .arrow, 1)
  else if isPunct c then (some .punct, 0)
  else (some .other, 0)

def scanFrom (pos : Nat) : List Char → List Token
  | [] => []
  | c :: rest =>
    let found := lexeme c rest
    let stop := pos + 1 + found.2
    let tokens := scanFrom stop (rest.drop found.2)
    match found.1 with
    | none => tokens
    | some kind => ⟨kind, String.ofList (c :: rest.take found.2), pos, stop⟩ :: tokens
termination_by cs => cs.length
decreasing_by simp only [List.length_drop, List.length_cons]; omega

def scan (source : String) : List Token := scanFrom 0 source.toList

def isSymbol (symbol : String) (t : Token) : Bool :=
  (t.kind == .punct || t.kind == .arrow || t.kind == .other) && t.value == symbol

def isPunctuation (symbol : String) (t : Token) : Bool := t.kind == .punct && t.value == symbol

end Token
end ScreenDispatch
