/-!
What can be wrong with a document, and where. A place is kept as the number of characters that
were left there; a message shows it as a line, counted from 1, and a column, counted from 0.
-/
set_option autoImplicit false

namespace ScreenDispatch.Markup

inductive Fault where
  | syntaxError
  | noElement
  | invalidToken
  | unclosedToken
  | mismatchedTag
  | duplicateAttribute
  | junkAfterRoot
  | parameterReference
  | undefinedEntity
  | unreadEntity (name : String)
  | recursiveEntity
  | asynchronousEntity
  | badCharacterNumber
  | binaryEntity
  | externalInAttribute
  | misplacedDeclaration
  | badDeclaration
  | unclosedSection
  | unboundPrefix
  | undeclaredPrefix
  | reservedXml
  | reservedXmlns
  | reservedNamespace
  | badPublicId
deriving DecidableEq, Repr

-- As much of a text as `room` bytes hold; a character that is cut shows as U+FFFD.
def clipped (room : Nat) : List Char → List Char
  | [] => []
  | c :: rest =>
    if room = 0 then []
    else if c.utf8Size ≤ room then c :: clipped (room - c.utf8Size) rest
    else ['\uFFFD']

def shownReference (name : String) : String :=
  String.ofList (clipped 100 ('&' :: name.toList ++ [';']))

def Fault.text : Fault → String
  | syntaxError => "syntax error"
  | noElement => "no element found"
  | invalidToken => "not well-formed (invalid token)"
  | unclosedToken => "unclosed token"
  | mismatchedTag => "mismatched tag"
  | duplicateAttribute => "duplicate attribute"
  | junkAfterRoot => "junk after document element"
  | parameterReference => "illegal parameter entity reference"
  | undefinedEntity => "undefined entity"
  | unreadEntity name => "undefined entity " ++ shownReference name
  | recursiveEntity => "recursive entity reference"
  | asynchronousEntity => "asynchronous entity"
  | badCharacterNumber => "reference to invalid character number"
  | binaryEntity => "reference to binary entity"
  | externalInAttribute => "reference to external entity in attribute"
  | misplacedDeclaration => "XML or text declaration not at start of entity"
  | badDeclaration => "XML declaration not well-formed"
  | unclosedSection => "unclosed CDATA section"
  | unboundPrefix => "unbound prefix"
  | undeclaredPrefix => "must not undeclare prefix"
  | reservedXml =>
    "reserved prefix (xml) must not be undeclared or bound to another namespace name"
  | reservedXmlns => "reserved prefix (xmlns) must not be declared or undeclared"
  | reservedNamespace => "prefix must not be bound to one of the reserved namespace names"
  | badPublicId => "illegal character(s) in public id"

-- `left` characters were left where the fault is.
structure Stop where
  fault : Fault
  left : Nat
deriving DecidableEq, Repr

def Stop.before (rest : List Char) (fault : Fault) : Stop := ⟨fault, rest.length⟩

structure Position where
  line : Nat
  column : Nat
deriving DecidableEq, Repr

def Position.after (p : Position) : List Char → Position
  | [] => p
  | '\r' :: '\n' :: rest => after ⟨p.line + 1, 0⟩ rest
  | c :: rest =>
    if c = '\r' ∨ c = '\n' then after ⟨p.line + 1, 0⟩ rest else after ⟨p.line, p.column + 1⟩ rest

structure DocumentError where
  fault : Fault
  position : Position
deriving DecidableEq, Repr

def DocumentError.message (e : DocumentError) : String :=
  e.fault.text ++ ": line " ++ toString e.position.line ++ ", column " ++
    toString e.position.column

def Stop.inDocument (cs : List Char) (stop : Stop) : DocumentError :=
  ⟨stop.fault, Position.after ⟨1, 0⟩ (cs.take (cs.length - stop.left))⟩

end ScreenDispatch.Markup
