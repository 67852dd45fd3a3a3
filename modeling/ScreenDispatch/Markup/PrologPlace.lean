import ScreenDispatch.Markup.Doctype

/-!
Where in a prolog the reader is, and which pieces may stand there. Of the declarations in a
document type those of entities and attributes are kept; content models and notations are only
checked.
-/
set_option autoImplicit false

namespace ScreenDispatch.Markup

inductive DoctypePlace where
  | start | named | publicId | systemId | located
deriving DecidableEq, Repr

inductive EntityPlace where
  | start
  | parameter
  | named (name : Option String)
  | publicId (name : Option String)
  | systemId (name : Option String)
  | located (name : Option String)
  | unparsed (name : Option String)
deriving DecidableEq, Repr

inductive Connector where
  | sequence | choice
deriving DecidableEq, Repr

-- In the declaration of an element. The groups are the open ones, the innermost first, with
-- their connectors as far as they are known.
inductive ElementPlace where
  | start
  | named
  | model
  | textInside
  | mixedItem
  | mixedBehind
  | item (groups : List (Option Connector))
  | behind (groups : List (Option Connector))
deriving DecidableEq, Repr

structure AttributeHead where
  element : String
  name : QualifiedName
deriving DecidableEq, Repr

inductive AttributePlace where
  | start
  | list (element : String)
  | named (head : AttributeHead)
  | choice (head : AttributeHead) (namesOnly : Bool)
  | choiceBehind (head : AttributeHead) (namesOnly : Bool)
  | notations (head : AttributeHead)
  | typed (head : AttributeHead) (isTokens : Bool)
  | fixed (head : AttributeHead) (isTokens : Bool)
deriving DecidableEq, Repr

inductive NotationPlace where
  | start | named | publicId | systemId | located
deriving DecidableEq, Repr

inductive PrologPlace where
  | start
  | before
  | doctype (place : DoctypePlace)
  | subset
  | subsetEnd
  | after
  | entity (place : EntityPlace)
  | element (place : ElementPlace)
  | attributes (place : AttributePlace)
  | notations (place : NotationPlace)
  | declarationEnd
deriving DecidableEq, Repr

abbrev Reached := Option (PrologPlace × Doctype)

def isPublicIdChar (c : Char) : Bool :=
  c.isAlphanum || c == ' ' || c == '\n' || c == '\r' || "-'()+,./:=?;!*#@$_%".toList.contains c

def checkPublicId (behind cs : List Char) : Except Stop Unit :=
  match cs.dropWhile isPublicIdChar with
  | [] => .ok ()
  | rest => .error (.before (rest ++ behind) .badPublicId)

def DoctypePlace.next (place : DoctypePlace) (d : Doctype) (behind : List Char)
    (piece : PrologPiece) : Except Stop Reached := do
  match place, piece with
  | .start, .name _ => return some (.doctype .named, d)
  | .named, .name ⟨none, "SYSTEM"⟩ => return some (.doctype .systemId, d)
  | .named, .name ⟨none, "PUBLIC"⟩ => return some (.doctype .publicId, d)
  | .publicId, .literal quote cs => do
    checkPublicId (quote :: behind) cs
    return some (.doctype .systemId, { d with openEnded := true })
  | .systemId, .literal _ _ => return some (.doctype .located, { d with openEnded := true })
  | .named, .bracketOpen | .located, .bracketOpen => return some (.subset, d)
  | .named, .close | .located, .close => return some (.after, d)
  | _, _ => return none

def EntityPlace.next (place : EntityPlace) (d : Doctype) (behind : List Char)
    (piece : PrologPiece) : Except Stop Reached := do
  match place, piece with
  | .start, .percent => return some (.entity .parameter, d)
  | .start, .name ⟨none, text⟩ => return some (.entity (.named (some text)), d)
  | .parameter, .name ⟨none, _⟩ => return some (.entity (.named none), d)
  | .named name, .name ⟨none, "SYSTEM"⟩ => return some (.entity (.systemId name), d)
  | .named name, .name ⟨none, "PUBLIC"⟩ => return some (.entity (.publicId name), d)
  | .named name, .literal quote cs =>
    if d.counts then
      let text ← entityText (quote :: behind) cs
      return some (.declarationEnd, d.declareEntity name (.text text))
    else return some (.declarationEnd, d)
  | .publicId name, .literal quote cs => do
    checkPublicId (quote :: behind) cs
    return some (.entity (.systemId name), d)
  | .systemId name, .literal _ _ => return some (.entity (.located name), d)
  | .located name, .close => return some (.subset, d.declareEntity name .external)
  | .located (some name), .name ⟨none, "NDATA"⟩ =>
    return some (.entity (.unparsed (some name)), d)
  | .unparsed name, .name ⟨none, _⟩ =>
    return some (.declarationEnd, d.declareEntity name .unparsed)
  | _, _ => return none

def ElementPlace.next (place : ElementPlace) (piece : PrologPiece) : Option PrologPlace :=
  match place, piece with
  | .start, .name _ => some (.element .named)
  | .named, .name ⟨none, "EMPTY"⟩ | .named, .name ⟨none, "ANY"⟩ => some .declarationEnd
  | .named, .groupOpen => some (.element .model)
  | .model, .hashName "PCDATA" => some (.element .textInside)
  | .model, .groupOpen => some (.element (.item [none, none]))
  | .model, .name _ | .model, .markedName => some (.element (.behind [none]))
  | .textInside, .groupClose .once | .textInside, .groupClose .zeroOrMore
  | .mixedBehind, .groupClose .zeroOrMore => some .declarationEnd
  | .textInside, .bar | .mixedBehind, .bar => some (.element .mixedItem)
  | .mixedItem, .name _ => some (.element .mixedBehind)
  | .item groups, .groupOpen => some (.element (.item (none :: groups)))
  | .item groups, .name _ | .item groups, .markedName => some (.element (.behind groups))
  | .behind [_], .groupClose _ => some .declarationEnd
  | .behind (_ :: outer), .groupClose _ => some (.element (.behind outer))
  | .behind (connector :: outer), .comma =>
    if connector = some .choice then none else some (.element (.item (some .sequence :: outer)))
  | .behind (connector :: outer), .bar =>
    if connector = some .sequence then none else some (.element (.item (some .choice :: outer)))
  | _, _ => none

def tokenTypes : List String :=
  ["ID", "IDREF", "IDREFS", "ENTITY", "ENTITIES", "NMTOKEN", "NMTOKENS"]

def AttributePlace.next (place : AttributePlace) (d : Doctype) (behind : List Char)
    (piece : PrologPiece) : Except Stop Reached := do
  let go (place : AttributePlace) : Except Stop Reached := return some (.attributes place, d)
  let declared (head : AttributeHead) (isTokens : Bool) (value : Option String) :
      Except Stop Reached :=
    return some (.attributes (.list head.element),
      d.declareAttribute ⟨head.element, head.name, isTokens, value⟩)
  let given (head : AttributeHead) (isTokens : Bool) (quote : Char) (cs : List Char) :
      Except Stop Reached := do
    if d.counts then
      declared head isTokens (some (← d.defaultValue isTokens quote cs (quote :: behind)))
    else go (.list head.element)
  match place, piece with
  | .start, .name name => go (.list name.text)
  | .list _, .close => return some (.subset, d)
  | .list element, .name name => go (.named ⟨element, name⟩)
  | .named head, .name ⟨none, "CDATA"⟩ => go (.typed head false)
  | .named head, .name ⟨none, "NOTATION"⟩ => go (.notations head)
  | .named head, .name ⟨none, type⟩ =>
    if tokenTypes.contains type then go (.typed head true) else return none
  | .named head, .groupOpen => go (.choice head false)
  | .notations head, .groupOpen => go (.choice head true)
  | .choice head namesOnly, .name ⟨none, _⟩ => go (.choiceBehind head namesOnly)
  | .choice head false, .name _ | .choice head false, .word => go (.choiceBehind head false)
  | .choiceBehind head namesOnly, .bar => go (.choice head namesOnly)
  | .choiceBehind head _, .groupClose .once => go (.typed head true)
  | .typed head isTokens, .hashName "IMPLIED" | .typed head isTokens, .hashName "REQUIRED" =>
    declared head isTokens none
  | .typed head isTokens, .hashName "FIXED" => go (.fixed head isTokens)
  | .typed head isTokens, .literal quote cs | .fixed head isTokens, .literal quote cs =>
    given head isTokens quote cs
  | _, _ => return none

def NotationPlace.next (place : NotationPlace) (behind : List Char) (piece : PrologPiece) :
    Except Stop (Option PrologPlace) := do
  match place, piece with
  | .start, .name ⟨none, _⟩ => return some (.notations .named)
  | .named, .name ⟨none, "SYSTEM"⟩ => return some (.notations .systemId)
  | .named, .name ⟨none, "PUBLIC"⟩ => return some (.notations .publicId)
  | .publicId, .literal quote cs => do
    checkPublicId (quote :: behind) cs
    return some (.notations .located)
  | .systemId, .literal _ _ | .located, .literal _ _ => return some .declarationEnd
  | .located, .close => return some .subset
  | _, _ => return none

namespace PrologPlace

def takesComments : PrologPlace → Bool
  | start | before | subset | after => true
  | _ => false

def takesRoot : PrologPlace → Bool
  | start | before | after => true
  | _ => false

def ofKeyword? : String → Option PrologPlace
  | "ENTITY" => some (.entity .start)
  | "ELEMENT" => some (.element .start)
  | "ATTLIST" => some (.attributes .start)
  | "NOTATION" => some (.notations .start)
  | _ => none

def next (place : PrologPlace) (d : Doctype) (behind : List Char) (piece : PrologPiece) :
    Except Stop Reached := do
  match place, piece with
  | start, .opening "DOCTYPE" | before, .opening "DOCTYPE" => return some (doctype .start, d)
  | doctype place, piece => place.next d behind piece
  | subset, .bracketClose => return some (subsetEnd, d)
  | subset, .parameter => return some (subset, d.missParameter)
  | subset, .opening keyword => return (ofKeyword? keyword).map (·, d)
  | subsetEnd, .close => return some (after, d)
  | entity place, piece => place.next d behind piece
  | element place, piece => return (place.next piece).map (·, d)
  | attributes place, piece => place.next d behind piece
  | notations place, piece => return (← place.next behind piece).map (·, d)
  | declarationEnd, .close => return some (subset, d)
  | _, _ => return none

end PrologPlace
end ScreenDispatch.Markup
