import ScreenDispatch.Markup.Doctype
import ScreenDispatch.Markup.Element
import ScreenDispatch.Markup.Namespace

/-!
Building elements from the content of a document. The elements that are open are a stack; text
counts for an element until its first child, and comments and instructions do not count at all.
-/
set_option autoImplicit false

namespace ScreenDispatch.Markup

-- An open element. Its children are kept with the newest first.
structure OpenElement where
  rawName : String
  tag : String
  attributes : List (String × String)
  text : List Char
  children : List Element
  scope : Scope

namespace OpenElement

def addText (cs : List Char) (e : OpenElement) : OpenElement :=
  if e.children.isEmpty then { e with text := e.text ++ cs } else e

def addChild (child : Element) (e : OpenElement) : OpenElement :=
  { e with children := child :: e.children }

def element (e : OpenElement) : Element :=
  .node e.tag e.attributes (if e.text.isEmpty then none else some (String.ofList e.text))
    e.children.reverse

end OpenElement

def addText (cs : List Char) : List OpenElement → List OpenElement
  | [] => []
  | e :: outer => e.addText cs :: outer

inductive Progress where
  | finished (root : Element) (rest : List Char)
  | pending (stack : List OpenElement)

def closeElement (e : OpenElement) (outer : List OpenElement) (rest : List Char) : Progress :=
  match outer with
  | [] => .finished e.element rest
  | parent :: outer => .pending (parent.addChild e.element :: outer)

def currentScope : List OpenElement → Scope
  | [] => .initial
  | e :: _ => e.scope

abbrev Attributes := List (QualifiedName × String) × Scope

def Attributes.add (start : List Char) (given : Attributes) (name : QualifiedName)
    (value : String) : Except Stop Attributes :=
  match name.declares? with
  | none => .ok (given.1 ++ [(name, value)], given.2)
  | some pfx =>
    match given.2.bind pfx value with
    | .error fault => .error (.before start fault)
    | .ok scope => .ok (given.1, scope)

def takeAttributes (entities : EntityScope) (declared : List AttributeDeclaration)
    (start : List Char) (seen : List QualifiedName) (given : Attributes) :
    List RawAttribute → Except Stop Attributes
  | [] => .ok given
  | raw :: rest => do
    if seen.contains raw.name then .error (.before raw.start .duplicateAttribute)
    let isTokens := (declared.find? (·.name == raw.name)).any (·.isTokens)
    let value := attributeValue isTokens (← expandValue entities start raw.value)
    takeAttributes entities declared start (raw.name :: seen) (← given.add start raw.name value)
      rest

def takeDefaults (start : List Char) (tag : StartTag) (given : Attributes)
    (declared : List AttributeDeclaration) : Except Stop Attributes :=
  declared.foldlM (fun given a =>
    match a.value with
    | some value =>
      if tag.attributes.any (·.name == a.name) then .ok given else given.add start a.name value
    | none => .ok given) given

def nameAttributes (scope : Scope) (seen : List String) :
    List (QualifiedName × String) → Except Fault (List (String × String))
  | [] => .ok []
  | (name, value) :: rest => do
    let full ← scope.attributeName name
    if seen.contains full then .error .duplicateAttribute
    return (full, value) :: (← nameAttributes scope (full :: seen) rest)

def openElement (entities : EntityScope) (declared : List AttributeDeclaration)
    (start : List Char) (scope : Scope) (tag : StartTag) : Except Stop OpenElement := do
  let declared := declared.filter (·.element == tag.name.text)
  let given ← takeAttributes entities declared start [] ([], scope) tag.attributes
  let (given, scope) ← takeDefaults start tag given declared
  let named : Except Fault OpenElement := do
    let attributes ← nameAttributes scope [] given
    return ⟨tag.name.text, ← scope.elementName tag.name, attributes, [], [], scope⟩
  match named with
  | .ok e => .ok e
  | .error fault => .error (.before start fault)

def ScanError.stop (start : List Char) : ScanError → Stop
  | .invalid rest => .before rest .invalidToken
  | .cutOff => .before start .unclosedToken
  | .openSection rest => .before rest .unclosedSection

-- Goes on until the root is closed or the input ends. `depth` elements are open around an
-- entity text, which has to close what it opens and nothing else; around a document there are
-- none.
def content (declared : List AttributeDeclaration) (entities : EntityScope) (depth : Nat)
    (stack : List OpenElement) (cs : List Char) : Except Stop Progress :=
  match cs with
  | [] =>
    if depth = 0 then .error ⟨.noElement, 0⟩
    else if stack.length ≠ depth then .error ⟨.asynchronousEntity, 0⟩
    else .ok (.pending stack)
  | c :: more =>
    let stop := Stop.before (c :: more)
    match scanPiece (c :: more) with
    | .error e => .error (e.stop (c :: more))
    | .ok p =>
      match p.value with
      | .comment => content declared entities depth stack p.rest
      | .instruction i =>
        if i.target = "xml" then .error (stop .misplacedDeclaration)
        else content declared entities depth stack p.rest
      | .text t => content declared entities depth (addText (entities.text t) stack) p.rest
      | .startTag tag => do
        let e ← openElement entities declared (c :: more) (currentScope stack) tag
        if tag.isEmpty then
          match closeElement e stack p.rest with
          | .finished root rest => return .finished root rest
          | .pending stack => content declared entities depth stack p.rest
        else content declared entities depth (e :: stack) p.rest
      | .endTag name =>
        match stack with
        | [] => .error (stop .asynchronousEntity)
        | e :: outer =>
          if stack.length = depth then .error (stop .asynchronousEntity)
          else if e.rawName ≠ name then .error (.before (more.drop 1) .mismatchedTag)
          else
            match closeElement e outer p.rest with
            | .finished root rest => .ok (.finished root rest)
            | .pending stack => content declared entities depth stack p.rest
      | .reference (.number n) =>
        match character? n with
        | none => .error (stop .badCharacterNumber)
        | some c => content declared entities depth (addText [c] stack) p.rest
      | .reference (.entity name) =>
        match predefined? name with
        | some c => content declared entities depth (addText [c] stack) p.rest
        | none =>
          match entities.find name with
          | .recursive => .error (stop .recursiveEntity)
          | .undefined => .error (stop .undefinedEntity)
          | .skipped => .error (stop (.unreadEntity name))
          | .found e h =>
            match e.value with
            | .unparsed => .error (stop .binaryEntity)
            | .external => .error (stop (.unreadEntity name))
            | .text inner =>
              have := EntityScope.length_inside h
              match content declared (entities.inside e) stack.length stack inner with
              | .error inner => .error (stop inner.fault)
              | .ok (.finished root rest) => .ok (.finished root rest)
              | .ok (.pending stack) => content declared entities depth stack p.rest
termination_by (entities.available.length, cs.length)
decreasing_by all_goals grind

end ScreenDispatch.Markup
