import ScreenDispatch.Markup.Content
import ScreenDispatch.Markup.PrologPlace
import ScreenDispatch.Markup.Setting

/-!
Reading a whole document: a prolog, one root element and nothing else behind it but comments,
instructions and white space.

The premise is that documents are in UTF-8. They are read from their text, and an encoding that the
declaration names is checked for its form alone: decoding by another one, and failing to, stays
outside.
-/
set_option autoImplicit false

namespace ScreenDispatch.Markup

def PrologPlace.behindSpace : PrologPlace → PrologPlace
  | .start => .before
  | place => place

def readProlog (place : PrologPlace) (d : Doctype) (cs : List Char) :
    Except Stop (Doctype × List Char) :=
  match cs with
  | [] => .error ⟨.noElement, 0⟩
  | c :: more =>
    let stop := Stop.before (c :: more)
    match scanPrologPiece (c :: more) with
    | .error e => .error (e.stop (c :: more))
    | .ok p =>
      match p.value with
      | .space => readProlog place.behindSpace d p.rest
      | .comment =>
        if place.takesComments then readProlog place.behindSpace d p.rest
        else .error (stop .syntaxError)
      | .instruction i =>
        if i.target = "xml" then
          if place = .start then
            match declarationStandsAlone i.body with
            | .ok standsAlone => readProlog .before { d with standsAlone := standsAlone } p.rest
            | .error here => .error ⟨.badDeclaration, here + 2 + p.rest.length⟩
          else .error (stop .misplacedDeclaration)
        else if place.takesComments then readProlog place.behindSpace d p.rest
        else .error (stop .syntaxError)
      | .rootStart =>
        if place.takesRoot then .ok (d, c :: more) else .error (stop .syntaxError)
      | piece =>
        match place.next d p.rest piece with
        | .error stop => .error stop
        | .ok (some (place, d)) => readProlog place d p.rest
        | .ok none =>
          match piece with
          | .parameter => .error (stop .parameterReference)
          | _ => .error (stop .syntaxError)
termination_by cs.length
decreasing_by all_goals grind

def readEpilog (cs : List Char) : Except Stop Unit :=
  match cs with
  | [] => .ok ()
  | c :: more =>
    let stop := Stop.before (c :: more)
    match scanPrologPiece (c :: more) with
    | .error e => .error (e.stop (c :: more))
    | .ok p =>
      match p.value with
      | .space | .comment => readEpilog p.rest
      | .instruction i =>
        if i.target = "xml" then .error (stop .junkAfterRoot) else readEpilog p.rest
      | _ => .error (stop .junkAfterRoot)
termination_by cs.length
decreasing_by all_goals grind

-- A root that is not closed before the end is missed there, or at a carriage return that
-- ends the text.
def atLastReturn (cs : List Char) (stop : Stop) : Stop :=
  if stop = ⟨.noElement, 0⟩ ∧ cs.getLast? = some '\r' then ⟨.noElement, 1⟩ else stop

def dropMark : List Char → List Char
  | '\uFEFF' :: rest => rest
  | cs => cs

def readDocument (cs : List Char) : Except Stop Element := do
  let (d, body) ← readProlog .start .empty (dropMark cs)
  match content d.attributes d.scope 0 [] body with
  | .error stop => .error (atLastReturn cs stop)
  | .ok (.pending _) => .error ⟨.noElement, 0⟩
  | .ok (.finished root rest) => do
    readEpilog rest
    return root

def Element.read (source : String) : Except DocumentError Element :=
  match readDocument source.toList with
  | .ok root => .ok root
  | .error stop => .error (stop.inDocument source.toList)

end ScreenDispatch.Markup
