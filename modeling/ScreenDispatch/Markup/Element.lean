/-!
Elements of a markup document. The text of an element is what stands before its first child.
-/
set_option autoImplicit false

namespace ScreenDispatch.Markup

inductive Element where
  | node (tag : String) (attributes : List (String × String)) (text : Option String)
      (children : List Element)
deriving Repr, Inhabited

namespace Element

def tag : Element → String
  | .node tag _ _ _ => tag

def attributes : Element → List (String × String)
  | .node _ attributes _ _ => attributes

def text : Element → Option String
  | .node _ _ text _ => text

def children : Element → List Element
  | .node _ _ _ children => children

def get? (e : Element) (name : String) : Option String := e.attributes.lookup name

def childrenNamed (e : Element) (tag : String) : List Element :=
  e.children.filter (·.tag == tag)

end Element
end ScreenDispatch.Markup
