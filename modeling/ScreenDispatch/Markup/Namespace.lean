import ScreenDispatch.Markup.Fault
import ScreenDispatch.Markup.Scan

/-!
Namespaces: prefixes stand for namespace names, and the full name of an element or attribute
is its namespace in braces and its own name.
-/
set_option autoImplicit false

namespace ScreenDispatch.Markup

-- Prefixes with their namespaces, the innermost first. The empty prefix is the default, and
-- an empty namespace is none.
abbrev Scope := List (String × String)

def xmlNamespace : String := "http://www.w3.org/XML/1998/namespace"

def xmlnsNamespace : String := "http://www.w3.org/2000/xmlns/"

def Scope.initial : Scope := [("xml", xmlNamespace)]

def QualifiedName.declares? (q : QualifiedName) : Option String :=
  match q.pfx with
  | none => if q.base = "xmlns" then some "" else none
  | some "xmlns" => some q.base
  | some _ => none

def Scope.bind (scope : Scope) (pfx uri : String) : Except Fault Scope :=
  if uri = "" ∧ pfx ≠ "" then .error .undeclaredPrefix
  else if pfx = "xmlns" then .error .reservedXmlns
  else if uri.contains '\x7d' then .error .syntaxError
  else if pfx = "xml" ∧ uri ≠ xmlNamespace then .error .reservedXml
  else if pfx ≠ "xml" ∧ uri = xmlNamespace then .error .reservedNamespace
  else if uri = xmlnsNamespace then .error .reservedNamespace
  else .ok ((pfx, uri) :: scope)

def fullName (uri base : String) : String := "\x7b" ++ uri ++ "\x7d" ++ base

def Scope.attributeName (scope : Scope) (q : QualifiedName) : Except Fault String :=
  match q.pfx with
  | none => .ok q.base
  | some pfx =>
    match scope.lookup pfx with
    | some uri => .ok (fullName uri q.base)
    | none => .error .unboundPrefix

def Scope.elementName (scope : Scope) (q : QualifiedName) : Except Fault String :=
  match q.pfx with
  | some _ => scope.attributeName q
  | none =>
    match scope.lookup "" with
    | none | some "" => .ok q.base
    | some uri => .ok (fullName uri q.base)

end ScreenDispatch.Markup
