import ScreenDispatch.Declaration
import ScreenDispatch.Diagnostic
import ScreenDispatch.Expr.Literal
import ScreenDispatch.Expr.TypeName
import ScreenDispatch.Mapping
import ScreenDispatch.Parameter
import ScreenDispatch.Text.Uppercase

/-!
What the `Screen` attribute of a case says: the view type, the mapping of labels, both or
nothing. A view type that is not given is the name of the case with its first letter in
uppercase.
-/
set_option autoImplicit false

namespace ScreenDispatch

def Expr.segment? : Expr String → Option String
  | .string _ value => leadingSegment value
  | _ => none

-- Takes the entries whose key and value both have a text, and skips the others.
def Mapping.ofEntries (entries : List (Expr String × Expr String)) : Mapping :=
  Mapping.ofList (entries.filterMap fun entry =>
    match entry.1.segment?, entry.2.segment? with
    | some key, some value => some (key, value)
    | _, _ => none)

def Expr.mapping? : Expr String → Option Mapping
  | .dictionary _ entries => some (Mapping.ofEntries entries)
  | _ => none

-- The view type that an argument names, none if it is no type reference. An argument that
-- ends in `.self` claims to be one.
def Expr.viewType? (e : Expr String) : Except ScreenError (Option String) :=
  match e with
  | .member _ base "self" =>
    match base.typeName? with
    | some name => .ok (some name)
    | none => .error .unsupportedTypeExpression
  | _ => .ok e.typeName?

inductive ScreenShape where
  | empty
  | typed (viewType : String)
  | typedAndMapped (viewType : String) (mapping : Mapping)
  | mapped (mapping : Mapping)
deriving DecidableEq

def ScreenShape.ofArguments : List (Expr String) → Except ScreenError ScreenShape
  | [] => .ok .empty
  | first :: rest =>
    match first.mapping? with
    | some mapping => .ok (.mapped mapping)
    | none => do
      match ← first.viewType? with
      | none => .error .invalidScreenAttribute
      | some viewType =>
        match rest with
        | [] => .ok (.typed viewType)
        | second :: _ =>
          match second.mapping? with
          | some mapping => .ok (.typedAndMapped viewType mapping)
          | none => .error .invalidMappingArgument

def ScreenShape.ofAttribute : Option Attribute → Except ScreenError ScreenShape
  | none => .ok .empty
  | some given => ofArguments given.arguments

def isScreenAttribute (given : Attribute) : Bool := given.name == "Screen"

def screenAttribute? (attributes : List Attribute) : Option Attribute :=
  attributes.find? isScreenAttribute

def inferredType (caseName : String) : String :=
  match caseName.toList with
  | [] => caseName
  | c :: rest => String.ofList (Text.uppercase c :: rest)

structure Screen where
  viewType : String
  mapping : Mapping
  inferred : Bool
deriving DecidableEq

def ScreenShape.screen (caseName : String) : ScreenShape → Screen
  | .empty => ⟨inferredType caseName, .empty, true⟩
  | .typed viewType => ⟨viewType, .empty, false⟩
  | .typedAndMapped viewType mapping => ⟨viewType, mapping, false⟩
  | .mapped mapping => ⟨inferredType caseName, mapping, true⟩

def Screen.resolve (attributes : List Attribute) (caseName : String) : Except ScreenError Screen :=
  (ScreenShape.ofAttribute (screenAttribute? attributes)).map (·.screen caseName)

def unusedKeys (mapping : Mapping) (parameters : List Parameter) : List String :=
  (mapping.keys.filter fun key => !parameters.any (·.sourceKey == key)).mergeSort
    fun a b => decide (a ≤ b)

def unusedKeysWarning (mapping : Mapping) (parameters : List Parameter) (caseName : String)
    (anchor : Anchor) : Option Diagnostic :=
  match unusedKeys mapping parameters with
  | [] => none
  | keys => some ⟨.unusedKeys keys caseName, anchor⟩

end ScreenDispatch
