import ScreenDispatch.Declaration
import ScreenDispatch.Text.Blank
import ScreenDispatch.Text.Column
import ScreenDispatch.Text.Lowercase

/-!
The list of the declarations in a schema, one row for each.
-/
set_option autoImplicit false

namespace ScreenDispatch

structure DeclarationSummary where
  name : String
  kind : String
  access : Option String
  cases : Int
deriving DecidableEq, Repr

def Declaration.summary (d : Declaration) : DeclarationSummary :=
  ⟨d.name, d.kind, d.access, d.cases.length⟩

def Schema.summaries (schema : Schema) : List DeclarationSummary :=
  schema.declarations.map Declaration.summary

def contains (needle : List Char) : List Char → Bool
  | [] => needle.isEmpty
  | c :: rest => needle.isPrefixOf (c :: rest) || contains needle rest

def filterByName (text : String) (rows : List DeclarationSummary) : List DeclarationSummary :=
  rows.filter fun row => contains (Text.lowered text).toList (Text.lowered row.name).toList

def DeclarationSummary.accessText (row : DeclarationSummary) : String :=
  match row.access with
  | none | some "" => "-"
  | some access => access

def DeclarationSummary.line (nameWidth kindWidth accessWidth : Nat) (row : DeclarationSummary) :
    String :=
  Text.trimmedRight ("  " ++ Text.padRight nameWidth row.name ++ "  " ++
    Text.padRight kindWidth row.kind ++ "  " ++ Text.padRight accessWidth row.accessText ++ "  " ++
    toString row.cases ++ (if row.cases = 1 then " case" else " cases"))

def listing (rows : List DeclarationSummary) (version : String) : String :=
  let nameWidth := Text.columnWidth (rows.map (·.name))
  let kindWidth := Text.columnWidth (rows.map (·.kind))
  let accessWidth := Text.columnWidth (rows.map (·.accessText))
  String.intercalate "\n"
    ([toString rows.length ++ " declarations in schema " ++ version ++ ":", ""] ++
      rows.map (·.line nameWidth kindWidth accessWidth) ++ [""])

end ScreenDispatch
