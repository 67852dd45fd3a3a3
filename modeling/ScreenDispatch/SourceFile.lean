import ScreenDispatch.Extension

/-!
The generated file of one extension: a header of comment lines, the imports, the extension and
a line feed at the end, with an empty line between the parts.
-/
set_option autoImplicit false

namespace ScreenDispatch

structure FileSettings where
  schemaName : String
  schemaVersion : String
  policy : UnlabeledPolicy
  imports : List String
deriving DecidableEq, Repr

inductive FileError where
  | emptyVersion
  | emptyTypeName
  | emptyImport
deriving DecidableEq, Repr

def FileError.message : FileError → String
  | .emptyVersion => "schema_version must not be empty"
  | .emptyTypeName => "type_name must not be empty"
  | .emptyImport => "import module names must not be empty"

def headerBorder : String := "// x-------------------------------------------x //"

-- The schema as headers and reports call it.
def FileSettings.source (s : FileSettings) : String :=
  s.schemaName ++ " (schema " ++ s.schemaVersion ++ ")"

def headerLines (s : FileSettings) (typeName : String) : Except FileError (List String) :=
  if s.schemaVersion = "" then .error .emptyVersion
  else if typeName = "" then .error .emptyTypeName
  else .ok [headerBorder,
    "// | Screens for " ++ typeName,
    "// | Generated by screens-gen, do not edit",
    "// | Source: " ++ s.source,
    "// | Unlabeled arguments: " ++ s.policy.name,
    headerBorder]

def importLines (imports : List String) : Except FileError (List String) :=
  if imports.contains "" then .error .emptyImport else .ok (imports.map ("import " ++ ·))

def fileLines (s : FileSettings) (e : Extension) : Except FileError (List String) := do
  let header ← headerLines s e.typeName
  let imports ← importLines s.imports
  return header ++ (if imports.isEmpty then [] else "" :: imports) ++ ["", e.source]

def fileText (s : FileSettings) (e : Extension) : Except FileError String := do
  return String.intercalate "\n" (← fileLines s e) ++ "\n"

def fileName (typeName : String) : String := typeName ++ "+Screens.swift"

def lineCount (text : String) : Nat := text.toList.count '\n'

end ScreenDispatch
