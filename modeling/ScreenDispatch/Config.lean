import ScreenDispatch.FileStore
import ScreenDispatch.Initializer
import ScreenDispatch.Request
import ScreenDispatch.Text.Identifier
import ScreenDispatch.Text.Ordered

/-!
Checking a request. The rules are tried in a fixed order and the first one that is broken is the
answer; a request that breaks none is either for files or for a look at the schema.
-/
set_option autoImplicit false

namespace ScreenDispatch

inductive ConfigCode where
  | missingSchema
  | pathNotFound
  | invalidDeclarationName
  | invalidImportName
  | conflictGenerateDiscovery
  | filterWithoutList
deriving DecidableEq, Repr

namespace ConfigCode

def all : List ConfigCode :=
  [missingSchema, pathNotFound, invalidDeclarationName, invalidImportName,
    conflictGenerateDiscovery, filterWithoutList]

def name : ConfigCode → String
  | missingSchema => "MISSING_SCHEMA"
  | pathNotFound => "PATH_NOT_FOUND"
  | invalidDeclarationName => "INVALID_DECLARATION_NAME"
  | invalidImportName => "INVALID_IMPORT_NAME"
  | conflictGenerateDiscovery => "CONFLICT_GENERATE_DISCOVERY"
  | filterWithoutList => "FILTER_WITHOUT_LIST"

end ConfigCode

structure UnknownCode where
  name : String
deriving DecidableEq, Repr

def UnknownCode.message (e : UnknownCode) : String := "Unknown config error code: " ++ e.name

def ConfigCode.ofName (s : String) : Except UnknownCode ConfigCode :=
  match ConfigCode.all.find? (·.name == s) with
  | some code => .ok code
  | none => .error ⟨s⟩

inductive ConfigError where
  | misshapenNames (error : ShapeError)
  | filterWithoutList
  | conflict
  | missingSchema
  | schemaNotFound (path : Path)
  | invalidDeclaration (name : String)
  | invalidImport (name : String)
deriving DecidableEq, Repr

def ShapeError.message (e : ShapeError) : String :=
  match e.place with
  | .value => "Invalid --decl value type: " ++ e.typeName
  | .entry => "Invalid --decl entry type: " ++ e.typeName
  | .name => "Invalid declaration name type: " ++ e.typeName

namespace ConfigError

def code : ConfigError → ConfigCode
  | misshapenNames _ => .invalidDeclarationName
  | filterWithoutList => .filterWithoutList
  | conflict => .conflictGenerateDiscovery
  | missingSchema => .missingSchema
  | schemaNotFound _ => .pathNotFound
  | invalidDeclaration _ => .invalidDeclarationName
  | invalidImport _ => .invalidImportName

def message : ConfigError → String
  | misshapenNames error => error.message
  | filterWithoutList => "--filter requires --list-declarations."
  | conflict => "Generate flags cannot be combined with discovery flags."
  | missingSchema => "A screen schema is required: pass --schema."
  | schemaNotFound path => "Path for --schema does not exist: " ++ path.text
  | invalidDeclaration name => "Invalid declaration name: " ++ name
  | invalidImport name => "Invalid module name for --imports: " ++ name

def suggestion : ConfigError → String
  | misshapenNames _ => "Pass declaration names as --decl ScreenID."
  | filterWithoutList => "Add --list-declarations or remove --filter."
  | conflict => "Choose either generate mode or one discovery command."
  | missingSchema => "Point --schema at the XML file describing your screen enums."
  | schemaNotFound _ => "Provide an existing path for this flag."
  | invalidDeclaration _ => "Declaration names are Swift identifiers (for example ScreenID)."
  | invalidImport _ =>
    "Pass plain Swift module names, for example --imports SwiftUI ScreenMacros."

end ConfigError

def checkedDeclaration (name : String) : Except ConfigError String :=
  if Text.isIdentifierLine name.toList then .ok name else .error (.invalidDeclaration name)

def checkedImport (name : String) : Except ConfigError String :=
  if Text.isIdentifierLine name.toList then .ok name else .error (.invalidImport name)

structure UnknownPolicy where
  shown : String
deriving DecidableEq, Repr

def UnknownPolicy.message (e : UnknownPolicy) : String :=
  e.shown ++ " is not a valid UnlabeledArgumentPolicy"

def UnlabeledPolicy.ofSetting (setting : RawValue) : Except UnknownPolicy UnlabeledPolicy :=
  match setting with
  | .null => .ok .positional
  | .text name =>
    match UnlabeledPolicy.ofName? name with
    | some policy => .ok policy
    | none => .error ⟨setting.shown⟩
  | _ => .error ⟨setting.shown⟩

inductive Use where
  | name | items | schema | outputDir | filter
deriving DecidableEq, Repr

structure Misuse where
  use : Use
  typeName : String
deriving DecidableEq, Repr

def Misuse.message (e : Misuse) : String :=
  match e.use with
  | .name => "expected string or bytes-like object, got '" ++ e.typeName ++ "'"
  | .items => "'" ++ e.typeName ++ "' object is not iterable"
  | .schema => "'" ++ e.typeName ++ "' object has no attribute 'exists'"
  | .outputDir => "expected str, bytes or os.PathLike object, not " ++ e.typeName
  | .filter => "'" ++ e.typeName ++ "' object has no attribute 'lower'"

-- An error that is not about the rules of requests.
inductive Breakdown where
  | policy (error : UnknownPolicy)
  | store (error : StoreError)
  | misuse (error : Misuse)
deriving DecidableEq, Repr

def Breakdown.message : Breakdown → String
  | policy error => error.message
  | store error => error.message
  | misuse error => error.message

inductive RequestError where
  | config (error : ConfigError)
  | breakdown (error : Breakdown)
deriving DecidableEq, Repr

def misused {α : Type} (use : Use) (value : RawValue) : Except RequestError α :=
  .error (.breakdown (.misuse ⟨use, value.typeName⟩))

structure GenerateConfig where
  schema : Path
  outputDir : FlagValue Path
  declarations : List String
  imports : List String
  policy : UnlabeledPolicy
deriving DecidableEq, Repr

inductive Inquiry where
  | table (declaration : Option String)
  | detail (declaration : String)
deriving DecidableEq, Repr

def Inquiry.command : Inquiry → String
  | table _ => "list-declarations"
  | detail _ => "info"

def Inquiry.declaration? : Inquiry → Option String
  | table declaration => declaration
  | detail declaration => some declaration

structure DiscoveryConfig where
  schema : Path
  policy : UnlabeledPolicy
  inquiry : Inquiry
  filter : RawValue
deriving Repr

inductive Config where
  | generate (config : GenerateConfig)
  | discover (config : DiscoveryConfig)
deriving Repr

def defaultImports : List String := ["SwiftUI", "ScreenMacros"]

def chosenName (check : String → Except ConfigError String) (setting : RawValue) :
    Except RequestError String :=
  match setting with
  | .text name => (check name).mapError .config
  | other => misused .name other

def chosenImports (setting : RawValue) : Except RequestError (List String) :=
  match setting, setting.items? with
  | .null, _ => .ok defaultImports
  | _, none => misused .items setting
  | _, some items => items.mapM (chosenName checkedImport)

namespace Request

def looks (r : Request) : Bool := r.listing || r.info.isFilled

def asksForFiles (r : Request) (names : List String) : Bool := !names.isEmpty || !r.imports.isNull

-- An empty name is no inquiry about a declaration, but is not passed over in a listing.
def inquiry (r : Request) : Except RequestError Inquiry :=
  match r.info with
  | .null => return .table none
  | setting => do
    let name ← chosenName checkedDeclaration setting
    return if r.listing then .table (some name) else .detail name

def schemaPath (s : FileStore) (r : Request) : Except RequestError Path :=
  match r.schema with
  | .absent => .error (.config .missingSchema)
  | .empty => misused .schema (r.schema.raw (·.text))
  | .given path =>
    match s.holds path with
    | .ok true => .ok path
    | .ok false => .error (.config (.schemaNotFound path))
    | .error error => .error (.breakdown (.store error))

def premises (s : FileStore) (r : Request) : Except RequestError (List String × Path) := do
  let names ← r.declarations.names.mapError (.config ∘ .misshapenNames)
  if r.filter.isFilled && !r.listing then .error (.config .filterWithoutList)
  if r.asksForFiles names && r.looks then .error (.config .conflict)
  return (names, ← r.schemaPath s)

def settled (r : Request) (names : List String) (schema : Path) (policy : UnlabeledPolicy) :
    Except RequestError Config := do
  if r.looks then return .discover ⟨schema, policy, ← r.inquiry, r.filter⟩
  let declarations ← (names.mapM checkedDeclaration).mapError .config
  let imports ← chosenImports r.imports
  return .generate ⟨schema, r.outputDir, Text.ordered declarations, imports, policy⟩

def config (s : FileStore) (r : Request) : Except RequestError Config := do
  let (names, schema) ← r.premises s
  let policy ← (UnlabeledPolicy.ofSetting r.unlabeled).mapError (.breakdown ∘ .policy)
  r.settled names schema policy

end Request
end ScreenDispatch
