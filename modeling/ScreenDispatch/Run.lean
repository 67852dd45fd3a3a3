import ScreenDispatch.CommandLine.Options
import ScreenDispatch.Config
import ScreenDispatch.Detail
import ScreenDispatch.GeneratedFile
import ScreenDispatch.Markup.Document
import ScreenDispatch.Report

/-!
A run of the program, from the arguments and the files that are there to the files afterwards,
what was shown and the exit status. What was shown before an error stays.
-/
set_option autoImplicit false

namespace ScreenDispatch

inductive RunError where
  | store (error : StoreError)
  | document (error : Markup.DocumentError)
  | schema (error : SchemaError)
  | access (error : UnknownAccess)
  | text (error : FileError)

def RunError.ofWrite : WriteError → RunError
  | .store error => store error
  | .text error => text error

def RunError.line : RunError → String
  | .schema error => "Schema error: " ++ error.message ++ "\n"
  | .store .nulByte => "Internal error: " ++ StoreError.nulByte.message ++ "\n"
  | .store error => "Error: " ++ error.message ++ "\n"
  | .document error => "Error: " ++ error.message ++ "\n"
  | .access error => "Internal error: " ++ error.message ++ "\n"
  | .text error => "Internal error: " ++ error.message ++ "\n"

inductive Ending where
  | exit (status : Nat)
  | breakdown (error : Breakdown)
deriving DecidableEq, Repr

structure Run where
  store : FileStore
  out : String
  err : String
  ending : Ending
deriving DecidableEq, Repr

def Run.stopped (s : FileStore) (out err : String) (e : RunError) : Run :=
  ⟨s, out ++ e.line, err, .exit 1⟩

def loadSchema (s : FileStore) (path : Path) : Except RunError Schema := do
  let text ← (s.read path).mapError .store
  let root ← (Markup.Element.read text).mapError .document
  (Schema.ofElement root).mapError .schema

def chosenRows (filter : RawValue) (rows : List DeclarationSummary) :
    Except Misuse (List DeclarationSummary) :=
  match filter with
  | .null => .ok rows
  | .text text => .ok (filterByName text rows)
  | other => .error ⟨.filter, other.typeName⟩

namespace DiscoveryConfig

def missingText (c : DiscoveryConfig) (name : String) : String :=
  "Error: declaration '" ++ name ++ "' not found in " ++ c.schema.name ++ "\n"

def run (s : FileStore) (c : DiscoveryConfig) : Run :=
  match loadSchema s c.schema with
  | .error e => .stopped s "" "" e
  | .ok schema =>
    match c.inquiry with
    | .table _ =>
      match chosenRows c.filter schema.summaries with
      | .error e => ⟨s, "", "", .breakdown (.misuse e)⟩
      | .ok rows => ⟨s, listing rows schema.version, "", .exit 0⟩
    | .detail name =>
      match schema.detail? name c.policy with
      | .error e => .stopped s "" "" (.access e)
      | .ok none => ⟨s, "", c.missingText name, .exit 1⟩
      | .ok (some detail) => ⟨s, detail.text, "", .exit 0⟩

end DiscoveryConfig

namespace GenerateConfig

def settings (c : GenerateConfig) (schema : Schema) : FileSettings :=
  ⟨c.schema.name, schema.version, c.policy, c.imports⟩

def parsingText (c : GenerateConfig) : String := "Parsing: " ++ c.schema.text ++ "\n"

def schemaText (schema : Schema) : String :=
  "  Schema: " ++ toString schema.declarations.length ++ " declarations (schema " ++
  schema.version ++ ")\n"

def expandedText (c : GenerateConfig) (expansions : List Expansion) : String :=
  "  Expanded: " ++ toString (expansions.countP (·.succeeded)) ++ " of " ++
  toString expansions.length ++ " declarations (" ++ c.policy.name ++ " unlabeled arguments)\n"

def diagnosticText (expansions : List Expansion) : String :=
  String.join ((allDiagnostics expansions).map fun d => d.line ++ "\n")

def writtenText (dir : Path) (files : List GeneratedFile) : String :=
  "  Written: " ++ toString files.length ++ " files, " ++ toString (totalLines files) ++
  " lines to " ++ dir.text ++ "\n"

def report (c : GenerateConfig) (schema : Schema) (dir : Path) (expansions : List Expansion)
    (files : List GeneratedFile) : Report :=
  { source := (c.settings schema).source
    outputDir := dir.text
    policy := c.policy.name
    counts := .ofExpansions expansions
    files := files.map fun f => ⟨f.name, f.lines⟩ }

def expansions (c : GenerateConfig) (schema : Schema) : Except RunError (List Expansion) := do
  let chosen ← (schema.select c.declarations).mapError .schema
  (expandAll chosen c.policy).mapError .access

def finishIn (s : FileStore) (c : GenerateConfig) (dir : Path) (schema : Schema)
    (expansions : List Expansion) (out : String) : Run :=
  let err := diagnosticText expansions
  match writeExtensions s dir (c.settings schema) (expansions.filterMap (·.extension)) with
  | (s, .error e) => .stopped s out err (.ofWrite e)
  | (s, .ok files) =>
    ⟨s, out ++ writtenText dir files ++ (c.report schema dir expansions files).text, err,
      .exit (if expansions.all (·.succeeded) then 0 else 1)⟩

def finish (s : FileStore) (c : GenerateConfig) (schema : Schema) (expansions : List Expansion)
    (out : String) : Run :=
  match c.outputDir with
  | .given dir => c.finishIn s dir schema expansions out
  | other =>
    ⟨s, out, diagnosticText expansions,
      .breakdown (.misuse ⟨.outputDir, (other.raw (·.text)).typeName⟩)⟩

def run (s : FileStore) (c : GenerateConfig) : Run :=
  match loadSchema s c.schema with
  | .error e => .stopped s c.parsingText "" e
  | .ok schema =>
    let out := c.parsingText ++ schemaText schema
    match c.expansions schema with
    | .error e => .stopped s out "" e
    | .ok expansions => c.finish s schema expansions (out ++ c.expandedText expansions)

end GenerateConfig

def ConfigError.text (e : ConfigError) : String :=
  "Config error [" ++ e.code.name ++ "]: " ++ e.message ++ "\nHint: " ++ e.suggestion ++ "\n"

def Config.run (s : FileStore) : Config → Run
  | .generate c => c.run s
  | .discover c => c.run s

def Request.run (s : FileStore) (r : Request) : Run :=
  match r.config s with
  | .error (.config e) => ⟨s, e.text, "", .exit 1⟩
  | .error (.breakdown e) => ⟨s, "", "", .breakdown e⟩
  | .ok config => config.run s

def CommandLine.Interrupt.run (s : FileStore) : CommandLine.Interrupt → Run
  | .help => ⟨s, CommandLine.help, "", .exit 0⟩
  | .usage e => ⟨s, "", e.text, .exit 2⟩

def Run.ofArguments (s : FileStore) (arguments : List String) : Run :=
  match CommandLine.Options.ofArguments arguments with
  | .error interrupt => interrupt.run s
  | .ok options => options.request.run s

end ScreenDispatch
