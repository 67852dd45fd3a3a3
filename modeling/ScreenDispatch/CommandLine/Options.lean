import ScreenDispatch.CommandLine.Word
import ScreenDispatch.Request

/-!
The options that the arguments set, from left to right. Values that no flag takes are collected
and refused at the end; a call for help ends the reading at once.
-/
set_option autoImplicit false

namespace ScreenDispatch.CommandLine

structure Options where
  schema : FlagValue Path
  outputDir : FlagValue Path
  declarations : Option (List (List String))
  imports : Option (List String)
  policy : FlagValue UnlabeledPolicy
  listing : Bool
  info : FlagValue String
  filter : FlagValue String
deriving DecidableEq, Repr

namespace Options

def default : Options :=
  ⟨.absent, .given ⟨0, ["Generated"]⟩, none, none, .absent, false, .absent, .absent⟩

def request (o : Options) : Request :=
  { schema := o.schema
    outputDir := o.outputDir
    declarations := .ofGroups o.declarations
    imports := o.imports.elim .null fun modules => .list (modules.map .text)
    unlabeled := o.policy.raw (·.name)
    listing := o.listing
    info := o.info.raw id
    filter := o.filter.raw id }

end Options

inductive Interrupt where
  | help
  | usage (error : UsageError)
deriving DecidableEq, Repr

inductive Step where
  | flag (flag : Flag) (spelling : String) (attached : Option String) (behind : List String)
  | extra (text : String)
deriving DecidableEq, Repr

def stepsFrom : List Word → List String × List Step
  | [] => ([], [])
  | word :: rest =>
    let (values, steps) := stepsFrom rest
    match word with
    | .value text => (text :: values, steps)
    | .separator => ([], .extra "--" :: values.map .extra ++ steps)
    | .unknown text => ([], .extra text :: values.map .extra ++ steps)
    | .flag f spelling attached => ([], .flag f spelling attached values :: steps)

def stepsOf (words : List Word) : List Step :=
  let (values, steps) := stepsFrom words
  values.map .extra ++ steps

structure Progress where
  options : Options
  extras : List String
deriving DecidableEq, Repr

namespace Options

def switch (o : Options) : Toggle → Except Interrupt Options
  | .help => .error .help
  | .listDeclarations =>
    if o.info.isAbsent then .ok { o with listing := true }
    else .error (.usage (.excluded (.toggle .listDeclarations) (.single .info)))

def setInfo (o : Options) (value : FlagValue String) : Except Interrupt Options :=
  if o.listing then .error (.usage (.excluded (.single .info) (.toggle .listDeclarations)))
  else .ok { o with info := value }

def set (o : Options) (flag : Single) (value : String) : Except Interrupt Options :=
  match flag with
  | .schema => .ok { o with schema := .given (.ofString value) }
  | .outputDir => .ok { o with outputDir := .given (.ofString value) }
  | .unlabeledArguments =>
    match UnlabeledPolicy.ofName? value with
    | some policy => .ok { o with policy := .given policy }
    | none => .error (.usage (.invalidChoice value))
  | .info => o.setInfo (.given value)
  | .filter => .ok { o with filter := .given value }

def setEmpty (o : Options) (flag : Single) : Except Interrupt Options :=
  match flag with
  | .schema => .ok { o with schema := .empty }
  | .outputDir => .ok { o with outputDir := .empty }
  | .unlabeledArguments => .ok { o with policy := .empty }
  | .info => o.setInfo .empty
  | .filter => .ok { o with filter := .empty }

-- Declaration names add up, imports replace the ones before.
def extend (o : Options) (flag : Multiple) (values : List String) : Options :=
  match flag with
  | .declarations => { o with declarations := some (o.declarations.getD [] ++ [values]) }
  | .imports => { o with imports := some values }

end Options

def isShort (spelling : String) : Bool := spelling.toList.take 2 != ['-', '-']

-- Letters behind a short flag are short flags themselves.
def letters (toggle : Toggle) : List Char → Except UsageError (List Toggle)
  | [] => .ok [toggle]
  | c :: rest =>
    match Flag.ofSpelling? (String.ofList ['-', c]) with
    | some (.toggle next) => return toggle :: (← letters next rest)
    | _ => .error (.takesNothing toggle (String.ofList (c :: rest)))

def toggles (toggle : Toggle) (spelling : String) : Option String → Except UsageError (List Toggle)
  | none => .ok [toggle]
  | some attached =>
    if isShort spelling && attached != "" then letters toggle attached.toList
    else .error (.takesNothing toggle attached)

namespace Progress

def refuse {α : Type} (e : UsageError) : Except Interrupt α := .error (.usage e)

-- An attached separator is no value.
def take (p : Progress) (flag : Flag) (spelling : String) (attached : Option String)
    (behind : List String) : Except Interrupt Progress := do
  match flag, attached, behind with
  | .toggle t, attached, behind =>
    let ts ← (toggles t spelling attached).mapError .usage
    return ⟨← ts.foldlM Options.switch p.options, p.extras ++ behind⟩
  | .single s, some value, behind =>
    let options ← if value = "--" then p.options.setEmpty s else p.options.set s value
    return ⟨options, p.extras ++ behind⟩
  | .single s, none, value :: behind => return ⟨← p.options.set s value, p.extras ++ behind⟩
  | .single s, none, [] => refuse (.expectsOne s)
  | .multiple m, some value, behind =>
    return ⟨p.options.extend m (if value = "--" then [] else [value]), p.extras ++ behind⟩
  | .multiple m, none, [] => refuse (.expectsSome m)
  | .multiple m, none, values => return ⟨p.options.extend m values, p.extras⟩

def step (p : Progress) : Step → Except Interrupt Progress
  | .extra text => .ok { p with extras := p.extras ++ [text] }
  | .flag flag spelling attached behind => p.take flag spelling attached behind

end Progress

def Options.ofArguments (arguments : List String) : Except Interrupt Options := do
  let words ← (Word.ofArguments arguments).mapError .usage
  let reached ← (stepsOf words).foldlM Progress.step ⟨.default, []⟩
  if reached.extras.isEmpty then return reached.options
  Progress.refuse (.unrecognized reached.extras)

end ScreenDispatch.CommandLine
