/-!
The flags of the command line, by what they take: nothing, one value or a list of values.
-/
set_option autoImplicit false

namespace ScreenDispatch.CommandLine

inductive Toggle where
  | help | listDeclarations
deriving DecidableEq, Repr

inductive Single where
  | schema | outputDir | unlabeledArguments | info | filter
deriving DecidableEq, Repr

inductive Multiple where
  | declarations | imports
deriving DecidableEq, Repr

inductive Flag where
  | toggle (t : Toggle)
  | single (s : Single)
  | multiple (m : Multiple)
deriving DecidableEq, Repr

namespace Flag

def all : List Flag :=
  [toggle .help, single .schema, single .outputDir, multiple .declarations, multiple .imports,
    single .unlabeledArguments, toggle .listDeclarations, single .info, single .filter]

def spellings : Flag → List String
  | toggle .help => ["-h", "--help"]
  | toggle .listDeclarations => ["--list-declarations"]
  | single .schema => ["--schema"]
  | single .outputDir => ["--output-dir"]
  | single .unlabeledArguments => ["--unlabeled-arguments"]
  | single .info => ["--info"]
  | single .filter => ["--filter"]
  | multiple .declarations => ["--decl"]
  | multiple .imports => ["--imports"]

def title (f : Flag) : String := String.intercalate "/" f.spellings

def ofSpelling? (s : String) : Option Flag := all.find? (·.spellings.contains s)

def table : List (String × Flag) := all.flatMap fun f => f.spellings.map (·, f)

end Flag
end ScreenDispatch.CommandLine
