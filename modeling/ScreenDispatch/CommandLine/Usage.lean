import ScreenDispatch.CommandLine.Flag
import ScreenDispatch.Initializer
import ScreenDispatch.Text.Quoted

/-!
The help text, and errors in the use of the command line.
-/
set_option autoImplicit false

namespace ScreenDispatch.CommandLine

def program : String := "screengen.py"

def usage : String :=
  "usage: screengen.py [-h] [--schema SCHEMA] [--output-dir OUTPUT_DIR]\n" ++
  "                    [--decl DECL [DECL ...]] [--imports IMPORTS [IMPORTS ...]]\n" ++
  "                    [--unlabeled-arguments \x7bpositional,labeled\x7d]\n" ++
  "                    [--list-declarations | --info INFO] [--filter FILTER]\n"

def help : String :=
  usage ++
  "\nGenerate SwiftUI screen dispatchers from a screen schema\n" ++
  "\noptions:\n" ++
  "  -h, --help            show this help message and exit\n" ++
  "  --schema SCHEMA\n" ++
  "  --output-dir OUTPUT_DIR\n" ++
  "  --decl DECL [DECL ...]\n" ++
  "  --imports IMPORTS [IMPORTS ...]\n" ++
  "  --unlabeled-arguments \x7bpositional,labeled\x7d\n" ++
  "  --list-declarations\n" ++
  "  --info INFO\n" ++
  "  --filter FILTER\n"

inductive UsageError where
  | ambiguous (argument : String) (spellings : List String)
  | expectsOne (flag : Single)
  | expectsSome (flag : Multiple)
  | takesNothing (flag : Toggle) (attached : String)
  | invalidChoice (value : String)
  | excluded (flag other : Flag)
  | unrecognized (arguments : List String)
deriving DecidableEq, Repr

namespace UsageError

def about (flag : Flag) (text : String) : String := "argument " ++ flag.title ++ ": " ++ text

def message : UsageError → String
  | ambiguous argument spellings =>
    "ambiguous option: " ++ argument ++ " could match " ++ String.intercalate ", " spellings
  | expectsOne flag => about (.single flag) "expected one argument"
  | expectsSome flag => about (.multiple flag) "expected at least one argument"
  | takesNothing flag attached =>
    about (.toggle flag) ("ignored explicit argument " ++ Text.quoted attached)
  | invalidChoice value =>
    about (.single .unlabeledArguments) ("invalid choice: " ++ Text.quoted value ++
      " (choose from " ++
      String.intercalate ", " (UnlabeledPolicy.all.map fun p => Text.quoted p.name) ++ ")")
  | excluded flag other => about flag ("not allowed with argument " ++ other.title)
  | unrecognized arguments => "unrecognized arguments: " ++ String.intercalate " " arguments

def text (e : UsageError) : String := usage ++ program ++ ": error: " ++ e.message ++ "\n"

end UsageError
end ScreenDispatch.CommandLine
