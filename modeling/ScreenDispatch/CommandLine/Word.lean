import ScreenDispatch.CommandLine.Usage
import ScreenDispatch.Text.Digit

/-!
How one argument reads by itself. A flag may be shortened as long as only one long spelling
begins so, and may bring its value behind an equals sign. What begins with a dash is still a value
if it is a lone dash, a negative number or holds a space.
-/
set_option autoImplicit false

namespace ScreenDispatch.CommandLine

inductive Word where
  | value (text : String)
  | separator
  | flag (flag : Flag) (spelling : String) (attached : Option String)
  | unknown (text : String)
deriving DecidableEq, Repr

def splitEquals : List Char → List Char × Option (List Char)
  | [] => ([], none)
  | c :: rest =>
    if c = '=' then ([], some rest)
    else
      let (before, behind) := splitEquals rest
      (c :: before, behind)

def isUnsigned (cs : List Char) : Bool :=
  let whole := cs.takeWhile Text.isDigit
  match cs.dropWhile Text.isDigit with
  | [] => !whole.isEmpty
  | '.' :: places => !places.isEmpty && places.all Text.isDigit
  | _ => false

-- One line feed at the end does not count.
def isNegative : List Char → Bool
  | '-' :: cs => isUnsigned cs || (cs.getLast? == some '\n' && isUnsigned cs.dropLast)
  | _ => false

def shortened (cs : List Char) : List (String × Word) :=
  match cs with
  | '-' :: '-' :: _ =>
    let (start, attached) := splitEquals cs
    (Flag.table.filter fun (spelling, _) => start.isPrefixOf spelling.toList).map
      fun (spelling, f) => (spelling, .flag f spelling (attached.map String.ofList))
  | '-' :: letter :: rest =>
    (Flag.table.filter fun (spelling, _) => spelling == String.ofList ['-', letter]).map
      fun (spelling, f) => (spelling, .flag f spelling (some (String.ofList rest)))
  | _ => []

def written? (cs : List Char) : Option Word :=
  let (start, attached) := splitEquals cs
  let spelling := String.ofList start
  (Flag.ofSpelling? spelling).map (.flag · spelling (attached.map String.ofList))

namespace Word

def ofDashed (argument : String) : Except UsageError Word :=
  match written? argument.toList with
  | some word => .ok word
  | none =>
    match shortened argument.toList with
    | [(_, word)] => .ok word
    | [] =>
      .ok (if isNegative argument.toList || argument.toList.contains ' ' then .value argument
        else .unknown argument)
    | candidates => .error (.ambiguous argument (candidates.map (·.1)))

def ofArgument (argument : String) : Except UsageError Word :=
  match argument.toList with
  | ['-'] => .ok (.value argument)
  | '-' :: _ => ofDashed argument
  | _ => .ok (.value argument)

-- Behind a separator everything is a value.
def ofArguments : List String → Except UsageError (List Word)
  | [] => .ok []
  | argument :: rest =>
    if argument = "--" then .ok (separator :: rest.map value)
    else return (← ofArgument argument) :: (← ofArguments rest)

end Word
end ScreenDispatch.CommandLine
