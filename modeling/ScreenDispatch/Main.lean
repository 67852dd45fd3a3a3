import ScreenDispatch.Run

/-!
The program on the files of the machine. The places that a run may look at are read into a
store, and what the run changes there is written back.
-/
set_option autoImplicit false

namespace ScreenDispatch.Main

def placeText (place : Location) : String := "/" ++ String.intercalate "/" place

def probe (place : Location) : IO (Option Node) := do
  try
    return some (.file (← IO.FS.readFile (placeText place)))
  catch
    | .inappropriateType _ 21 _ => return some .directory
    | .noFileOrDirectory .. | .inappropriateType .. | .invalidArgument .. => return none
    | e => throw e

def survey (s : FileStore) (places : List Location) : IO FileStore :=
  places.foldlM (fun s place => return ((← probe place).map (s.put place)).getD s) s

def places (s : FileStore) (arguments : List String) : List Location :=
  match CommandLine.Options.ofArguments arguments with
  | .error _ => []
  | .ok options =>
    [options.schema, options.outputDir].flatMap fun
      | .given path => s.trail path ++ s.trail (s.resolve path)
      | _ => []

def record (change : Location × Node) : IO Unit :=
  match change with
  | (place, .directory) => IO.FS.createDir (placeText place)
  | (place, .file text) => IO.FS.writeFile (placeText place) text

def status (run : Run) : IO UInt32 :=
  match run.ending with
  | .exit status => return status.toUInt32
  | .breakdown e => do
    IO.eprintln e.message
    return 1

-- A first run tells which files will be written, so that what stands in their place is known
-- to the second.
def perform (arguments : List String) : IO UInt32 := do
  let start := FileStore.bare (.ofString (← IO.currentDir).toString)
  let s ← survey start (places start arguments)
  let planned := Run.ofArguments s arguments
  let s ← survey s ((s.changes planned.store).map (·.1))
  let run := Run.ofArguments s arguments
  (s.changes run.store).forM record
  IO.print run.out
  IO.eprint run.err
  status run

end ScreenDispatch.Main

def main (arguments : List String) : IO UInt32 := ScreenDispatch.Main.perform arguments
