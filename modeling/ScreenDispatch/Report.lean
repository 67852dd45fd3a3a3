import ScreenDispatch.Expansion
import ScreenDispatch.Text.Column

/-!
The report after a run: totals over the expansions and the files that were written.
-/
set_option autoImplicit false

namespace ScreenDispatch

structure Counts where
  declarations : Int
  generated : Int
  failed : Int
  cases : Int
  inferred : Int
  explicit : Int
  remapped : Int
  warnings : Int
deriving DecidableEq, Repr

def allArms (expansions : List Expansion) : List Arm :=
  expansions.flatMap fun e => (e.extension.map (·.arms)).getD []

def Counts.ofExpansions (expansions : List Expansion) : Counts :=
  let arms := allArms expansions
  let generated : Int := expansions.countP (·.succeeded)
  let inferred : Int := arms.countP (·.inferred)
  let remapped : Nat := arms.foldl (fun total arm => total + arm.remapped) 0
  let warnings : Nat := expansions.foldl (fun total expansion => total + expansion.warnings.length) 0
  { declarations := expansions.length
    generated := generated
    failed := expansions.length - generated
    cases := arms.length
    inferred := inferred
    explicit := arms.length - inferred
    remapped := remapped
    warnings := warnings }

def allDiagnostics (expansions : List Expansion) : List Diagnostic :=
  expansions.flatMap (·.diagnostics)

structure FileEntry where
  name : String
  lines : Int
deriving DecidableEq, Repr

structure Report where
  source : String
  outputDir : String
  policy : String
  counts : Counts
  files : List FileEntry
deriving DecidableEq, Repr

def countLine (title : String) (n : Int) : String :=
  "    " ++ Text.padRight 11 title ++ Text.padLeft 6 (toString n)

def FileEntry.line (f : FileEntry) : String :=
  "    " ++ Text.padRight 32 f.name ++ " " ++ Text.padLeft 6 (Text.grouped f.lines) ++ " lines"

def Counts.caseLine (c : Counts) : String :=
  countLine "Cases:" c.cases ++
    (if c.explicit > 0 then
      "  (" ++ toString c.inferred ++ " inferred + " ++ toString c.explicit ++ " explicit)"
    else "")

def Report.text (r : Report) : String :=
  let total := r.files.foldl (fun total file => total + file.lines) 0
  String.intercalate "\n"
    (["Screens generated:", "",
      "  Source:     " ++ r.source,
      "  Output:     " ++ r.outputDir,
      "  Unlabeled:  " ++ r.policy, "",
      "  Declarations:",
      countLine "Generated:" r.counts.generated,
      countLine "Failed:" r.counts.failed, "",
      r.counts.caseLine,
      countLine "Remapped:" r.counts.remapped,
      countLine "Warnings:" r.counts.warnings, "",
      "  Files written:"] ++
      r.files.map (·.line) ++
      ["", "  Total: " ++ Text.grouped total ++ " lines across " ++ toString r.files.length ++
        " files", ""])

end ScreenDispatch
