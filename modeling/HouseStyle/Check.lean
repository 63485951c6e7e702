import HouseStyle.File.ConstPointer
import HouseStyle.File.Includes
import HouseStyle.File.Layout
import HouseStyle.Scan.Step

/-!
Contract: the check of one file.

Owns: the four checks and their combination.
Does not own: reading files, and reports.
-/

namespace HouseStyle

/-- One of the checks that a file goes through. -/
inductive Checker where
  | includes
  | layout
  | lines
  | functions
deriving DecidableEq, Repr

namespace Checker

/-- Every check, in the order of the report. -/
def all : List Checker := [includes, layout, lines, functions]

def run (settings : Settings) (file : SourceFile) : Checker → Except Fault (List Diagnostic)
  | includes => Includes.diagnostics file
  | layout => Layout.diagnostics file
  | lines => Scan.diagnostics settings file.lines
  | functions => ConstPointer.diagnostics file.lines

end Checker

/-- The diagnostics of all checks, without repetitions. -/
def checkFile (settings : Settings) (file : SourceFile) : Except Fault (List Diagnostic) := do
  let found ← Checker.all.mapM (Checker.run settings file)
  return Diagnostic.dedupe found.flatten

/-- The diagnostics about a text; the path matters for headers only. -/
def checkText (settings : Settings) (path : Path) (text : List Char) :
    Except Fault (List Diagnostic) :=
  checkFile settings (.ofText path text)

end HouseStyle
