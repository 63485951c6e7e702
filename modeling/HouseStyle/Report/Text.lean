import HouseStyle.Files.Path
import HouseStyle.Report.Snippet

/-!
Contract: the report on a file for people.

Owns: the layout of the report, and the counts by kind.
Does not own: the lines shown with a diagnostic.
-/

namespace HouseStyle.Report

def rule (c : Char) : String :=
  String.ofList (List.replicate 80 c)

def entry (path : Path) (lines : List (List Char)) (number : Nat) (diagnostic : Diagnostic) :
    Except Fault (List String) := do
  let rows ← snippet lines diagnostic
  return [rule '-',
    "#" ++ toString number ++ " [" ++ diagnostic.severity.name ++ "]: " ++ diagnostic.message ++
      "\n",
    path.toString ++ ":" ++ toString diagnostic.line ++ ":" ++ toString (diagnostic.column + 1)] ++
    rows ++ [""]

/-- The parts of a report about diagnostics, the first of which has the given number. -/
def entriesFrom (path : Path) (lines : List (List Char)) (number : Nat) :
    List Diagnostic → Except Fault (List String)
  | [] => return []
  | diagnostic :: rest => do
    let first ← entry path lines number diagnostic
    let others ← entriesFrom path lines (number + 1) rest
    return first ++ others

/-- The number of errors and of warnings, in words. -/
def total (diagnostics : List Diagnostic) : String :=
  "Total: " ++ toString (Diagnostic.countSeverity .error diagnostics) ++ " error(s) & " ++
    toString (Diagnostic.countSeverity .warning diagnostics) ++ " warning(s)"

/-- The report on a file; without lines it shows none. -/
def text (diagnostics : List Diagnostic) (path : Path) (lines : List (List Char)) :
    Except Fault String := do
  if diagnostics.isEmpty then return "No style issues found in " ++ path.toString ++ "\n"
  else
    let entries ← entriesFrom path lines 1 diagnostics
    return "\n".intercalate
      (["\n" ++ rule '=', "C Style Report: " ++ path.toString, rule '=' ++ "\n"] ++
        entries ++ [rule '-', total diagnostics, rule '='])

/-- How often each kind occurs, in the order of first occurrence. -/
def summary (diagnostics : List Diagnostic) : List (String × Nat) :=
  let kinds := diagnostics.map Diagnostic.kind
  kinds.eraseDups.map fun kind => (kind, kinds.count kind)

end HouseStyle.Report
