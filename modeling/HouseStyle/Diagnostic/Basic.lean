import HouseStyle.Diagnostic.Kind

/-!
Contract: complaints, first on a line of their own and then in a file.

Owns: findings, diagnostics, the step from one to the other, duplicates and counts.
Does not own: the search for violations, and the printing of reports.
-/

namespace HouseStyle

/-- A violation on one line, before the line has a number. The column may lie left of the line. -/
structure Finding where
  kind : Kind
  column : Int
  length : Int
  arguments : List Argument
deriving DecidableEq, Repr

/-- A violation in a file. Lines count from one and columns from zero; a length of zero stands for
the whole line. The kind is given by its printed name. -/
structure Diagnostic where
  line : Int
  column : Int
  length : Int
  severity : Severity
  kind : String
  message : String
deriving DecidableEq, Repr

/-- The diagnostic of a kind at a place; a negative column or length counts as zero. -/
def Kind.diagnostic (kind : Kind) (line column length : Int) (arguments : List Argument) :
    Except Fault Diagnostic := do
  let message ← kind.template.format arguments
  return ⟨line, max column 0, max length 0, kind.severity, kind.name, message⟩

def Finding.onLine (finding : Finding) (line : Int) : Except Fault Diagnostic :=
  finding.kind.diagnostic line finding.column finding.length finding.arguments

namespace Diagnostic

/-- What makes two diagnostics the same complaint for a reader. -/
def key (diagnostic : Diagnostic) : Int × Int × String :=
  (diagnostic.line, diagnostic.column, diagnostic.message)

/-- The diagnostics whose key is new, given the keys already seen. -/
def fresh (seen : List (Int × Int × String)) : List Diagnostic → List Diagnostic
  | [] => []
  | diagnostic :: rest =>
    if diagnostic.key ∈ seen then fresh seen rest
    else diagnostic :: fresh (diagnostic.key :: seen) rest

/-- The first diagnostic of every key, in order. -/
def dedupe (diagnostics : List Diagnostic) : List Diagnostic :=
  fresh [] diagnostics

/-- How many diagnostics have the severity. -/
def countSeverity (severity : Severity) (diagnostics : List Diagnostic) : Nat :=
  diagnostics.countP fun diagnostic => diagnostic.severity = severity

end Diagnostic

end HouseStyle
