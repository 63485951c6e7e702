import HouseStyle.Check
import HouseStyle.CommandLine.Options
import HouseStyle.Files.Tree
import HouseStyle.Report.Json
import HouseStyle.Report.Text
import HouseStyle.Service.Environment

/-!
Contract: carrying out a command line.

Owns: the check of all sources that a command line names, what is printed, the exit status, and the
report that is written.
Does not own: the file system and the terminal of the machine.

The exit status is 0 when no source has diagnostics, 1 when one has, and 2 when a source cannot be
read or the command line is malformed.
-/

namespace HouseStyle.CommandLine

/-- The name of the program and its version. -/
def versionLine : String := "c-style-check 0.1.0\n"

/-- What a command line leads to: the exit status, what is printed, what is complained about, and
the tree afterwards. Nothing at all in place of complaints means that the usage is to be
explained. -/
structure Outcome where
  exit : Nat
  output : String
  errors : Option String
  tree : FileTree

/-- What is known while the sources are checked. -/
structure Progress where
  results : Report.Results
  output : String
  errors : String

/-- The settings for a text. Without a line length only a text of blank lines can be checked, where
none is needed. -/
def settingsFor (options : Options) (text : List Char) : Except Fault Settings :=
  match options.maxLineLength with
  | some limit => .ok (.of options.style limit)
  | none =>
    if Text.isBlankText text then .ok (.of options.style Settings.defaultLimit)
    else .error .noLineLength

/-- The diagnostics of a text, and what is printed about it. -/
def checkSource (options : Options) (path : Path) (text : List Char) :
    Except Fault (List Diagnostic × String) := do
  let settings ← settingsFor options text
  let diagnostics ← checkText settings path text
  if options.json then return (diagnostics, "")
  else
    let report ← Report.text diagnostics path (Source.splitLines text)
    return (diagnostics, report ++ "\n")

/-- The progress after a further source. A source that cannot be read is complained about. -/
def Progress.visit (options : Options) (tree : FileTree) (progress : Progress) (path : Path) :
    Except Fault Progress :=
  match tree.readSource path with
  | .error (.unreadable shown problem) =>
    let complaint := (Fault.unreadable shown problem).message ++ "\n"
    .ok { progress with errors := progress.errors ++ complaint }
  | .error fault => .error fault
  | .ok text => do
    let (diagnostics, printed) ← checkSource options path text
    return { progress with
      results := Report.Results.insert path diagnostics progress.results
      output := progress.output ++ printed }

def reportPath (outputDir : Path) (style : Style) (stamp : String) : Path :=
  outputDir.append [Report.fileName style stamp]

/-- The tree with the report in the output directory, which has to be named. -/
def writeReport (tree : FileTree) (outputDir : Option Path) (style : Style)
    (stamp content : String) : Except Fault FileTree :=
  match outputDir with
  | none => .error .noOutputDir
  | some outputDir => do
    let made ← tree.ensureDirectory outputDir
    made.writeFile (reportPath outputDir style stamp) content.toUTF8.toList

def exitStatus (progress : Progress) : Nat :=
  if progress.errors != "" then 2
  else if progress.results.any fun (_, diagnostics) => !diagnostics.isEmpty then 1
  else 0

def checkSources (options : Options) (tree : FileTree) (stamp : String) (paths : List Path) :
    Except Fault Outcome := do
  let progress ← paths.foldlM (Progress.visit options tree) ⟨[], "", ""⟩
  let status := exitStatus progress
  if options.json then
    let content := Report.json (Report.allEntries progress.results)
    let written ← writeReport tree options.outputDir options.style stamp content
    return ⟨status, progress.output ++ content ++ "\n", some progress.errors, written⟩
  else return ⟨status, progress.output, some progress.errors, tree⟩

def carryOut (options : Options) (tree : FileTree) (stamp : String) : Except Fault Outcome :=
  match options.target with
  | none => .error .noTarget
  | some target => do
    match ← tree.collect target with
    | [] =>
      return ⟨0, "", some ("No C source files found under " ++ target.toString ++ "\n"), tree⟩
    | paths => checkSources options tree stamp paths

/-- The outcome of a command line, given the environment, the files and the stamp of the moment. -/
def run (environment : Environment) (tree : FileTree) (stamp : String) (arguments : List String) :
    Except Fault Outcome :=
  match Options.parse environment.outputDir arguments with
  | .ok options => carryOut options tree stamp
  | .error .version => .ok ⟨0, versionLine, some "", tree⟩
  | .error .help => .ok ⟨0, "", none, tree⟩
  | .error .usage => .ok ⟨2, "", none, tree⟩

/-- The diagnostics of several files, which all have to be readable. -/
def checkFiles (settings : Settings) (tree : FileTree) (paths : List Path) :
    Except Fault Report.Results :=
  paths.foldlM
    (fun results path => do
      let text ← tree.readSource path
      let diagnostics ← checkText settings path text
      return Report.Results.insert path diagnostics results)
    []

end HouseStyle.CommandLine
