import HouseStyle.CommandLine.Run
import Std.Time

/-!
Contract: the program.

Owns: loading the named files and directories from the machine, and storing and printing what a run
leads to.
Does not own: any decision, all of which `CommandLine.run` makes.
-/

namespace HouseStyle.Main

def usage : String :=
  "usage: c-style-check [-h] [-v] [-j] [-o OUTPUT_DIR] [--max-line-length MAX_LINE_LENGTH] " ++
    "[--version]\n                     \x7bkr,allman\x7d target\n"

def loadEnvironment : IO Environment :=
  ["CSTYLE_STYLE", "CSTYLE_MAX_LINE_LENGTH", "CSTYLE_OUTPUT_DIR"].filterMapM fun name => do
    return (← IO.getEnv name).map fun value => (name, value)

def loadWorking : IO (List String) := do
  return (Path.ofString (← IO.currentDir).toString).parts

def machinePath (place : List String) : String :=
  "/" ++ "/".intercalate place

/-- The place that a path names, with double dots followed by name only. -/
def placeOf (working : List String) (path : Path) : List String :=
  path.parts.foldl (fun place name => if name == ".." then place.dropLast else place ++ [name])
    (if path.isAbsolute then [] else working)

/-- The file or directory at a place, with all that is in it. -/
partial def loadNode (place : List String) : IO (Option Node) := do
  let path := (← IO.currentDir) / machinePath place
  if ← path.isDir then
    let children ← (← path.readDir).toList.filterMapM fun child => do
      return (← loadNode (place ++ [child.fileName])).map fun node => (child.fileName, node)
    return some (.directory children)
  else if ← path.pathExists then return some (.file (← IO.FS.readBinFile path).toList)
  else return none

/-- The tree with the entry at a place, without what is in it. -/
def loadEntry (tree : FileTree) (place : List String) : IO FileTree := do
  let path := (← IO.currentDir) / machinePath place
  if (tree.root.at? place).isSome then return tree
  else if ← path.isDir then return tree.addDirectory place
  else if ← path.pathExists then return tree.put place (.file [])
  else return tree

/-- The tree with the entry at the place of a path, and with those above it. -/
def loadWay (tree : FileTree) (path : Path) : IO FileTree := do
  let place := placeOf tree.working path
  (List.range place.length).foldlM (fun tree count => loadEntry tree (place.take (count + 1))) tree

/-- The tree that a command line can meet: its target, and the way to its output directory. -/
def loadTree (options : CommandLine.Options) : IO FileTree := do
  let mut tree := FileTree.ofWorking (← loadWorking)
  if let some target := options.target then
    let place := placeOf tree.working target
    tree ← loadWay tree target
    if let some node ← loadNode place then tree := tree.put place node
  if let some outputDir := options.outputDir then tree ← loadWay tree outputDir
  return tree

/-- Stores the directories and files that a run has added. -/
def store (before after : FileTree) : IO Unit := do
  for place in after.root.directories do
    if (before.root.at? place).isNone then IO.FS.createDirAll (machinePath place)
  for (place, octets) in after.root.files do
    if (before.root.at? place).isNone then
      IO.FS.writeBinFile (machinePath place) ⟨octets.toArray⟩

def presentStamp : IO String := do
  let now ← Std.Time.PlainDateTime.now
  let moment : Report.Moment :=
    ⟨now.year.toNat, now.month.val.toNat, now.day.val.toNat, now.hour.val.toNat,
      now.minute.val.toNat, now.second.val.toNat⟩
  return moment.stamp

/-- Prints and stores what a run leads to. -/
def conclude (before : FileTree) (outcome : CommandLine.Outcome) : IO UInt32 := do
  store before outcome.tree
  match outcome.errors with
  | some errors =>
    IO.print outcome.output
    IO.eprint errors
  | none => if outcome.exit == 0 then IO.print usage else IO.eprint usage
  return outcome.exit.toUInt32

def run (arguments : List String) : IO UInt32 := do
  let environment ← loadEnvironment
  let tree ← match CommandLine.Options.parse environment.outputDir arguments with
    | .ok options => loadTree options
    | .error _ => pure (.ofWorking [])
  match CommandLine.run environment tree (← presentStamp) arguments with
  | .ok outcome => conclude tree outcome
  | .error fault =>
    IO.eprintln fault.message
    return 1

end HouseStyle.Main

def main (arguments : List String) : IO UInt32 :=
  HouseStyle.Main.run arguments
