import HouseStyle.Fault
import HouseStyle.Files.Node
import HouseStyle.Files.Path
import HouseStyle.Text.Quoted
import HouseStyle.Text.Utf8

/-!
Contract: a tree of directories and files with a working directory.

Owns: following a path, reading a file, making directories, writing files, and collecting the
sources under a directory.
Does not own: the file system of the machine, which the outer layer loads and stores.

Relative paths start at the working directory. A name has at most 255 octets and a path at most
4095; no path holds a null character.
-/

namespace HouseStyle

/-- A tree: the place of its working directory, and its root. -/
structure FileTree where
  working : List String
  root : Node

/-- Where a path leads: the place, and what is there, if anything. -/
structure Destination where
  place : List String
  node : Option Node

namespace FileTree

/-- The greatest number of octets in a name. -/
def maxNameOctets : Nat := 255

/-- The greatest number of octets in a path. -/
def maxPathOctets : Nat := 4095

/-- The greatest number of nested directories that are made at once. -/
def maxNewLevels : Nat := 989

/-- The tree that holds nothing but its working directory. -/
def ofWorking (working : List String) : FileTree :=
  ⟨working, Node.put .emptyDirectory working .emptyDirectory⟩

def put (tree : FileTree) (place : List String) (entry : Node) : FileTree :=
  { tree with root := Node.put entry place tree.root }

/-- The tree with a directory at a place, if nothing is there yet. -/
def addDirectory (tree : FileTree) (place : List String) : FileTree :=
  match tree.root.at? place with
  | some _ => tree
  | none => tree.put place .emptyDirectory

/-- The nodes on the way to a place, innermost first, as far as they exist. -/
def trailTo (node : Node) (trail : List (String × Node)) : List String → List (String × Node)
  | [] => trail
  | name :: rest =>
    match node.child? name with
    | some child => trailTo child ((name, child) :: trail) rest
    | none => trail

def placeOf (trail : List (String × Node)) : List String :=
  (trail.map Prod.fst).reverse

/-- Where names lead from the end of a trail. Every name but the last has to be there, every place
on the way has to be a directory, and a double dot goes back. -/
def walk (root : Node) : List (String × Node) → List String → Except FileProblem Destination
  | trail, [] => .ok ⟨placeOf trail, some ((trail.head?.map Prod.snd).getD root)⟩
  | trail, name :: rest =>
    match (trail.head?.map Prod.snd).getD root with
    | .file _ => .error .notDirectory
    | .directory children =>
      if name = ".." then walk root trail.tail rest
      else if maxNameOctets < name.utf8ByteSize then .error .nameTooLong
      else
        match children.lookup name, rest with
        | some child, rest => walk root ((name, child) :: trail) rest
        | none, [] => .ok ⟨placeOf trail ++ [name], none⟩
        | none, _ :: _ => .error .missing

/-- Where a path leads, whether or not something is there. -/
def locate (tree : FileTree) (path : Path) : Except FileProblem Destination :=
  if maxPathOctets < path.toString.utf8ByteSize then .error .nameTooLong
  else walk tree.root (if path.isAbsolute then [] else trailTo tree.root [] tree.working) path.parts

def find (tree : FileTree) (path : Path) : Except FileProblem Node := do
  let destination ← tree.locate path
  match destination.node with
  | some node => return node
  | none => throw .missing

/-- What a path leads to, if anything. A path that is no path of this tree leads nowhere, and one
that is too long cannot be followed. -/
def look (tree : FileTree) (path : Path) : Except Fault (Option Node) :=
  if path.hasNull then .ok none
  else
    match tree.find path with
    | .ok node => .ok (some node)
    | .error .nameTooLong => .error (.refused (Text.quoted path.toString) .nameTooLong)
    | .error _ => .ok none

def isDirectory (tree : FileTree) (path : Path) : Except Fault Bool := do
  match ← tree.look path with
  | some (.directory _) => return true
  | _ => return false

def readSource (tree : FileTree) (path : Path) : Except Fault (List Char) :=
  if path.hasNull then .error .nullInPath
  else
    match tree.find path with
    | .ok (.file octets) => .ok (Text.decodeUtf8 octets)
    | .ok (.directory _) => .error (.unreadable path.toString .isDirectory)
    | .error problem => .error (.unreadable path.toString problem)

/-- The tree with one more directory, whose parent has to exist. -/
def makeDirectory (tree : FileTree) (path : Path) : Except FileProblem FileTree := do
  let destination ← tree.locate path
  match destination.node with
  | some _ => throw .exists
  | none => return tree.put destination.place .emptyDirectory

/-- Makes the directory at a path, or accepts the one that is there. -/
def acceptDirectory (tree : FileTree) (path : Path) : Except Fault FileTree :=
  match tree.makeDirectory path with
  | .ok made => .ok made
  | .error problem => do
    if ← tree.isDirectory path then return tree
    else throw (.refused (Text.quoted path.toString) problem)

/-- Makes the directory whose names are given from the innermost on, and the directories above it as
far as they are missing, but no more levels than given. -/
def ensureNames (tree : FileTree) (root : String) : Nat → List String → Except Fault FileTree
  | 0, _ => .error .directoriesTooDeep
  | levels + 1, names =>
    let path : Path := ⟨root, names.reverse⟩
    match tree.makeDirectory path, names with
    | .error .missing, _ :: above => do
      let deeper ← ensureNames tree root levels above
      deeper.acceptDirectory path
    | _, _ => tree.acceptDirectory path

/-- Makes the directory at a path and every missing directory above it. -/
def ensureDirectory (tree : FileTree) (path : Path) : Except Fault FileTree :=
  if path.hasNull then .error .nullInPath
  else ensureNames tree path.root maxNewLevels path.parts.reverse

/-- The tree with a file at a path, whose directory has to exist. -/
def writeFile (tree : FileTree) (path : Path) (octets : List UInt8) : Except Fault FileTree :=
  match tree.locate path with
  | .ok destination => .ok (tree.put destination.place (.file octets))
  | .error problem => .error (.refused (Text.quoted path.toString) problem)

def sourceSuffix : String := ".c"

/-- Whether one list of names comes before another or is the same, name by name. -/
def namesLe (first second : List String) : Bool :=
  !decide (second < first)

/-- The paths of the sources in a directory that the given path leads to, sorted by names. -/
def sourcesIn (directory : Node) (path : Path) : List Path :=
  let sources := (directory.files.map Prod.fst).filter fun names =>
    (path.append names).suffix == sourceSuffix
  (sources.mergeSort namesLe).map path.append

/-- The first path below a directory that is too long to be followed. -/
def tooLongIn? (directory : Node) (path : Path) : Option Path :=
  (directory.places.map path.append).find? fun below =>
    maxPathOctets < below.toString.utf8ByteSize

/-- The sources that a path stands for: those under a directory, and otherwise the path itself. -/
def collect (tree : FileTree) (path : Path) : Except Fault (List Path) := do
  match ← tree.look path with
  | some (.directory children) =>
    match tooLongIn? (.directory children) path with
    | some below => throw (.refused (Text.quoted below.toString) .nameTooLong)
    | none => return sourcesIn (.directory children) path
  | _ => return [path]

end FileTree

end HouseStyle
