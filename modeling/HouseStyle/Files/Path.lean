/-!
Contract: paths of files.

Owns: reading a path from a text, its written form, and its last name with stem and suffix.
Does not own: what a path leads to, which `Files.Tree` answers.

A path has a root and components. Empty components and single dots are dropped, double dots are
kept. Two leading slashes are a root of their own; any other number of them is one slash.
-/

namespace HouseStyle

/-- A path: the slashes at its start, and the names between slashes. -/
structure Path where
  root : String
  parts : List String
deriving DecidableEq, Repr

namespace Path

/-- The names between slashes, without empty ones and single dots. -/
def components (text : List Char) : List String :=
  ((text.splitOn '/').map String.ofList).filter fun part => part != "" && part != "."

/-- The path that a text spells. -/
def ofString (text : String) : Path :=
  let characters := text.toList
  let root :=
    match (characters.takeWhile (· == '/')).length with
    | 0 => ""
    | 2 => "//"
    | _ => "/"
  ⟨root, components characters⟩

/-- The written form of a path; the empty path is a dot. -/
def toString (path : Path) : String :=
  let text := path.root ++ "/".intercalate path.parts
  if text == "" then "." else text

def isAbsolute (path : Path) : Bool :=
  path.root != ""

/-- A path with a null character, which no file system knows. -/
def hasNull (path : Path) : Bool :=
  path.parts.any fun part => part.toList.contains '\x00'

def append (path : Path) (parts : List String) : Path :=
  { path with parts := path.parts ++ parts }

/-- The path without its last component. -/
def parent (path : Path) : Path :=
  { path with parts := path.parts.dropLast }

/-- The last component, or nothing. -/
def name (path : Path) : String :=
  path.parts.getLastD ""

/-- A name cut before its last dot, unless the dot is its first or last character. -/
def splitName (name : List Char) : List Char × List Char :=
  let suffix := (name.reverse.takeWhile (· != '.')).reverse
  let stem := name.take (name.length - suffix.length - 1)
  if name.contains '.' && !stem.isEmpty && !suffix.isEmpty then (stem, '.' :: suffix)
  else (name, [])

/-- The last component without its suffix. -/
def stem (path : Path) : String :=
  String.ofList (splitName path.name.toList).1

/-- The suffix of the last component, with its dot. -/
def suffix (path : Path) : String :=
  String.ofList (splitName path.name.toList).2

def isHeader (path : Path) : Bool :=
  path.suffix == ".h"

end Path

end HouseStyle
