import HouseStyle.Files.Path
import HouseStyle.Source.Line
import HouseStyle.Source.Lines

/-!
Contract: a source file as the checks see it.

Owns: the file's path, its text, and its lines in both forms.
Does not own: reading the file.
-/

namespace HouseStyle

/-- A source file: its path, its text, its physical lines, and the same lines with comments and
literals marked. -/
structure SourceFile where
  path : Path
  text : List Char
  raws : List (List Char)
  lines : List Line

/-- The source file with the given path and text. -/
def SourceFile.ofText (path : Path) (text : List Char) : SourceFile :=
  let raws := Source.splitLines text
  ⟨path, text, raws, Line.ofRaws raws⟩

end HouseStyle
