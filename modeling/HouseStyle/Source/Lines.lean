/-!
Contract: the physical lines of a text.

Owns: splitting into lines, and the width of a line's indentation.
Does not own: comments and literals, which `Source.Line` marks.

Only a line feed ends a line, and one carriage return before it belongs to the line end. A final
line end starts no further line.
-/

namespace HouseStyle.Source

/-- The columns that a tab counts for. -/
def tabWidth : Nat := 2

/-- A line without the carriage return at its end. -/
def dropReturn (line : List Char) : List Char :=
  if line.getLast? = some '\r' then line.dropLast else line

/-- The physical lines of a text, without their ends. -/
def splitLines (text : List Char) : List (List Char) :=
  let pieces := text.splitOn '\n'
  let lines := if pieces.getLast? = some [] then pieces.dropLast else pieces
  lines.map dropReturn

def isIndentation (c : Char) : Bool :=
  c == ' ' || c == '\t'

/-- The number of spaces and tabs that a line starts with. -/
def leadingLength (line : List Char) : Nat :=
  (line.takeWhile isIndentation).length

/-- The columns that the indentation of a line takes. -/
def indentWidth : List Char → Nat
  | ' ' :: rest => indentWidth rest + 1
  | '\t' :: rest => indentWidth rest + tabWidth
  | _ => 0

end HouseStyle.Source
