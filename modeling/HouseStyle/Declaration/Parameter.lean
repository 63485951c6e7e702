import HouseStyle.Naming
import HouseStyle.Rule.View

/-!
Contract: the names of parameters.

Owns: finding the name that a parameter declares, and the rule on it.
Does not own: where a parameter list starts and ends.
-/

namespace HouseStyle.Parameter

open Lexicon

/-- The last identifier of a parameter, with the array bounds after it. -/
def nameAtEnd : Pattern :=
  .capture .name ident ++ .blanks ++ arrayBounds ++ .atEnd

/-- The number of words and stars of a parameter. -/
def tokenCount (text : List Char) : Nat :=
  (Text.words (text.flatMap fun c => if c == '*' then [' ', '*', ' '] else [c])).length

/-- Whether a parameter has a name to check: it is neither empty, `void` nor an ellipsis, holds no
parentheses, and is more than a single type word. -/
def isNamed (text : List Char) : Bool :=
  !text.isEmpty && text != "void".toList && text != "...".toList && !text.contains '(' &&
    !text.contains ')' && 2 ≤ tokenCount text

/-- The name that a parameter declares, unless it reads like a type. -/
def name? (parameter : Excerpt) : Option Excerpt := do
  let found ← nameAtEnd.search? parameter.text
  let name ← found.part? .name
  if isKeyword name.text || endsWithT name.text then none
  else some ⟨parameter.start + name.start, name.text⟩

def finding? (parameter : Excerpt) : Option Finding := do
  if isNamed parameter.text then
    let name ← name? parameter
    if Naming.isSnake name.text then none else some (Kind.paramNameNotSnake.quoting name)
  else none

/-- The findings about the parameters between commas in a text. -/
def findings (text : List Char) : List Finding :=
  ((Excerpt.mk 0 text).splitOn ',').filterMap fun piece => finding? piece.trim

/-- The findings about the parameters between two bounds of a line. -/
def findingsBetween (code : List Char) (start stop : Int) : List Finding :=
  (findings (Text.sliceBounds code start stop)).map fun finding => finding.shift start

end HouseStyle.Parameter
