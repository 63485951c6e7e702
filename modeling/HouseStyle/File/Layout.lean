import HouseStyle.File.FunctionDefinition
import HouseStyle.File.Source

/-!
Contract: the layout of a whole file.

Owns: the rules on the end of a file and on the blank lines between functions.
Does not own: blank lines elsewhere, which the scan counts.
-/

namespace HouseStyle.Layout

/-- The complaint about a file that does not end with a line end. -/
def endDiagnostics (file : SourceFile) : Except Fault (List Diagnostic) := do
  if file.text.isEmpty || file.text.getLast? == some '\n' then return []
  let last := file.raws.getLastD []
  let diagnostic ←
    Kind.missingEofNewline.diagnostic file.raws.length ((last.length : Int) - 1) 1 []
  return [diagnostic]

def trailingBlanks (raws : List (List Char)) : Nat :=
  (raws.reverse.takeWhile Text.isBlankText).length

def trailingDiagnostics (file : SourceFile) : Except Fault (List Diagnostic) := do
  let count := trailingBlanks file.raws
  if count = 0 ∨ file.raws.length ≤ count then return []
  let diagnostic ←
    Kind.trailingBlankLines.diagnostic file.raws.length 0 0 [.number (.measure count)]
  return [diagnostic]

/-- The complaint about the lines between two functions; anything but blank lines between them is
left alone. -/
def betweenDiagnostics (raws : List (List Char)) (previous next : FunctionDefinition) :
    Except Fault (List Diagnostic) := do
  let between := (raws.take next.headerLine).drop (previous.closeLine + 1)
  if between.any fun line => !Text.isBlankText line then return []
  if between.isEmpty then
    let diagnostic ←
      Kind.missingBlankAfterFunction.diagnostic (previous.closeLine + 1) 0 0 []
    return [diagnostic]
  else if 1 < between.length then
    let diagnostic ←
      Kind.tooManyBlanksBetweenFunctions.diagnostic (previous.closeLine + 2) 0 0
        [.number (.measure between.length)]
    return [diagnostic]
  else return []

/-- The complaints about the lines between functions. -/
def spacingDiagnostics (file : SourceFile) : Except Fault (List Diagnostic) := do
  let definitions := FunctionDefinition.findAll file.lines
  let found ← (definitions.zip definitions.tail).mapM fun (previous, next) =>
    betweenDiagnostics file.raws previous next
  return found.flatten

def diagnostics (file : SourceFile) : Except Fault (List Diagnostic) := do
  let ending ← endDiagnostics file
  let trailing ← trailingDiagnostics file
  let spacing ← spacingDiagnostics file
  return ending ++ trailing ++ spacing

end HouseStyle.Layout
