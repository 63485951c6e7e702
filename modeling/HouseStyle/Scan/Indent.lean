import HouseStyle.Scan.CaseBlock
import HouseStyle.Scan.InlineControl
import HouseStyle.Scan.ParamBlock

/-!
Contract: the indentation of lines, and the frames that braces open and close.

Owns: the expected indentation of a line, and the change of frames that its braces cause.
Does not own: the frames of cases and the lines of parameter lists, which have modules of their own.

A line is expected at the innermost frame, or one step deeper right after a control statement
without a brace. Frames follow the expected indentation and not the actual one, so that one
misplaced line does not move the lines after it.
-/

namespace HouseStyle.Indent

def expected (stripped : List Char) (state : ScanState) : Int :=
  match state.nextIndent with
  | some indent =>
    if stripped.head? == some '{' || stripped.head? == some '}' then state.top else indent
  | none => state.top

/-- The finding about a line that is not where it is expected. -/
def mismatchFindings (raw : List Char) (expected : Int) : List Finding :=
  let actual := Source.indentWidth raw
  if actual = expected then []
  else [⟨.indentationMismatch, 0, Source.leadingLength raw,
    [.number (.measure expected), .number (.measure actual)]⟩]

/-- The indentation of a block that opens on a line; an empty block stays on its own level. -/
def blockIndent (site : Site) (indent : Int) : Int :=
  if site.nextCode?.any fun next => next.stripped == ['}'] then indent else indent + indentUnit

/-- A complete control statement without a brace, whose body comes on the next line. -/
def opensBracelessBody (stripped code : List Char) : Bool :=
  stripped.getLast? != some ';' && Lexicon.braceControl.fits stripped &&
    code.count '(' == code.count ')'

def followBraces (site : Site) (expected : Int) (startsWithClose : Bool) (state : ScanState) :
    ScanState :=
  let stripped := site.line.stripped
  let body := if startsWithClose then stripped.tail else stripped
  let net := Text.excess '{' '}' body
  if 0 < net then state.push (blockIndent site expected)
  else if net < 0 then state.popMany (-net).toNat
  else if opensBracelessBody stripped site.line.code then
    { state with nextIndent := some (expected + indentUnit) }
  else state

/-- What a line does to the indentation: its findings, whether it opened a parameter list, and the
state after it. -/
structure Outcome where
  findings : List Finding
  opened : Bool
  state : ScanState

/-- The findings about a line of code, and the state after it. -/
def step (chainLimit : Option Nat) (site : Site) (previousCode : List Char) (state : ScanState) :
    Except Fault Outcome := do
  let code := site.line.code
  let stripped := site.line.stripped
  let startsWithClose := stripped.head? == some '}'
  let outside := if startsWithClose then state.pop else state
  let expected := expected stripped outside
  let settled := { outside with nextIndent := none }
  let mismatch := mismatchFindings site.line.raw expected
  let (labelFindings, labelled) ←
    if CaseBlock.isLabel code then CaseBlock.analyze site expected settled else .ok ([], settled)
  let findings := mismatch ++ labelFindings
  if ← InlineControl.isInlineWithin chainLimit code then return ⟨findings, false, labelled⟩
  else if ParamBlock.opens code then
    let (listFindings, inside) ← ParamBlock.start code expected previousCode labelled
    return ⟨findings ++ listFindings, true, inside⟩
  else return ⟨findings, false, followBraces site expected startsWithClose labelled⟩

end HouseStyle.Indent
