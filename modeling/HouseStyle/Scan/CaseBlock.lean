import HouseStyle.Rule.Spacing
import HouseStyle.Scan.State

/-!
Contract: the bodies of case labels.

Owns: recognising labels, finding the last line of a label's body, the frame that the body gets, and
the rules on breaks and braces.
Does not own: the indentation of the label itself.

A body gets one frame, one step deeper than its label. The frame is left after the last line of the
body: the `break` that ends it, or the last line with code before the next label or the closing
brace of the switch.
-/

namespace HouseStyle.CaseBlock

def labelStart : Pattern :=
  .atStart ++ ((.word "case" ++ .boundary) <|> (.word "default" ++ .blanks ++ .char ':'))

def breakStatement : Pattern :=
  .atStart ++ .word "break" ++ .blanks ++ .char ';'

def fallThroughMarker : List Char :=
  "fall-through".toList

def isMarked (line : Line) : Bool :=
  Text.hasWord fallThroughMarker line.commentText

def isLabel (code : List Char) : Bool :=
  labelStart.fits (Text.trim code) && Spacing.caseLabel.fits code

/-- What the lines after a label say about its body: the index of its last line, whether a `break`
ends it, and whether it is marked as running on. -/
structure Body where
  last : Option Nat
  hasBreak : Bool
  marked : Bool
deriving DecidableEq, Repr

/-- Reads a body from the line with the given index on, at a brace depth relative to the label. -/
def scanBody (index : Nat) (depth : Int) (last : Option Nat) (marked : Bool) : List Line → Body
  | [] => ⟨last, false, marked⟩
  | line :: rest =>
    if line.hasCode then
      let text := line.stripped
      if depth = 0 ∧ (labelStart.fits text ∨ text.head? = some '}') then ⟨last, false, marked⟩
      else if depth = 0 ∧ breakStatement.fits text then ⟨some index, true, marked⟩
      else
        let deeper := depth + Text.excess '{' '}' text
        if deeper < 0 then ⟨some index, false, marked⟩
        else scanBody (index + 1) deeper (some index) (marked || isMarked line) rest
    else scanBody (index + 1) depth last (marked || isMarked line) rest

def body (site : Site) : Body :=
  scanBody (site.index + 1) 0 none false site.after

/-- Whether the text after a label ends in a `break`, so that the whole case is one line. -/
def endsInBreak (rest : List Char) : Bool :=
  let statements := ((rest.splitOn ';').map Text.trim).filter fun part => !part.isEmpty
  statements.getLast? == some "break".toList

/-- The finding about the body and the state inside its frame. -/
def openBody (site : Site) (baseIndent : Int) (label : List Char) (colon : Nat)
    (state : ScanState) : List Finding × ScanState :=
  let body := body site
  let findings : List Finding :=
    if body.hasBreak || isMarked site.line || body.marked then []
    else [⟨.caseMissingBreak, colon, 1, [.word (String.ofList label)]⟩]
  match body.last with
  | none => (findings, state)
  | some endLine =>
    let indent := baseIndent + indentUnit
    let inside := state.push indent
    (findings, { inside with cases := ⟨endLine, indent⟩ :: inside.cases })

/-- The findings about what follows the colon of a label, and the state after the label. -/
def analyzeRest (site : Site) (baseIndent : Int) (label : List Char) (colon : Nat)
    (rest : List Char) (state : ScanState) : Except Fault (List Finding × ScanState) := do
  let next := (site.nextCode?.map Line.stripped).getD []
  if rest.isEmpty && site.nextCode?.isSome && labelStart.fits next then return ([], state)
  else if rest.head? == some '{' then
    let column ← Text.index ['{'] colon site.line.code
    return ([Kind.caseBlockBraces.atColumn column], state)
  else if rest.isEmpty && next.head? == some '{' then
    let column ← Text.index ['{'] 0 ((site.nextCode?.map Line.code).getD [])
    return ([Kind.caseBlockBraces.atColumn column], state)
  else if endsInBreak rest then return ([], state)
  else return openBody site baseIndent label colon state

/-- The findings about a label and its body, and the state after the label. -/
def analyze (site : Site) (baseIndent : Int) (state : ScanState) :
    Except Fault (List Finding × ScanState) := do
  let some found := Spacing.caseLabel.matchStart? site.line.code | return ([], state)
  let some label := found.part? .label | return ([], state)
  let some gap := found.part? .gap | return ([], state)
  let some rest := found.part? .rest | return ([], state)
  let attached : List Finding :=
    if gap.text.isEmpty then [] else [⟨.colonNotAttached, gap.start, gap.length + 1, []⟩]
  let (findings, state) ←
    analyzeRest site baseIndent (Text.squeeze label.text) gap.stop (Text.trim rest.text) state
  return (attached ++ findings, state)

/-- Leaves the frames of the given cases as long as they end with the line, innermost first. -/
def closeFrames (index : Nat) (frames : List Nat) : List CaseFrame → List Nat × List CaseFrame
  | [] => (frames, [])
  | frame :: rest =>
    if frame.endLine = index then closeFrames index frames.tail rest else (frames, frame :: rest)

/-- The state after leaving every body that ends with the line. -/
def closeFinished (index : Nat) (state : ScanState) : ScanState :=
  let (frames, cases) := closeFrames index state.frames state.cases
  { state with frames, cases }

end HouseStyle.CaseBlock
