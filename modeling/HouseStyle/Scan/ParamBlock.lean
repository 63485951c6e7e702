import HouseStyle.Declaration.Function
import HouseStyle.Scan.State

/-!
Contract: lists of parameters or arguments over several lines.

Owns: the line that opens such a list, the lines that go on with it, and the rules on them.
Does not own: lists on one line, which `Rule.FunctionHead` checks.

A line that opens more parentheses than it closes and ends in a comma starts a list. Its lines are
aligned just after the parenthesis, rounded to whole steps, and end in commas until the parentheses
balance.
-/

namespace HouseStyle.ParamBlock

def opens (code : List Char) : Bool :=
  code.contains '(' && (Text.trim code).getLast? == some ',' && 0 < Text.excess '(' ')' code

/-- The indentation of the lines of a list whose parenthesis stands at a column. -/
def requiredIndentAt (paren : Nat) : Nat :=
  (paren + 2) / indentUnit * indentUnit

/-- What the first line of a list declares: a function head, or a function's name whose return type
stands on the line before. -/
inductive Opening where
  | head (head : Function.Head)
  | name (name : Excerpt)
  | other

/-- What the first line of a list declares, given the line with code before it. -/
def opening (code previousCode : List Char) : Opening :=
  match Function.head? code with
  | some head => .head head
  | none =>
    if !previousCode.isEmpty && Function.isBareReturnType previousCode then
      match Function.leadingName? code with
      | some name => .name name
      | none => .other
    else .other

/-- The findings about what the first line of a list declares. -/
def openingFindings (code : List Char) : Opening → Except Fault (List Finding)
  | .head head =>
    return Function.nameFindings head.name head.gap.text ++
      Parameter.findingsBetween code head.stop code.length
  | .name name => do
    let paren ← Text.index ['('] name.stop code
    let first ← Text.index ['('] 0 code
    return Function.nameFindings name (Text.slice code name.stop paren) ++
      Parameter.findingsBetween code (first + 1) code.length
  | .other => return []

/-- Whether the first line of a list declares a function. -/
def Opening.isDeclaration : Opening → Bool
  | .other => false
  | _ => true

/-- The findings about the first line of a list, and the state inside the list. -/
def start (code : List Char) (baseIndent : Int) (previousCode : List Char) (state : ScanState) :
    Except Fault (List Finding × ScanState) := do
  let opened := opening code previousCode
  let findings ← openingFindings code opened
  let paren ← Text.index ['('] 0 code
  let block : ParamBlock :=
    { requiredIndent := requiredIndentAt paren
      baseIndent
      depth := Text.excess '(' ')' code
      isDefinition := opened.isDeclaration && state.depth == 0
      isControl := Lexicon.braceControl.fits (Text.trim code) }
  return (findings, { state with paramBlock := some block })

def indentFindings (block : ParamBlock) (raw : List Char) : List Finding :=
  let indent := Source.indentWidth raw
  if indent = block.requiredIndent then []
  else [⟨.paramLineIndent, 0, (raw.takeWhile Text.isBlank).length,
    [.number (.measure block.requiredIndent), .number (.measure indent)]⟩]

/-- The findings about the names of parameters on a line of a list that may close it. -/
def nameFindings (block : ParamBlock) (code : List Char) (closed : Bool) : List Finding :=
  if block.isDefinition then
    let stop : Int :=
      if closed then
        match Text.findLast? ')' code with
        | some position => position
        | none => -1
      else code.length
    Parameter.findingsBetween code 0 stop
  else []

/-- The findings about a line that does not close its list. -/
def commaFindings (code : List Char) : List Finding :=
  if (Text.trim code).getLast? == some ',' then []
  else [Kind.paramLineNoComma.atColumn ((Text.trimRight code).length - 1)]

/-- The findings about the end of a list, and the state after it. -/
def finish (block : ParamBlock) (code : List Char) (state : ScanState) :
    List Finding × ScanState :=
  let outside := { state with paramBlock := none }
  let stripped := Text.trim code
  let inner := block.baseIndent + indentUnit
  if stripped.getLast? == some '{' then
    let findings :=
      if block.isDefinition then
        match Text.findLast? '{' code with
        | some brace => [Kind.functionBraceOwnLine.atColumn brace]
        | none => []
      else []
    (findings, outside.push inner)
  else if block.isControl && stripped.getLast? != some ';' then
    ([], { outside with nextIndent := some inner })
  else ([], outside)

/-- The findings about a further line of a list, and the state after it. -/
def proceed (block : ParamBlock) (raw code : List Char) (state : ScanState) :
    List Finding × ScanState :=
  let depth := block.depth + Text.excess '(' ')' code
  let closed := depth ≤ 0
  let shared := indentFindings block raw ++ nameFindings block code closed
  if closed then
    let (findings, state) := finish block code state
    (shared ++ findings, state)
  else
    (shared ++ commaFindings code,
      { state with paramBlock := some { block with depth } })

end HouseStyle.ParamBlock
