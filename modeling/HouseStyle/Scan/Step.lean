import HouseStyle.Rule.Table
import HouseStyle.Scan.Indent
import HouseStyle.Scan.TypeScope

/-!
Contract: the scan of a file, line by line.

Owns: the order in which rules and state changes apply to a line, and the run over all lines.
Does not own: the rules and the single state changes.

A blank line only counts towards a run of blank lines. Every other line gets the rules on raw lines;
a line with code then gets the rules on content, and is a line of an open parameter list, a
directive, a label, or a statement, in this order of preference.
-/

namespace HouseStyle.Scan

/-- The diagnostics about a line and the state after it. -/
abbrev Outcome := List Diagnostic × ScanState

def report (site : Site) (findings : List Finding) : Except Fault (List Diagnostic) :=
  findings.mapM fun finding => finding.onLine site.number

def blankLine (site : Site) (state : ScanState) : Except Fault Outcome :=
  if site.line.before = .block then return ([], state)
  else do
    let findings : List Finding :=
      if site.line.raw.isEmpty then [] else [⟨.blankLineIndented, 0, site.line.raw.length, []⟩]
    let diagnostics ← report site findings
    return (diagnostics, { state with blankRun := state.blankRun + 1 })

/-- The diagnostics about the blank lines before a line, and the state without them. -/
def endBlankRun (site : Site) (state : ScanState) : Except Fault Outcome := do
  let diagnostics ←
    if 1 < state.blankRun then do
      let diagnostic ←
        Kind.tooManyBlankLines.diagnostic site.index 0 0 [.number (.measure state.blankRun)]
      pure [diagnostic]
    else pure []
  return (diagnostics, { state with blankRun := 0 })

def isInclusion (line : Line) : Bool :=
  Lexicon.inclusion.fits line.raw

def directiveLine (site : Site) (state : ScanState) : Except Fault Outcome := do
  let raw := site.line.raw
  let leading := Source.leadingLength raw
  let findings : List Finding :=
    if isInclusion site.line && 0 < leading then [⟨.includeIndented, 0, leading, []⟩] else []
  let diagnostics ← report site findings
  return (diagnostics, { state with inDefinition := (Text.trimRight raw).getLast? == some '\\' })

/-- The findings about a label for jumps, if the line is one. -/
def labelFindings? (code : List Char) : Option (List Finding) := do
  let found ← Spacing.gotoLabel.matchStart? code
  let name ← found.part? .name
  let gap ← found.part? .gap
  let findings : List Finding :=
    (if name.start = 0 then [] else [⟨.labelIndented, 0, name.start, []⟩]) ++
      (if Naming.isSnake name.text then [] else [Kind.labelNotSnake.quoting name]) ++
      (if gap.text.isEmpty then [] else [⟨.colonNotAttached, gap.start, gap.length + 1, []⟩])
  if Lexicon.isKeyword name.text then none else some findings

/-- The outcome of a statement after its indentation is settled. -/
def settledStatement (settings : Settings) (site : Site) (state : ScanState) :
    Except Fault Outcome := do
  let code := site.line.code
  if InlineControl.isInline code then
    let diagnostics ← report site (InlineControl.findings code)
    return (diagnostics, state)
  else
    match ← TypeScope.step site.index code state with
    | (some diagnostics, state) => return (diagnostics, state)
    | (none, state) =>
      let findings ← Rule.runPhase .statement (site.view settings state)
      let diagnostics ← report site findings
      return (diagnostics, state)

def statementLine (settings : Settings) (site : Site) (state : ScanState) :
    Except Fault Outcome := do
  let previousCode := (site.view settings state).previousCode
  let indented ← Indent.step settings.chainLimit site previousCode state
  let layout ← report site indented.findings
  if indented.opened then return (layout, indented.state)
  else
    let (diagnostics, state) ← settledStatement settings site indented.state
    return (layout ++ diagnostics, state)

def codeLine (settings : Settings) (site : Site) (state : ScanState) : Except Fault Outcome :=
  match state.paramBlock with
  | some block => do
    let (findings, state) := ParamBlock.proceed block site.line.raw site.line.code state
    let diagnostics ← report site findings
    return (diagnostics, state)
  | none =>
    if site.line.stripped.head? == some '#' || state.inDefinition then directiveLine site state
    else
      match labelFindings? site.line.code with
      | some findings => do
        let diagnostics ← report site findings
        return (diagnostics, state)
      | none => statementLine settings site state

/-- The diagnostics of the rules on the content of a line; inclusions have none. -/
def contentDiagnostics (settings : Settings) (site : Site) (state : ScanState) :
    Except Fault (List Diagnostic) := do
  if isInclusion site.line then return []
  else
    let findings ← Rule.runPhase .content (site.view settings state)
    report site findings

/-- The outcome of a line that is not blank. -/
def inkedLine (settings : Settings) (site : Site) (state : ScanState) : Except Fault Outcome := do
  let (blanks, state) ← endBlankRun site state
  let findings ← Rule.runPhase .raw (site.view settings state)
  let raw ← report site findings
  if site.line.isSkipped then return (blanks ++ raw, state)
  else
    let content ← contentDiagnostics settings site state
    let (others, state) ← codeLine settings site state
    return (blanks ++ raw ++ content ++ others, state)

/-- The outcome of a line, before the bodies that end with it are closed. -/
def line (settings : Settings) (site : Site) (state : ScanState) : Except Fault Outcome :=
  if site.line.isBlank then blankLine site state else inkedLine settings site state

def step (settings : Settings) (site : Site) (state : ScanState) : Except Fault Outcome := do
  let (diagnostics, state) ← line settings site state
  return (diagnostics, { CaseBlock.closeFinished site.index state with comment := site.line.after })

/-- The record of one line: its index, its diagnostics, and the state after it. -/
structure Record where
  index : Nat
  diagnostics : List Diagnostic
  state : ScanState

/-- The records of the lines after those already scanned, which are listed from the nearest on. -/
def recordsFrom (settings : Settings) (index : Nat) (before : List Line) (state : ScanState) :
    List Line → Except Fault (List Record)
  | [] => return []
  | line :: rest => do
    let (diagnostics, state) ← step settings ⟨index, before, line, rest⟩ state
    let records ← recordsFrom settings (index + 1) (line :: before) state rest
    return ⟨index, diagnostics, state⟩ :: records

def records (settings : Settings) (lines : List Line) : Except Fault (List Record) :=
  recordsFrom settings 0 [] .initial lines

def diagnostics (settings : Settings) (lines : List Line) : Except Fault (List Diagnostic) := do
  let records ← records settings lines
  return records.flatMap Record.diagnostics

end HouseStyle.Scan
