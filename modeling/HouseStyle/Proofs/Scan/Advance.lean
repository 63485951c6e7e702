import HouseStyle.Proofs.Answer
import HouseStyle.Scan.Step

/-!
Contract: what a line does to the state of a scan.

Owns: the state after a line as a function of the state before it and the line in its file, and the
agreement of every step of the scan with it.
Does not own: diagnostics and faults.

A step that passes leaves a state that depends on neither the settings nor the diagnostics.

Main statement: `state_of_step`.
-/

namespace HouseStyle

/-- The code of the nearest line with code before the site, or nothing. -/
def Site.previousCode (site : Site) : List Char :=
  ((site.before.find? Line.hasCode).map Line.code).getD []

namespace CaseBlock

/-- Whether a label with this text after its colon has its body on lines of its own: it shares none
with the next label, opens no brace, and does not end in a `break`. -/
def hasBody (site : Site) (rest : List Char) : Bool :=
  let next := (site.nextCode?.map Line.stripped).getD []
  !(rest.isEmpty && site.nextCode?.isSome && labelStart.fits next) &&
    !(rest.head? == some '{') && !(rest.isEmpty && next.head? == some '{') && !endsInBreak rest

/-- The label of a line, the space before its colon, and what follows the colon. -/
def parts? (code : List Char) : Option (Excerpt × Excerpt × Excerpt) := do
  let found ← Spacing.caseLabel.matchStart? code
  let label ← found.part? .label
  let gap ← found.part? .gap
  let rest ← found.part? .rest
  return (label, gap, rest)

theorem analyze_eq (site : Site) (baseIndent : Int) (state : ScanState) :
    analyze site baseIndent state =
      match parts? site.line.code with
      | none => .ok ([], state)
      | some (label, gap, rest) => do
        let outcome ← analyzeRest site baseIndent (Text.squeeze label.text) gap.stop
          (Text.trim rest.text) state
        let attached : List Finding :=
          if gap.text.isEmpty then [] else [⟨.colonNotAttached, gap.start, gap.length + 1, []⟩]
        return (attached ++ outcome.1, outcome.2) := by
  unfold analyze parts?
  cases Spacing.caseLabel.matchStart? site.line.code with
  | none => rfl
  | some found =>
    simp only [Option.bind_eq_bind, Option.bind_some]
    cases found.part? .label with
    | none => rfl
    | some label =>
      cases found.part? .gap with
      | none => rfl
      | some gap =>
        cases found.part? .rest with
        | none => rfl
        | some rest => rfl

/-- The index of the last line of the body for which the label at the site opens a frame. -/
def frameEnd? (site : Site) : Option Nat := do
  let (_, _, rest) ← parts? site.line.code
  if hasBody site (Text.trim rest.text) then (body site).last else none

/-- The state inside the frame of a body with the given last line, if there is one. -/
def enter (endLine? : Option Nat) (baseIndent : Int) (state : ScanState) : ScanState :=
  match endLine? with
  | none => state
  | some endLine =>
    { state.push (baseIndent + indentUnit) with
      cases := ⟨endLine, baseIndent + indentUnit⟩ :: state.cases }

theorem state_openBody (site : Site) (baseIndent : Int) (label : List Char) (colon : Nat)
    (state : ScanState) :
    (openBody site baseIndent label colon state).2 = enter (body site).last baseIndent state := by
  simp only [openBody, enter]
  cases (body site).last <;> rfl

theorem state_of_analyzeRest {site : Site} {baseIndent : Int} {label rest : List Char} {colon : Nat}
    {state next : ScanState} {findings : List Finding}
    (passes : analyzeRest site baseIndent label colon rest state = .ok (findings, next)) :
    next = enter (if hasBody site rest then (body site).last else none) baseIndent state := by
  simp only [analyzeRest] at passes
  split at passes
  next stacked =>
    cases passes
    simp [hasBody, stacked, enter]
  next apart =>
    split at passes
    next braced =>
      obtain ⟨column, -, passes⟩ := Answer.bind_eq_ok.mp passes
      cases passes
      simp [hasBody, braced, enter]
    next unbraced =>
      split at passes
      next bracedNext =>
        obtain ⟨column, -, passes⟩ := Answer.bind_eq_ok.mp passes
        cases passes
        simp [hasBody, bracedNext, enter]
      next unbracedNext =>
        split at passes
        next ended =>
          cases passes
          simp [hasBody, ended, enter]
        next going =>
          have owns : hasBody site rest = true := by
            simp only [hasBody, apart, unbraced, unbracedNext, going, Bool.not_false, Bool.and_self]
          have opened := Except.ok.inj passes
          rw [if_pos owns, ← state_openBody site baseIndent label colon, opened]

/-- A label that passes leaves the state inside the frame of its body. -/
theorem state_of_analyze {site : Site} {baseIndent : Int} {state next : ScanState}
    {findings : List Finding} (passes : analyze site baseIndent state = .ok (findings, next)) :
    next = enter (frameEnd? site) baseIndent state := by
  rw [analyze_eq] at passes
  unfold frameEnd?
  cases found : parts? site.line.code with
  | none =>
    simp only [found] at passes
    cases passes
    rfl
  | some parts =>
    rcases parts with ⟨label, gap, rest⟩
    simp only [found] at passes
    obtain ⟨⟨others, inner⟩, analyzed, passes⟩ := Answer.bind_eq_ok.mp passes
    cases passes
    exact state_of_analyzeRest analyzed

end CaseBlock

namespace ParamBlock

/-- The state inside a list that starts on a line. -/
def opened (code : List Char) (baseIndent : Int) (previousCode : List Char) (state : ScanState) :
    ScanState :=
  { state with
    paramBlock := some
      { requiredIndent := requiredIndentAt ((Text.findFrom? ['('] 0 code).getD 0)
        baseIndent
        depth := Text.excess '(' ')' code
        isDefinition := (opening code previousCode).isDeclaration && state.depth == 0
        isControl := Lexicon.braceControl.fits (Text.trim code) } }

theorem state_of_start {code previousCode : List Char} {baseIndent : Int} {state next : ScanState}
    {findings : List Finding}
    (passes : start code baseIndent previousCode state = .ok (findings, next)) :
    next = opened code baseIndent previousCode state := by
  unfold start at passes
  obtain ⟨declared, -, passes⟩ := Answer.bind_eq_ok.mp passes
  obtain ⟨paren, found, passes⟩ := Answer.bind_eq_ok.mp passes
  cases passes
  unfold Text.index at found
  unfold opened
  split at found
  next position isThere =>
    cases found
    rw [isThere, Option.getD_some]
  next => cases found

/-- The state after a further line of a list. -/
def continued (block : ParamBlock) (code : List Char) (state : ScanState) : ScanState :=
  let depth := block.depth + Text.excess '(' ')' code
  let inner := block.baseIndent + indentUnit
  let outside := { state with paramBlock := none }
  if 0 < depth then { state with paramBlock := some { block with depth } }
  else if (Text.trim code).getLast? == some '{' then outside.push inner
  else if block.isControl && (Text.trim code).getLast? != some ';' then
    { outside with nextIndent := some inner }
  else outside

theorem state_proceed (block : ParamBlock) (raw code : List Char) (state : ScanState) :
    (proceed block raw code state).2 = continued block code state := by
  simp only [proceed, continued, finish]
  by_cases open' : 0 < block.depth + Text.excess '(' ')' code
  · rw [if_neg (by omega), if_pos open']
  · rw [if_pos (by omega), if_neg open']
    split
    · rfl
    · split <;> rfl

end ParamBlock

namespace Indent

/-- The state before a line whose closing brace, if it starts with one, has left its frame. -/
def outside (line : Line) (state : ScanState) : ScanState :=
  if line.stripped.head? == some '}' then state.pop else state

/-- The indentation at which a line of code is expected. -/
def expectedAt (line : Line) (state : ScanState) : Int :=
  expected line.stripped (outside line state)

/-- The state at a line after its label, if it has one. -/
def labelled (site : Site) (state : ScanState) : ScanState :=
  let settled := { outside site.line state with nextIndent := none }
  if CaseBlock.isLabel site.line.code then
    CaseBlock.enter (CaseBlock.frameEnd? site) (expectedAt site.line state) settled
  else settled

/-- The state after the indentation of a line of code is settled. -/
def settled (site : Site) (state : ScanState) : ScanState :=
  let expected := expectedAt site.line state
  if InlineControl.isInline site.line.code then labelled site state
  else if ParamBlock.opens site.line.code then
    ParamBlock.opened site.line.code expected site.previousCode (labelled site state)
  else
    followBraces site expected (site.line.stripped.head? == some '}') (labelled site state)

theorem isInline_of_isInlineWithin {limit : Option Nat} {code : List Char} {inline : Bool}
    (passes : InlineControl.isInlineWithin limit code = .ok inline) :
    inline = InlineControl.isInline code := by
  unfold InlineControl.isInlineWithin at passes
  split at passes
  · cases passes
  · cases passes
    rfl

/-- The findings about the label of a line, if it has one, and the state after the label. -/
def labelOutcome (site : Site) (state : ScanState) : Except Fault (List Finding × ScanState) :=
  let settled := { outside site.line state with nextIndent := none }
  if CaseBlock.isLabel site.line.code then
    CaseBlock.analyze site (expectedAt site.line state) settled
  else .ok ([], settled)

theorem step_eq (limit : Option Nat) (site : Site) (previousCode : List Char) (state : ScanState) :
    step limit site previousCode state = (do
      let label ← labelOutcome site state
      let expected := expectedAt site.line state
      let findings := mismatchFindings site.line.raw expected ++ label.1
      let inline ← InlineControl.isInlineWithin limit site.line.code
      if inline then return ⟨findings, false, label.2⟩
      else if ParamBlock.opens site.line.code then do
        let list ← ParamBlock.start site.line.code expected previousCode label.2
        return ⟨findings ++ list.1, true, list.2⟩
      else return ⟨findings, false,
        followBraces site expected (site.line.stripped.head? == some '}') label.2⟩) := by
  unfold step labelOutcome
  by_cases isLabel : CaseBlock.isLabel site.line.code
  · simp only [isLabel, if_true]
    rfl
  · simp only [isLabel]
    rfl

theorem state_of_labelOutcome {site : Site} {state next : ScanState} {findings : List Finding}
    (passes : labelOutcome site state = .ok (findings, next)) : next = labelled site state := by
  unfold labelOutcome at passes
  unfold labelled
  by_cases isLabel : CaseBlock.isLabel site.line.code
  · simp only [isLabel, if_true] at passes ⊢
    exact CaseBlock.state_of_analyze passes
  · simp only [isLabel] at passes ⊢
    cases passes
    rfl

theorem state_of_step {limit : Option Nat} {site : Site} {state : ScanState} {outcome : Outcome}
    (passes : step limit site site.previousCode state = .ok outcome) :
    outcome.state = settled site state ∧
      outcome.opened = (!InlineControl.isInline site.line.code && ParamBlock.opens site.line.code) := by
  rw [step_eq] at passes
  obtain ⟨⟨labelFindings, inner⟩, label, passes⟩ := Answer.bind_eq_ok.mp passes
  obtain ⟨inline, tested, passes⟩ := Answer.bind_eq_ok.mp passes
  rw [isInline_of_isInlineWithin tested, state_of_labelOutcome label] at passes
  unfold settled
  by_cases isInline : InlineControl.isInline site.line.code
  · simp only [isInline, if_true] at passes ⊢
    cases passes
    exact ⟨rfl, rfl⟩
  · by_cases opens : ParamBlock.opens site.line.code
    · simp only [isInline, opens, if_true] at passes ⊢
      obtain ⟨⟨listFindings, started⟩, start, passes⟩ := Answer.bind_eq_ok.mp passes
      cases passes
      exact ⟨ParamBlock.state_of_start start, rfl⟩
    · simp only [isInline, opens] at passes ⊢
      cases passes
      exact ⟨rfl, rfl⟩

end Indent

namespace TypeScope

/-- Whether a type whose brace ends at a position stays open at the end of the line. -/
def staysOpen (code : List Char) (bodyStart : Nat) : Bool :=
  (Text.findLast? '}' code).all fun close => close < bodyStart

/-- The state after a line that may close the innermost type. -/
def closed (code : List Char) (state : ScanState) : ScanState :=
  match state.types with
  | [] => state
  | scope :: types =>
    if (Text.trim code).head? == some '}' && state.depth + 1 == scope.depth then
      { state with types }
    else state

/-- The state after a line that may open or close a type. -/
def openedOrClosed (index : Nat) (code : List Char) (state : ScanState) : ScanState :=
  match (Member.bareStart.matchStart? code).bind (headOf? index) with
  | some head => { state with pendingType := some ⟨head, index⟩ }
  | none =>
    match Member.braceStart.matchStart? code with
    | some found =>
      match headOf? index found with
      | some head => if staysOpen code found.stop then state.openType head else state
      | none => closed code state
    | none => closed code state

/-- The state after the types of a line of code are settled. -/
def settled (index : Nat) (code : List Char) (state : ScanState) : ScanState :=
  match state.pendingType with
  | some pending =>
    if pending.line = index then openedOrClosed index code state
    else
      let given := { state with pendingType := none }
      if (Text.trim code).head? == some '{' then given.openType pending.head
      else openedOrClosed index code given
  | none => openedOrClosed index code state

theorem state_of_openWithBrace {index bodyStart : Nat} {code : List Char} {head : TypeHead}
    {state next : ScanState} {diagnostics : Option (List Diagnostic)}
    (passes : openWithBrace index code head bodyStart state = .ok (diagnostics, next)) :
    next = if staysOpen code bodyStart then state.openType head else state := by
  unfold openWithBrace at passes
  unfold staysOpen
  cases closes : Text.findLast? '}' code with
  | none =>
    simp only [closes] at passes
    cases passes
    rfl
  | some close =>
    simp only [closes] at passes
    by_cases inside : bodyStart ≤ close
    · rw [if_pos inside] at passes
      obtain ⟨found, -, passes⟩ := Answer.bind_eq_ok.mp passes
      cases passes
      rw [if_neg (by simpa using inside)]
    · rw [if_neg inside] at passes
      cases passes
      rw [if_pos (by simpa using inside)]

theorem state_of_closeInnermost {index : Nat} {code : List Char} {state next : ScanState}
    {diagnostics : Option (List Diagnostic)}
    (passes : closeInnermost index code state = .ok (diagnostics, next)) :
    next = closed code state := by
  unfold closeInnermost at passes
  unfold closed
  cases open' : state.types with
  | nil =>
    simp only [open', List.head?_nil] at passes
    cases passes
    rfl
  | cons scope types =>
    simp only [open', List.head?_cons] at passes
    by_cases closes : (Text.trim code).head? == some '}' && state.depth + 1 == scope.depth
    · simp only [closes, if_true, ScanState.closeType, open', Answer.ok_bind] at passes ⊢
      split at passes
      · obtain ⟨found, -, passes⟩ := Answer.bind_eq_ok.mp passes
        cases passes
        rfl
      · cases passes
        rfl
    · simp only [closes] at passes ⊢
      cases passes
      rfl

theorem state_of_openOrClose {index : Nat} {code : List Char} {state next : ScanState}
    {diagnostics : Option (List Diagnostic)}
    (passes : openOrClose index code state = .ok (diagnostics, next)) :
    next = openedOrClosed index code state := by
  unfold openOrClose at passes
  unfold openedOrClosed
  cases bare : (Member.bareStart.matchStart? code).bind (headOf? index) with
  | some head =>
    simp only [bare] at passes ⊢
    cases passes
    rfl
  | none =>
    simp only [bare] at passes ⊢
    cases braced : Member.braceStart.matchStart? code with
    | none =>
      simp only [braced] at passes ⊢
      exact state_of_closeInnermost passes
    | some found =>
      simp only [braced] at passes ⊢
      cases headed : headOf? index found with
      | none =>
        simp only [headed] at passes ⊢
        exact state_of_closeInnermost passes
      | some head =>
        simp only [headed] at passes ⊢
        exact state_of_openWithBrace passes

theorem state_of_step {index : Nat} {code : List Char} {state next : ScanState}
    {diagnostics : Option (List Diagnostic)}
    (passes : step index code state = .ok (diagnostics, next)) :
    next = settled index code state := by
  unfold step at passes
  unfold settled
  cases waiting : state.pendingType with
  | none =>
    simp only [waiting] at passes
    exact state_of_openOrClose passes
  | some pending =>
    simp only [waiting] at passes ⊢
    by_cases same : pending.line = index
    · rw [if_pos same] at passes ⊢
      exact state_of_openOrClose passes
    · rw [if_neg same] at passes ⊢
      by_cases braced : (Text.trim code).head? == some '{'
      · rw [if_pos braced] at passes ⊢
        cases passes
        rfl
      · rw [if_neg braced] at passes ⊢
        exact state_of_openOrClose passes

end TypeScope

namespace Scan

/-- The state after a statement. -/
def statementNext (site : Site) (state : ScanState) : ScanState :=
  let settled := Indent.settled site state
  if InlineControl.isInline site.line.code || ParamBlock.opens site.line.code then settled
  else TypeScope.settled site.index site.line.code settled

/-- The state after a line with code. -/
def codeNext (site : Site) (state : ScanState) : ScanState :=
  match state.paramBlock with
  | some block => ParamBlock.continued block site.line.code state
  | none =>
    if site.line.stripped.head? == some '#' || state.inDefinition then
      { state with inDefinition := (Text.trimRight site.line.raw).getLast? == some '\\' }
    else if (labelFindings? site.line.code).isSome then state
    else statementNext site state

/-- The state after a line, before the bodies that end with it are closed. -/
def lineNext (site : Site) (state : ScanState) : ScanState :=
  if site.line.isBlank then
    if site.line.before = .block then state else { state with blankRun := state.blankRun + 1 }
  else
    let inked := { state with blankRun := 0 }
    if site.line.isSkipped then inked else codeNext site inked

/-- The state after a line, as the next line finds it. -/
def advance (site : Site) (state : ScanState) : ScanState :=
  { CaseBlock.closeFinished site.index (lineNext site state) with comment := site.line.after }

variable {settings : Settings} {site : Site} {state next : ScanState}
  {diagnostics : List Diagnostic}

theorem state_of_settledStatement
    (passes : settledStatement settings site state = .ok (diagnostics, next)) :
    next = if InlineControl.isInline site.line.code then state
      else TypeScope.settled site.index site.line.code state := by
  unfold settledStatement at passes
  by_cases inline : InlineControl.isInline site.line.code
  · simp only [inline, if_true] at passes ⊢
    obtain ⟨found, -, passes⟩ := Answer.bind_eq_ok.mp passes
    cases passes
    rfl
  · simp only [inline] at passes ⊢
    obtain ⟨⟨closed, settled⟩, types, passes⟩ := Answer.bind_eq_ok.mp passes
    have same := TypeScope.state_of_step types
    cases closed with
    | some found =>
      cases passes
      exact same
    | none =>
      obtain ⟨findings, -, passes⟩ := Answer.bind_eq_ok.mp passes
      obtain ⟨reported, -, passes⟩ := Answer.bind_eq_ok.mp passes
      cases passes
      exact same

theorem state_of_statementLine
    (passes : statementLine settings site state = .ok (diagnostics, next)) :
    next = statementNext site state := by
  unfold statementLine at passes
  obtain ⟨indented, indent, passes⟩ := Answer.bind_eq_ok.mp passes
  obtain ⟨layout, -, passes⟩ := Answer.bind_eq_ok.mp passes
  rcases Indent.state_of_step indent with ⟨same, opened⟩
  unfold statementNext
  rw [opened, same] at passes
  by_cases inline : InlineControl.isInline site.line.code
  · simp only [inline, Bool.true_or, if_true, Bool.not_true, Bool.false_and] at passes ⊢
    obtain ⟨⟨found, settled⟩, statement, passes⟩ := Answer.bind_eq_ok.mp passes
    cases passes
    rw [state_of_settledStatement statement, if_pos inline]
  · by_cases opens : ParamBlock.opens site.line.code
    · simp only [inline, opens, Bool.or_true, if_true, Bool.not_false, Bool.and_self] at passes ⊢
      cases passes
      rfl
    · simp only [inline, opens, Bool.or_false, Bool.and_false] at passes ⊢
      obtain ⟨⟨found, settled⟩, statement, passes⟩ := Answer.bind_eq_ok.mp passes
      cases passes
      rw [state_of_settledStatement statement, if_neg inline]
      rfl

theorem state_of_codeLine (passes : codeLine settings site state = .ok (diagnostics, next)) :
    next = codeNext site state := by
  unfold codeLine at passes
  unfold codeNext
  cases inside : state.paramBlock with
  | some block =>
    simp only [inside] at passes
    obtain ⟨found, -, passes⟩ := Answer.bind_eq_ok.mp passes
    cases passes
    exact ParamBlock.state_proceed block site.line.raw site.line.code state
  | none =>
    simp only [inside] at passes ⊢
    by_cases directive : site.line.stripped.head? == some '#' || state.inDefinition
    · rw [if_pos directive] at passes ⊢
      obtain ⟨found, -, passes⟩ := Answer.bind_eq_ok.mp passes
      cases passes
      rw [inside]
    · rw [if_neg directive] at passes ⊢
      cases label : labelFindings? site.line.code with
      | some findings =>
        simp only [label] at passes
        obtain ⟨found, -, passes⟩ := Answer.bind_eq_ok.mp passes
        cases passes
        rfl
      | none =>
        simp only [label] at passes
        exact state_of_statementLine passes

/-- The end of a run of blank lines never fails, and its only complaint is about the run. -/
theorem endBlankRun_eq_ok (site : Site) (state : ScanState) :
    ∃ blanks, endBlankRun site state = .ok (blanks, { state with blankRun := 0 }) ∧
      ∀ diagnostic ∈ blanks, diagnostic.kind = Kind.tooManyBlankLines.name := by
  unfold endBlankRun
  by_cases several : 1 < state.blankRun
  · simp only [several, if_true]
    refine ⟨_, rfl, ?_⟩
    intro diagnostic member
    rw [List.mem_singleton.mp member]
  · simp only [several, if_false]
    refine ⟨[], rfl, ?_⟩
    intro diagnostic member
    exact absurd member List.not_mem_nil

theorem state_of_line (passes : line settings site state = .ok (diagnostics, next)) :
    next = lineNext site state := by
  unfold line at passes
  unfold lineNext
  by_cases blank : site.line.isBlank
  · rw [if_pos blank] at passes ⊢
    unfold blankLine at passes
    by_cases commented : site.line.before = .block
    · rw [if_pos commented] at passes ⊢
      cases passes
      rfl
    · rw [if_neg commented] at passes ⊢
      obtain ⟨found, -, passes⟩ := Answer.bind_eq_ok.mp passes
      cases passes
      rfl
  · rw [if_neg blank] at passes ⊢
    unfold inkedLine at passes
    rcases endBlankRun_eq_ok site state with ⟨blanks, ended, -⟩
    rw [ended, Answer.ok_bind] at passes
    obtain ⟨findings, -, passes⟩ := Answer.bind_eq_ok.mp passes
    obtain ⟨raw, -, passes⟩ := Answer.bind_eq_ok.mp passes
    by_cases skipped : site.line.isSkipped
    · rw [if_pos skipped] at passes
      cases passes
      exact (if_pos skipped).symm
    · rw [if_neg skipped] at passes
      obtain ⟨content, -, passes⟩ := Answer.bind_eq_ok.mp passes
      obtain ⟨⟨others, settled⟩, code, passes⟩ := Answer.bind_eq_ok.mp passes
      cases passes
      rw [state_of_codeLine code]
      exact (if_neg skipped).symm

/-- A step that passes leaves the state that `advance` gives, whatever the settings. -/
theorem state_of_step (passes : step settings site state = .ok (diagnostics, next)) :
    next = advance site state := by
  unfold step at passes
  obtain ⟨⟨found, settled⟩, scanned, passes⟩ := Answer.bind_eq_ok.mp passes
  cases passes
  rw [state_of_line scanned]
  rfl

end Scan

end HouseStyle
