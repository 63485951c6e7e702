import HouseStyle.Proofs.Scan.Findings

/-!
Contract: the outcome of a line.

Owns: which fault a line raises, if any, and which complaints about its indentation it gets.
Does not own: the state after the line, which `Scan.advance` gives.

A line fails for three reasons only: the limit that it exceeds cannot be written, a number on it has
too many digits to be read, or it chains more control words than are followed. A complaint about the
indentation of a line comes from one place only, the comparison of its width with the one expected.

Main statement: `step_outcome`.
-/

namespace HouseStyle.Scan

/-- Whether a line is scanned as a statement: it has code, and is neither part of a list of
parameters, nor a directive or the continuation of one, nor a label for jumps. -/
def isStatement (line : Line) (state : ScanState) : Bool :=
  !line.isBlank && line.hasCode && state.paramBlock.isNone &&
    !(line.stripped.head? == some '#' || state.inDefinition) && (labelFindings? line.code).isNone

/-- The fault that the rules on raw lines raise on a line, which are run unless it is blank. -/
def lengthFault? (settings : Settings) (line : Line) : Option Fault :=
  if line.isBlank ∨ settings.Writable then none else some (.numeralTooLong none)

/-- The fault that the rules on content raise on a line. -/
def contentFault? (settings : Settings) (site : Site) (state : ScanState) : Option Fault :=
  if site.line.isBlank || !site.line.hasCode || isInclusion site.line then none
  else Rule.fault? .content (site.view settings state)

/-- The fault that a statement raises. -/
def chainFault? (settings : Settings) (line : Line) (state : ScanState) : Option Fault :=
  if isStatement line state &&
      settings.chainLimit.any fun count => InlineControl.chainsMoreThan count line.code then
    some .chainTooLong
  else none

/-- The fault that a line raises. -/
def fault? (settings : Settings) (site : Site) (state : ScanState) : Option Fault :=
  (lengthFault? settings site.line).or
    ((contentFault? settings site state).or (chainFault? settings site.line state))

theorem lengthFault?_eq_none_iff {settings : Settings} {line : Line} :
    lengthFault? settings line = none ↔ line.isBlank ∨ settings.Writable := by
  unfold lengthFault?
  split <;> simp_all

/-- With a limit that cannot be written every line fails that is not blank. -/
theorem fault?_of_not_writable {settings : Settings} (unwritable : ¬ settings.Writable)
    (site : Site) (state : ScanState) :
    fault? settings site state =
      if site.line.isBlank then none else some (.numeralTooLong none) := by
  unfold fault? lengthFault?
  by_cases blank : site.line.isBlank
  · simp [blank, contentFault?, chainFault?, isStatement]
  · rw [if_neg (not_or.mpr ⟨blank, unwritable⟩), Option.some_or, if_neg blank]

/-- Whether a scan of lines gets by with its limit: it can be written, or no line is compared with
it. -/
def WritesLimit (settings : Settings) (lines : List Line) : Prop :=
  settings.Writable ∨ ∀ line ∈ lines, line.isBlank

instance (settings : Settings) (lines : List Line) : Decidable (WritesLimit settings lines) :=
  inferInstanceAs (Decidable (_ ∨ _))

/-- One line that is not blank is enough for a limit that cannot be written. -/
theorem not_writesLimit {settings : Settings} {lines : List Line} {line : Line}
    (unwritable : ¬ settings.Writable) (member : line ∈ lines) (inked : ¬ line.isBlank) :
    ¬ WritesLimit settings lines :=
  not_or.mpr ⟨unwritable, fun blank => inked (blank line member)⟩

/-- The complaint about a line that is indented by the second width and expected at the first. -/
def mismatch (number : Nat) (expected : Int) (raw : List Char) : Diagnostic :=
  { line := number
    column := 0
    length := Source.leadingLength raw
    severity := Kind.indentationMismatch.severity
    kind := Kind.indentationMismatch.name
    message := "line should be indented to " ++ toString expected ++ " spaces (found " ++
      toString (Source.indentWidth raw) ++ ")" }

/-- The indentation at which a line is expected, if it is a statement. -/
def expected? (line : Line) (state : ScanState) : Option Int :=
  if isStatement line state then some (Indent.expectedAt line state) else none

/-- The complaint about a statement that is not where it is expected. -/
def statementMismatches (site : Site) (state : ScanState) : List Diagnostic :=
  let expected := Indent.expectedAt site.line state
  if (Source.indentWidth site.line.raw : Int) != expected then
    [mismatch site.number expected site.line.raw]
  else []

/-- The complaints about the indentation of a line. -/
def mismatches (site : Site) (state : ScanState) : List Diagnostic :=
  if isStatement site.line state then statementMismatches site state else []

/-- A complaint about indentation. -/
def isMismatch (diagnostic : Diagnostic) : Bool :=
  diagnostic.kind == Kind.indentationMismatch.name

/-- Diagnostics without a complaint about indentation. -/
def Quiet (diagnostics : List Diagnostic) : Prop :=
  ∀ diagnostic ∈ diagnostics, isMismatch diagnostic = false

theorem Quiet.append {diagnostics others : List Diagnostic} (quiet : Quiet diagnostics)
    (quietOthers : Quiet others) : Quiet (diagnostics ++ others) :=
  List.forall_mem_append.mpr ⟨quiet, quietOthers⟩

theorem Quiet.filter_eq_nil {diagnostics : List Diagnostic} (quiet : Quiet diagnostics) :
    diagnostics.filter isMismatch = [] :=
  List.filter_eq_nil_iff.mpr fun diagnostic member => by simp [quiet diagnostic member]

theorem quiet_of_reported {kinds : List Kind} {diagnostics : List Diagnostic}
    (reported : Reported kinds diagnostics)
    (others : ∀ kind ∈ kinds, kind.name ≠ Kind.indentationMismatch.name) : Quiet diagnostics := by
  intro diagnostic member
  rcases reported diagnostic member with ⟨kind, among, same, -⟩
  unfold isMismatch
  rw [same]
  simpa using others kind among

theorem report_quiet {kinds : List Kind} {findings : List Finding}
    (declared : Declared kinds findings)
    (others : ∀ kind ∈ kinds, kind.name ≠ Kind.indentationMismatch.name) (site : Site) :
    ∃ diagnostics, report site findings = .ok diagnostics ∧ Quiet diagnostics := by
  rcases report_answers declared site with ⟨diagnostics, answers, reported⟩
  exact ⟨diagnostics, answers, quiet_of_reported reported others⟩

theorem report_append (site : Site) (findings others : List Finding) :
    report site (findings ++ others) = (do
      let diagnostics ← report site findings
      let more ← report site others
      return diagnostics ++ more) := by
  unfold report
  rw [List.mapM_append]

/-- The comparison of the width of a line with the one expected, as diagnostics. -/
theorem report_mismatchFindings (site : Site) (raw : List Char) (expected : Int) :
    report site (Indent.mismatchFindings raw expected) =
      .ok (if (Source.indentWidth raw : Int) != expected then [mismatch site.number expected raw]
        else []) := by
  unfold Indent.mismatchFindings
  by_cases same : (Source.indentWidth raw : Int) = expected
  · simp only [same, if_true, bne_self_eq_false]
    rfl
  · have message : Kind.indentationMismatch.template.format
        [.number (.measure expected), .number (.measure (Source.indentWidth raw))] =
        .ok ("line should be indented to " ++ toString expected ++ " spaces (found " ++
          toString (Source.indentWidth raw) ++ ")") := by
      show Except.ok ("line should be indented to " ++ (toString expected ++ (" spaces (found " ++
        (toString (Source.indentWidth raw : Int) ++ (")" ++ ""))))) = _
      simp only [String.append_assoc, String.append_empty]
      rfl
    have nonnegative : max (Source.leadingLength raw : Int) 0 = Source.leadingLength raw :=
      Int.max_eq_left (Int.natCast_nonneg _)
    simp only [same, if_false, bne_iff_ne, ne_eq, not_false_eq_true, if_true, report,
      List.mapM_cons, List.mapM_nil, Finding.onLine, Kind.diagnostic, message, Answer.ok_bind,
      Answer.pure_eq_ok, nonnegative, Int.max_self]
    rfl

theorem labelOutcome_answers (site : Site) (state : ScanState) :
    ∃ outcome, Indent.labelOutcome site state = .ok outcome ∧
      Declared CaseBlock.kinds outcome.1 := by
  unfold Indent.labelOutcome
  simp only
  split
  · exact CaseBlock.analyze_answers _ _ _
  · exact ⟨_, rfl, Declared.nil⟩

theorem indentStep_eq_error {limit : Option Nat} {site : Site}
    (long : limit.any fun count => InlineControl.chainsMoreThan count site.line.code)
    (previousCode : List Char) (state : ScanState) :
    Indent.step limit site previousCode state = .error .chainTooLong := by
  rcases labelOutcome_answers site state with ⟨label, answers, -⟩
  rw [Indent.step_eq, answers, Answer.ok_bind, InlineControl.isInlineWithin, if_pos long]
  rfl

/-- A statement answers with the comparison of its width first, and with findings about labels and
lists of parameters after it. -/
theorem indentStep_answers {limit : Option Nat} {site : Site}
    (short : ¬ limit.any fun count => InlineControl.chainsMoreThan count site.line.code)
    (previousCode : List Char) (state : ScanState) :
    ∃ outcome others, Indent.step limit site previousCode state = .ok outcome ∧
      outcome.findings =
        Indent.mismatchFindings site.line.raw (Indent.expectedAt site.line state) ++ others ∧
      Declared (CaseBlock.kinds ++ ParamBlock.kinds) others := by
  rcases labelOutcome_answers site state with ⟨label, answers, declared⟩
  have labelKinds : Declared (CaseBlock.kinds ++ ParamBlock.kinds) label.1 :=
    declared.mono (List.subset_append_left _ _)
  rw [Indent.step_eq, answers, Answer.ok_bind, InlineControl.isInlineWithin, if_neg short,
    Answer.ok_bind]
  split
  · exact ⟨_, _, rfl, rfl, labelKinds⟩
  · split
    next opens =>
      obtain ⟨list, listAnswers, listKinds⟩ := ParamBlock.start_answers opens
        (Indent.expectedAt site.line state) previousCode label.2
      rw [listAnswers, Answer.ok_bind]
      refine ⟨_, label.1 ++ list.1, rfl, ?_, ?_⟩
      · exact List.append_assoc _ _ _
      · exact Declared.append.mpr ⟨labelKinds, listKinds.mono (List.subset_append_right _ _)⟩
    next => exact ⟨_, _, rfl, rfl, labelKinds⟩

theorem settledStatement_answers (settings : Settings) (site : Site) (state : ScanState) :
    ∃ diagnostics next, settledStatement settings site state = .ok (diagnostics, next) ∧
      Quiet diagnostics := by
  unfold settledStatement
  simp only
  split
  · obtain ⟨diagnostics, answers, quiet⟩ :=
      report_quiet (InlineControl.declared_findings site.line.code) (by decide) site
    rw [answers, Answer.ok_bind]
    exact ⟨_, _, rfl, quiet⟩
  · obtain ⟨closed, settled, answers, reported⟩ :=
      TypeScope.step_answers site.index site.line.code state
    rw [answers, Answer.ok_bind]
    cases closed with
    | some diagnostics => exact ⟨_, _, rfl, quiet_of_reported (reported _ rfl) (by decide)⟩
    | none =>
      obtain ⟨findings, found, declared⟩ :=
        Rule.runPhase_answers (show Rule.fault? .statement (site.view settings settled) = none from rfl)
      rcases report_quiet declared (by decide) site with ⟨diagnostics, given, quiet⟩
      simp only [found, given, Answer.ok_bind]
      exact ⟨_, _, rfl, quiet⟩

theorem filter_statementMismatches (site : Site) (state : ScanState) :
    (statementMismatches site state).filter isMismatch = statementMismatches site state := by
  apply List.filter_eq_self.mpr
  intro diagnostic member
  unfold statementMismatches at member
  rcases List.mem_ite_nil_right.mp member with ⟨-, same⟩
  rw [List.mem_singleton.mp same]
  rfl

theorem statementLine_answers {settings : Settings} {site : Site}
    (short : ¬ settings.chainLimit.any fun count =>
      InlineControl.chainsMoreThan count site.line.code) (state : ScanState) :
    ∃ diagnostics next, statementLine settings site state = .ok (diagnostics, next) ∧
      diagnostics.filter isMismatch = statementMismatches site state := by
  obtain ⟨indented, others, indent, findings, declared⟩ :=
    indentStep_answers short (site.view settings state).previousCode state
  rcases report_quiet declared (by decide) site with ⟨more, answers, quiet⟩
  have layout : report site indented.findings = .ok (statementMismatches site state ++ more) := by
    rw [findings, report_append, report_mismatchFindings, answers]
    rfl
  have first : (statementMismatches site state ++ more).filter isMismatch =
      statementMismatches site state := by
    rw [List.filter_append, quiet.filter_eq_nil, List.append_nil, filter_statementMismatches]
  unfold statementLine
  simp only [indent, layout, Answer.ok_bind]
  split
  · exact ⟨_, _, rfl, first⟩
  · obtain ⟨rest, next, settled, quietRest⟩ :=
      settledStatement_answers settings site indented.state
    rw [settled, Answer.ok_bind]
    refine ⟨_, _, rfl, ?_⟩
    rw [List.filter_append, first, quietRest.filter_eq_nil, List.append_nil]

theorem statementLine_eq_error {settings : Settings} {site : Site}
    (long : settings.chainLimit.any fun count => InlineControl.chainsMoreThan count site.line.code)
    (state : ScanState) : statementLine settings site state = .error .chainTooLong := by
  unfold statementLine
  simp only [indentStep_eq_error long, Answer.error_bind]

/-! ## Lines with code -/

/-- What is known of an outcome: the fault if there is one, and the complaints about indentation
otherwise. -/
def Answered (fault : Option Fault) (complaints : List Diagnostic)
    (answer : Except Fault Outcome) : Prop :=
  match fault with
  | some fault => answer = .error fault
  | none => ∃ diagnostics next, answer = .ok (diagnostics, next) ∧
      diagnostics.filter isMismatch = complaints

theorem answered_quiet {diagnostics : List Diagnostic} (quiet : Quiet diagnostics)
    (next : ScanState) : Answered none [] (.ok (diagnostics, next)) :=
  ⟨_, _, rfl, quiet.filter_eq_nil⟩

theorem directiveLine_answers (site : Site) (state : ScanState) :
    Answered none [] (directiveLine site state) := by
  have declared : Declared [.includeIndented]
      (if isInclusion site.line && 0 < Source.leadingLength site.line.raw then
        [⟨.includeIndented, 0, Source.leadingLength site.line.raw, []⟩] else []) := by
    refine Declared.ite (fun _ => ?_) (fun _ => Declared.nil)
    exact Declared.one (by decide) ⟨_, rfl⟩
  rcases report_quiet declared (by decide) site with ⟨diagnostics, answers, quiet⟩
  simp only [directiveLine, answers, Answer.ok_bind]
  exact answered_quiet quiet _

theorem codeLine_answers (settings : Settings) {site : Site} (state : ScanState)
    (inked : site.line.isBlank = false) (code : site.line.hasCode = true) :
    Answered (chainFault? settings site.line state) (mismatches site state)
      (codeLine settings site state) := by
  unfold codeLine chainFault? mismatches
  cases inside : state.paramBlock with
  | some block =>
    have other : isStatement site.line state = false := by simp [isStatement, inside]
    obtain ⟨diagnostics, answers, quiet⟩ := report_quiet
      (ParamBlock.declared_proceed block site.line.raw site.line.code state) (by decide) site
    simp only [other, answers, Bool.false_and, Answer.ok_bind]
    exact answered_quiet quiet _
  | none =>
    by_cases directive : site.line.stripped.head? == some '#' || state.inDefinition
    · have other : isStatement site.line state = false := by simp [isStatement, directive]
      simp only [other, directive, if_true, Bool.false_and]
      exact directiveLine_answers site state
    · cases label : labelFindings? site.line.code with
      | some findings =>
        have other : isStatement site.line state = false := by simp [isStatement, label]
        obtain ⟨diagnostics, answers, quiet⟩ :=
          report_quiet (declared_labelFindings? label) (by decide) site
        simp only [other, directive, answers, Bool.false_and, Answer.ok_bind]
        exact answered_quiet quiet _
      | none =>
        have statement : isStatement site.line state = true := by
          simp [isStatement, inside, label, inked, code]
          simpa using directive
        simp only [statement, directive, Bool.true_and, if_true]
        by_cases long : settings.chainLimit.any fun count =>
            InlineControl.chainsMoreThan count site.line.code
        · rw [if_pos long]
          exact statementLine_eq_error long state
        · rw [if_neg long]
          exact statementLine_answers long state

/-! ## Every line -/

theorem expectedAt_blankRun (line : Line) (state : ScanState) (blanks : Nat) :
    Indent.expectedAt line { state with blankRun := blanks } = Indent.expectedAt line state := by
  unfold Indent.expectedAt Indent.outside
  split <;> rfl

theorem mismatches_blankRun (site : Site) (state : ScanState) (blanks : Nat) :
    mismatches site { state with blankRun := blanks } = mismatches site state := by
  unfold mismatches statementMismatches
  rw [expectedAt_blankRun]
  rfl

theorem contentDiagnostics_answers (settings : Settings) {site : Site} (state : ScanState)
    (inked : site.line.isBlank = false) (code : site.line.hasCode = true) :
    match contentFault? settings site state with
    | some fault => contentDiagnostics settings site state = .error fault
    | none => ∃ diagnostics, contentDiagnostics settings site state = .ok diagnostics ∧
        Quiet diagnostics := by
  unfold contentFault? contentDiagnostics
  simp only [inked, code, Bool.not_true, Bool.false_or]
  by_cases inclusion : isInclusion site.line
  · simp only [inclusion, if_true]
    exact ⟨[], rfl, fun diagnostic member => absurd member List.not_mem_nil⟩
  · simp only [inclusion]
    cases fails : Rule.fault? .content (site.view settings state) with
    | some fault =>
      simp only [Rule.runPhase_eq_error fails]
      rfl
    | none =>
      rcases Rule.runPhase_answers fails with ⟨findings, phase, declared⟩
      rcases report_quiet declared (by decide) site with ⟨diagnostics, answers, quiet⟩
      simp only [phase, answers, Answer.ok_bind]
      exact ⟨_, rfl, quiet⟩

theorem inkedLine_eq_error {settings : Settings} (unwritable : ¬ settings.Writable) (site : Site)
    (state : ScanState) : inkedLine settings site state = .error (.numeralTooLong none) := by
  obtain ⟨blanks, ended, -⟩ := endBlankRun_eq_ok site state
  have fails := report_lineLength_eq_error
    (show ¬ (site.view settings { state with blankRun := 0 }).settings.Writable from unwritable)
  unfold inkedLine
  simp only [ended, Answer.ok_bind, Rule.runPhase_raw, fails, Answer.error_bind]

theorem inkedLine_answers (settings : Settings) {site : Site} (state : ScanState)
    (inked : site.line.isBlank = false) :
    Answered (fault? settings site state) (mismatches site state)
      (inkedLine settings site state) := by
  rcases endBlankRun_eq_ok site state with ⟨blanks, ended, run⟩
  have quietBlanks : Quiet blanks := by
    intro diagnostic member
    unfold isMismatch
    rw [run diagnostic member]
    rfl
  unfold fault?
  by_cases writable : settings.Writable
  case neg =>
    rw [inkedLine_eq_error writable, show lengthFault? settings site.line = _ from
      if_neg (not_or.mpr ⟨by simp [inked], writable⟩)]
    rfl
  rw [show lengthFault? settings site.line = none from if_pos (.inr writable), Option.none_or]
  unfold inkedLine
  obtain ⟨findings, phase, declared⟩ := Rule.runPhase_answers
    (show Rule.fault? .raw (site.view settings { state with blankRun := 0 }) = none from
      if_pos writable)
  rcases report_quiet declared (by decide) site with ⟨raw, answers, quietRaw⟩
  simp only [ended, phase, answers, Answer.ok_bind]
  by_cases code : site.line.hasCode
  · have scanned : site.line.isSkipped = false := by simp [Line.isSkipped, code]
    have sameFault : contentFault? settings site { state with blankRun := 0 } =
        contentFault? settings site state := rfl
    have sameChain : chainFault? settings site.line { state with blankRun := 0 } =
        chainFault? settings site.line state := rfl
    have content := contentDiagnostics_answers settings { state with blankRun := 0 } inked code
    have others := codeLine_answers settings { state with blankRun := 0 } inked code
    rw [sameFault] at content
    rw [sameChain, mismatches_blankRun] at others
    simp only [scanned]
    cases contentFails : contentFault? settings site state with
    | some fault =>
      rw [contentFails] at content
      simp only [show contentDiagnostics settings site _ = _ from content]
      rfl
    | none =>
      rw [contentFails] at content
      rcases content with ⟨diagnostics, given, quiet⟩
      simp only [given, Answer.ok_bind, Option.none_or]
      cases chainFails : chainFault? settings site.line state with
      | some fault =>
        rw [chainFails] at others
        simp only [show codeLine settings site _ = _ from others]
        rfl
      | none =>
        rw [chainFails] at others
        rcases others with ⟨more, next, scan, complaints⟩
        simp only [scan, Answer.ok_bind]
        refine ⟨_, _, rfl, ?_⟩
        rw [List.filter_append, complaints,
          ((quietBlanks.append quietRaw).append quiet).filter_eq_nil, List.nil_append]
  · have skipped : site.line.isSkipped = true := by simp [Line.isSkipped, code, inked]
    have none : (contentFault? settings site state).or (chainFault? settings site.line state) =
        none := by
      simp [contentFault?, chainFault?, isStatement, code]
    have noMismatch : mismatches site state = [] := by simp [mismatches, isStatement, code]
    rw [if_pos skipped, none, noMismatch]
    exact answered_quiet (quietBlanks.append quietRaw) _

theorem blankLine_answers (site : Site) (state : ScanState) :
    Answered none [] (blankLine site state) := by
  unfold blankLine
  split
  · exact answered_quiet (fun diagnostic member => absurd member List.not_mem_nil) _
  · have declared : Declared [.blankLineIndented]
        (if site.line.raw.isEmpty then []
          else [⟨.blankLineIndented, 0, site.line.raw.length, []⟩]) := by
      refine Declared.ite (fun _ => Declared.nil) (fun _ => ?_)
      exact Declared.one (by decide) ⟨_, rfl⟩
    rcases report_quiet declared (by decide) site with ⟨diagnostics, answers, quiet⟩
    simp only [answers, Answer.ok_bind]
    exact answered_quiet quiet _

theorem line_answers (settings : Settings) (site : Site) (state : ScanState) :
    Answered (fault? settings site state) (mismatches site state) (line settings site state) := by
  unfold line
  by_cases blank : site.line.isBlank
  · have none : fault? settings site state = none := by
      simp [fault?, lengthFault?, contentFault?, chainFault?, isStatement, blank]
    have noMismatch : mismatches site state = [] := by simp [mismatches, isStatement, blank]
    rw [if_pos blank, none, noMismatch]
    exact blankLine_answers site state
  · rw [if_neg blank]
    exact inkedLine_answers settings state (by simpa using blank)

/-- A line raises its fault, or leaves the state that `advance` gives and gets the complaints about
its indentation that `mismatches` lists. -/
theorem step_outcome (settings : Settings) (site : Site) (state : ScanState) :
    match fault? settings site state with
    | some fault => step settings site state = .error fault
    | none => ∃ diagnostics, step settings site state = .ok (diagnostics, advance site state) ∧
        diagnostics.filter isMismatch = mismatches site state := by
  have answers := line_answers settings site state
  cases fails : fault? settings site state with
  | some fault =>
    rw [fails] at answers
    simp only [step, show line settings site state = .error fault from answers]
    rfl
  | none =>
    rw [fails] at answers
    rcases answers with ⟨diagnostics, next, scan, complaints⟩
    refine ⟨diagnostics, ?_, complaints⟩
    rw [step, scan, state_of_line scan]
    rfl

end HouseStyle.Scan
