import HouseStyle.Proofs.Scan.Outcome

/-!
Contract: where the complaints about a line come from.

Owns: the places in a step at which complaints arise, and the rule that what holds of the complaints
from every place holds of all complaints about the line.
Does not own: what holds of them.

Most places yield findings, which a step reports on the line at hand. Two yield diagnostics at once,
which may name another line: the end of a run of blank lines, and the types.

Main statement: `Origins.forall_of_step`.
-/

namespace HouseStyle

/-- Among findings of the given kinds there is none of another kind. -/
theorem OfKinds.kind_ne {kinds : List Kind} {findings : List Finding} {kind : Kind}
    (ofKinds : OfKinds kinds findings) (other : kind ∉ kinds) :
    ∀ finding ∈ findings, finding.kind ≠ kind := by
  intro finding member same
  rw [← same] at other
  exact other (ofKinds finding member)

theorem Declared.kind_ne {kinds : List Kind} {findings : List Finding} {kind : Kind}
    (declared : Declared kinds findings) (other : kind ∉ kinds) :
    ∀ finding ∈ findings, finding.kind ≠ kind :=
  declared.ofKinds.kind_ne other

namespace Scan

/-- What is known of the findings from every place in a step, and of the diagnostics made of them. -/
structure Origins (Fits : Finding → Prop) (Holds : Diagnostic → Prop) (settings : Settings)
    (site : Site) (state : ScanState) : Prop where
  reported : ∀ finding diagnostic, Fits finding → finding.onLine site.number = .ok diagnostic →
    Holds diagnostic
  blankRun : 1 < state.blankRun → ∀ diagnostic,
    Kind.tooManyBlankLines.diagnostic site.index 0 0 [.number (.measure state.blankRun)] =
        .ok diagnostic →
      Holds diagnostic
  indentedBlank : Fits ⟨.blankLineIndented, 0, site.line.raw.length, []⟩
  rules : ∀ phase state findings, (phase ≠ .raw → site.line.hasCode) →
    Rule.runPhase phase (site.view settings state) = .ok findings →
      ∀ finding ∈ findings, Fits finding
  list : site.line.hasCode → ∀ block, ∀ finding ∈
    (ParamBlock.proceed block site.line.raw site.line.code { state with blankRun := 0 }).1,
      Fits finding
  directive : Fits ⟨.includeIndented, 0, Source.leadingLength site.line.raw, []⟩
  label : ∀ findings, labelFindings? site.line.code = some findings →
    ∀ finding ∈ findings, Fits finding
  indentation : ∀ outcome : Indent.Outcome,
    Indent.step settings.chainLimit site site.previousCode { state with blankRun := 0 } =
        .ok outcome →
      ∀ finding ∈ outcome.findings, Fits finding
  inline : InlineControl.isInline site.line.code →
    ∀ finding ∈ InlineControl.findings site.line.code, Fits finding
  types : ∀ diagnostics next, TypeScope.step site.index site.line.code
      (Indent.settled site { state with blankRun := 0 }) = .ok (some diagnostics, next) →
    ∀ diagnostic ∈ diagnostics, Holds diagnostic

namespace Origins

variable {Fits : Finding → Prop} {Holds : Diagnostic → Prop} {settings : Settings} {site : Site}
  {state next : ScanState} {diagnostics : List Diagnostic}
  (origins : Origins Fits Holds settings site state)
include origins

theorem forall_of_report {findings : List Finding} (fit : ∀ finding ∈ findings, Fits finding)
    (given : report site findings = .ok diagnostics) :
    ∀ diagnostic ∈ diagnostics, Holds diagnostic := by
  intro diagnostic member
  obtain ⟨finding, among, printed⟩ := Answer.exists_of_mem_mapM given diagnostic member
  exact origins.reported finding diagnostic (fit finding among) printed

/-- A place that complains once, if at all. -/
theorem forall_of_report_ite {condition : Bool} {finding : Finding} (fits : Fits finding)
    (given : report site (if condition then [finding] else []) = .ok diagnostics) :
    ∀ diagnostic ∈ diagnostics, Holds diagnostic := by
  refine origins.forall_of_report ?_ given
  intro other member
  obtain ⟨-, same⟩ := List.mem_ite_nil_right.mp member
  rw [List.mem_singleton.mp same]
  exact fits

theorem forall_of_runPhase {phase : Phase} {seen : ScanState} {findings : List Finding}
    (coded : phase ≠ .raw → site.line.hasCode)
    (ruled : Rule.runPhase phase (site.view settings seen) = .ok findings)
    (given : report site findings = .ok diagnostics) :
    ∀ diagnostic ∈ diagnostics, Holds diagnostic :=
  origins.forall_of_report (origins.rules phase seen findings coded ruled) given

theorem forall_of_settledStatement (coded : site.line.hasCode)
    (passes : settledStatement settings site (Indent.settled site { state with blankRun := 0 }) =
      .ok (diagnostics, next)) :
    ∀ diagnostic ∈ diagnostics, Holds diagnostic := by
  unfold settledStatement at passes
  simp only at passes
  split at passes
  next inline =>
    obtain ⟨found, given, passes⟩ := Answer.bind_eq_ok.mp passes
    cases passes
    exact origins.forall_of_report (origins.inline inline) given
  next =>
    obtain ⟨⟨closed, settled⟩, answers, passes⟩ := Answer.bind_eq_ok.mp passes
    cases closed with
    | some found =>
      cases passes
      exact origins.types diagnostics next answers
    | none =>
      obtain ⟨findings, ruled, passes⟩ := Answer.bind_eq_ok.mp passes
      obtain ⟨found, given, passes⟩ := Answer.bind_eq_ok.mp passes
      cases passes
      exact origins.forall_of_runPhase (fun _ => coded) ruled given

theorem forall_of_statementLine (coded : site.line.hasCode)
    (passes : statementLine settings site { state with blankRun := 0 } = .ok (diagnostics, next)) :
    ∀ diagnostic ∈ diagnostics, Holds diagnostic := by
  unfold statementLine at passes
  obtain ⟨indented, indentation, passes⟩ := Answer.bind_eq_ok.mp passes
  obtain ⟨layout, given, passes⟩ := Answer.bind_eq_ok.mp passes
  have first := origins.forall_of_report (origins.indentation indented indentation) given
  split at passes
  · cases passes
    exact first
  · obtain ⟨⟨others, settled⟩, statement, passes⟩ := Answer.bind_eq_ok.mp passes
    cases passes
    rw [(Indent.state_of_step indentation).1] at statement
    exact List.forall_mem_append.mpr ⟨first, origins.forall_of_settledStatement coded statement⟩

theorem forall_of_codeLine (coded : site.line.hasCode)
    (passes : codeLine settings site { state with blankRun := 0 } = .ok (diagnostics, next)) :
    ∀ diagnostic ∈ diagnostics, Holds diagnostic := by
  unfold codeLine at passes
  split at passes
  next block _ =>
    obtain ⟨found, given, passes⟩ := Answer.bind_eq_ok.mp passes
    cases passes
    exact origins.forall_of_report (origins.list coded block) given
  next =>
    split at passes
    · obtain ⟨found, given, passes⟩ := Answer.bind_eq_ok.mp passes
      cases passes
      exact origins.forall_of_report_ite origins.directive given
    · split at passes
      next findings label =>
        obtain ⟨found, given, passes⟩ := Answer.bind_eq_ok.mp passes
        cases passes
        exact origins.forall_of_report (origins.label findings label) given
      next => exact origins.forall_of_statementLine coded passes

theorem forall_of_contentDiagnostics (coded : site.line.hasCode) {seen : ScanState}
    (passes : contentDiagnostics settings site seen = .ok diagnostics) :
    ∀ diagnostic ∈ diagnostics, Holds diagnostic := by
  unfold contentDiagnostics at passes
  split at passes
  · cases passes
    exact fun diagnostic member => absurd member List.not_mem_nil
  · obtain ⟨findings, ruled, given⟩ := Answer.bind_eq_ok.mp passes
    exact origins.forall_of_runPhase (fun _ => coded) ruled given

theorem forall_of_endBlankRun (passes : endBlankRun site state = .ok (diagnostics, next)) :
    (∀ diagnostic ∈ diagnostics, Holds diagnostic) ∧ next = { state with blankRun := 0 } := by
  unfold endBlankRun at passes
  split at passes
  next several =>
    obtain ⟨diagnostic, given, passes⟩ := Answer.bind_eq_ok.mp passes
    cases passes
    exact ⟨List.forall_mem_singleton.mpr (origins.blankRun several diagnostic given), rfl⟩
  next =>
    cases passes
    exact ⟨fun diagnostic member => absurd member List.not_mem_nil, rfl⟩

theorem forall_of_blankLine (passes : blankLine site state = .ok (diagnostics, next)) :
    ∀ diagnostic ∈ diagnostics, Holds diagnostic := by
  unfold blankLine at passes
  split at passes
  · cases passes
    exact fun diagnostic member => absurd member List.not_mem_nil
  · obtain ⟨found, given, passes⟩ := Answer.bind_eq_ok.mp passes
    cases passes
    refine origins.forall_of_report ?_ given
    intro finding member
    obtain ⟨-, same⟩ := List.mem_ite_nil_left.mp member
    rw [List.mem_singleton.mp same]
    exact origins.indentedBlank

theorem forall_of_inkedLine (inked : ¬ site.line.isBlank)
    (passes : inkedLine settings site state = .ok (diagnostics, next)) :
    ∀ diagnostic ∈ diagnostics, Holds diagnostic := by
  unfold inkedLine at passes
  obtain ⟨⟨blanks, settled⟩, ended, passes⟩ := Answer.bind_eq_ok.mp passes
  obtain ⟨heldBlanks, rfl⟩ := origins.forall_of_endBlankRun ended
  obtain ⟨findings, ruled, passes⟩ := Answer.bind_eq_ok.mp passes
  obtain ⟨raw, given, passes⟩ := Answer.bind_eq_ok.mp passes
  have first := List.forall_mem_append.mpr
    ⟨heldBlanks, origins.forall_of_runPhase (absurd rfl) ruled given⟩
  split at passes
  · cases passes
    exact first
  next unskipped =>
    obtain ⟨content, givenContent, passes⟩ := Answer.bind_eq_ok.mp passes
    obtain ⟨⟨others, settled⟩, givenOthers, passes⟩ := Answer.bind_eq_ok.mp passes
    cases passes
    have coded : site.line.hasCode := by
      simpa [Line.isSkipped, inked] using unskipped
    have second := List.forall_mem_append.mpr
      ⟨first, origins.forall_of_contentDiagnostics coded givenContent⟩
    exact List.forall_mem_append.mpr ⟨second, origins.forall_of_codeLine coded givenOthers⟩

/-- What holds of the complaints from every place holds of all complaints about a line. -/
theorem forall_of_step (passes : step settings site state = .ok (diagnostics, next)) :
    ∀ diagnostic ∈ diagnostics, Holds diagnostic := by
  unfold step line at passes
  obtain ⟨⟨found, settled⟩, scanned, passes⟩ := Answer.bind_eq_ok.mp passes
  cases passes
  split at scanned
  next => exact origins.forall_of_blankLine scanned
  next inked => exact origins.forall_of_inkedLine inked scanned

end Origins

/-- On a line with code that is no inclusion, all findings of the rules on content are reported. -/
theorem content_of_step {settings : Settings} {site : Site} {state next : ScanState}
    {diagnostics : List Diagnostic} (inked : site.line.isBlank = false) (coded : site.line.hasCode)
    (ordinary : isInclusion site.line = false)
    (passes : step settings site state = .ok (diagnostics, next)) :
    ∃ findings content,
      Rule.runPhase .content (site.view settings { state with blankRun := 0 }) = .ok findings ∧
        report site findings = .ok content ∧ content ⊆ diagnostics := by
  have unskipped : ¬ site.line.isSkipped := by simp [Line.isSkipped, coded]
  obtain ⟨blanks, ends, -⟩ := endBlankRun_eq_ok site state
  unfold step line at passes
  obtain ⟨⟨found, settled⟩, scanned, passes⟩ := Answer.bind_eq_ok.mp passes
  cases passes
  rw [if_neg (by simp [inked])] at scanned
  unfold inkedLine at scanned
  obtain ⟨⟨run, inkedState⟩, ended, scanned⟩ := Answer.bind_eq_ok.mp scanned
  rw [ends] at ended
  cases ended
  obtain ⟨findingsRaw, -, scanned⟩ := Answer.bind_eq_ok.mp scanned
  obtain ⟨raw, -, scanned⟩ := Answer.bind_eq_ok.mp scanned
  rw [if_neg unskipped] at scanned
  obtain ⟨content, given, scanned⟩ := Answer.bind_eq_ok.mp scanned
  obtain ⟨⟨others, after⟩, -, scanned⟩ := Answer.bind_eq_ok.mp scanned
  cases scanned
  unfold contentDiagnostics at given
  rw [if_neg (by simp [ordinary])] at given
  obtain ⟨findings, ruled, given⟩ := Answer.bind_eq_ok.mp given
  refine ⟨findings, content, ruled, given, fun diagnostic member => ?_⟩
  exact List.mem_append_left _ (List.mem_append_right _ member)

/-- The findings about the indentation of a statement are about its width, a label or a list. -/
theorem declared_indentStep {limit : Option Nat} {site : Site} {previousCode : List Char}
    {state : ScanState} {outcome : Indent.Outcome}
    (passes : Indent.step limit site previousCode state = .ok outcome) :
    Declared (.indentationMismatch :: (CaseBlock.kinds ++ ParamBlock.kinds)) outcome.findings := by
  by_cases long : limit.any fun count => InlineControl.chainsMoreThan count site.line.code
  · rw [indentStep_eq_error long] at passes
    cases passes
  · obtain ⟨outcomeToo, others, answers, findings, declared⟩ :=
      indentStep_answers long previousCode state
    rw [passes] at answers
    cases answers
    rw [findings]
    refine Declared.append.mpr ⟨?_, declared.mono (List.subset_cons_self _ _)⟩
    refine Declared.ite (fun _ => Declared.nil) fun _ => ?_
    exact Declared.one List.mem_cons_self ⟨_, rfl⟩

/-- The complaints of a step about types are of their kinds. -/
theorem reported_of_typeStep {index : Nat} {code : List Char} {state next : ScanState}
    {diagnostics : List Diagnostic}
    (answers : TypeScope.step index code state = .ok (some diagnostics, next)) :
    Reported TypeScope.kinds diagnostics := by
  obtain ⟨closed, settled, answersToo, reported⟩ := TypeScope.step_answers index code state
  rw [answers] at answersToo
  cases answersToo
  exact reported diagnostics rfl

end Scan

end HouseStyle
