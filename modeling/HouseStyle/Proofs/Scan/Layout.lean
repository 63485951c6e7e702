import HouseStyle.Proofs.Scan.Kinds
import HouseStyle.Proofs.Scan.Run

/-!
Contract: lines about whose layout a scan has nothing to say.

Owns: the kinds of complaints about layout, what rules them out on a line, and runs over lines on
which they are ruled out.
Does not own: the programs that are laid out well.

Complaints about layout come from four places: the comparison of a line's width with the one
expected, the reading of a case label, and the rules of either style on braces.

Main statements: `LaidOut.reported` and `Course.run`.
-/

namespace HouseStyle

/-- The kinds of complaints about the layout of statements: their indentation, the bodies of their
cases, and the places of their braces. -/
def Kind.layout : List Kind :=
  [.indentationMismatch, .caseMissingBreak, .caseBlockBraces, .krElseSameLine,
    .krSpaceBeforeBrace, .krBraceSameLine, .allmanBraceOwnLine]

/-- All kinds that are named after a style are about layout. -/
theorem Kind.mem_layout_of_style {kind : Kind}
    (named : "KR_".isPrefixOf kind.name ∨ "ALLMAN_".isPrefixOf kind.name) : kind ∈ Kind.layout := by
  have each : ∀ kind ∈ Kind.all,
      "KR_".isPrefixOf kind.name ∨ "ALLMAN_".isPrefixOf kind.name → kind ∈ Kind.layout := by
    decide +kernel
  exact each kind kind.mem_all named

/-- The kinds of all other complaints. -/
def Kind.besidesLayout : List Kind :=
  Kind.all.filter fun kind => !Kind.layout.contains kind

/-- No complaint of another kind goes by the name of one about layout. -/
theorem Reported.not_layout {diagnostics : List Diagnostic}
    (reported : Reported Kind.besidesLayout diagnostics) {diagnostic : Diagnostic}
    (member : diagnostic ∈ diagnostics) : diagnostic.kind ∉ Kind.layout.map Kind.name := by
  have apart : ∀ kind ∈ Kind.besidesLayout, kind.name ∉ Kind.layout.map Kind.name := by
    decide +kernel
  obtain ⟨kind, among, named, -⟩ := reported diagnostic member
  rw [named]
  exact apart kind among

namespace Scan

/-- A line that is expected where it is, that has nothing wrong with its label if it has one, and
whose braces both styles accept, the one in force included. -/
structure LaidOut (settings : Settings) (site : Site) (state : ScanState) : Prop where
  place : (Source.indentWidth site.line.raw : Int) = Indent.expectedAt site.line state
  label : ∀ (state : ScanState) (outcome : List Finding × ScanState),
    Indent.labelOutcome site state = .ok outcome → outcome.1 = []
  krElse : ∀ state, Brace.krElse (site.view settings state) = .ok []
  krBrace : ∀ state, Brace.krBrace (site.view settings state) = .ok []
  allmanBrace : ∀ state, Brace.allmanBrace (site.view settings state) = []

namespace LaidOut

variable {settings : Settings} {site : Site} {state : ScanState}
  (laidOut : LaidOut settings site state)
include laidOut

/-- The rules on braces find nothing, and the others complain about other things. -/
theorem rules {phase : Phase} {state : ScanState} {findings : List Finding}
    (ruled : Rule.runPhase phase (site.view settings state) = .ok findings) :
    ∀ finding ∈ findings, finding.kind ∈ Kind.besidesLayout := by
  have rawKinds : ∀ rule ∈ Rule.rawRules, rule.kinds ⊆ Kind.besidesLayout := by decide
  have contentKinds : ∀ rule ∈ Rule.contentRules, rule.kinds ⊆ Kind.besidesLayout := by decide
  have firstKinds : ∀ rule ∈ Rule.statementRules.take 2, rule.kinds ⊆ Kind.besidesLayout := by
    decide
  have lastKinds : ∀ rule ∈ Rule.statementRules.drop 5, rule.kinds ⊆ Kind.besidesLayout := by
    decide
  have split : Rule.statementRules = Rule.statementRules.take 2 ++
      ⟨"kr_else", .statement, [.krElseSameLine], Brace.krElse⟩ ::
      ⟨"kr_brace", .statement, [.krSpaceBeforeBrace, .krBraceSameLine], Brace.krBrace⟩ ::
      Rule.total "allman_brace" .statement [.allmanBraceOwnLine] Brace.allmanBrace ::
        Rule.statementRules.drop 5 := rfl
  intro finding member
  obtain ⟨rule, inPhase, kind, found, answered, inside⟩ :=
    Rule.exists_of_mem_runPhase ruled member
  cases phase with
  | raw => exact rawKinds rule inPhase kind
  | content => exact contentKinds rule inPhase kind
  | statement =>
    rw [Rule.ofPhase, split, List.mem_append, List.mem_cons, List.mem_cons, List.mem_cons] at inPhase
    rcases inPhase with first | rfl | rfl | rfl | last
    · exact firstKinds rule first kind
    · cases (laidOut.krElse state).symm.trans answered
      exact absurd inside List.not_mem_nil
    · cases (laidOut.krBrace state).symm.trans answered
      exact absurd inside List.not_mem_nil
    · have nothing : Except.ok (Brace.allmanBrace (site.view settings state)) = .ok found := answered
      rw [laidOut.allmanBrace state] at nothing
      cases nothing
      exact absurd inside List.not_mem_nil
    · exact lastKinds rule last kind

/-- The indentation of the line gives rise to findings about a list of parameters only. -/
theorem indentation {outcome : Indent.Outcome}
    (passes : Indent.step settings.chainLimit site site.previousCode { state with blankRun := 0 } =
      .ok outcome) :
    ∀ finding ∈ outcome.findings, finding.kind ∈ Kind.besidesLayout := by
  have matching : Indent.mismatchFindings site.line.raw (Indent.expectedAt site.line state) = [] :=
    if_pos laidOut.place
  rw [Indent.step_eq, expectedAt_blankRun] at passes
  simp only [matching] at passes
  obtain ⟨label, labelled, passes⟩ := Answer.bind_eq_ok.mp passes
  obtain ⟨inline, -, passes⟩ := Answer.bind_eq_ok.mp passes
  rw [laidOut.label _ label labelled] at passes
  have nothing : ∀ finding ∈ ([] : List Finding), finding.kind ∈ Kind.besidesLayout :=
    fun _ member => absurd member List.not_mem_nil
  split at passes
  · cases passes
    exact nothing
  · split at passes
    next opens =>
      obtain ⟨list, started, passes⟩ := Answer.bind_eq_ok.mp passes
      obtain ⟨listToo, startedToo, declared⟩ := ParamBlock.start_answers opens
        (Indent.expectedAt site.line state) site.previousCode label.2
      rw [started] at startedToo
      cases startedToo
      cases passes
      have kinds : ParamBlock.kinds ⊆ Kind.besidesLayout := by decide
      exact fun finding member => kinds (declared finding member).1
    next =>
      cases passes
      exact nothing

theorem sources : Sources Kind.besidesLayout settings site state where
  fixed := by decide
  rules := fun _ _ _ ruled => laidOut.rules ruled
  indentation := fun _ passes => laidOut.indentation passes

/-- A line that is laid out well gets no complaint about its layout. -/
theorem reported {next : ScanState} {diagnostics : List Diagnostic}
    (passes : step settings site state = .ok (diagnostics, next)) :
    Reported Kind.besidesLayout diagnostics :=
  reported_of_step laidOut.sources passes

end LaidOut

/-! ## Runs -/

/-- A scan of some lines, between others before and after, from one state to another: no line fails,
and every line is laid out well. The lines before are listed from the nearest on. -/
inductive Course (settings : Settings) :
    Nat → List Line → ScanState → List Line → List Line → ScanState → Prop
  | nil {index : Nat} {before : List Line} {state : ScanState} {after : List Line} :
    Course settings index before state [] after state
  | cons {index : Nat} {before : List Line} {state : ScanState} {line : Line}
    {rest after : List Line} {next : ScanState}
    (passes : fault? settings ⟨index, before, line, rest ++ after⟩ state = none)
    (laidOut : LaidOut settings ⟨index, before, line, rest ++ after⟩ state)
    (later : Course settings (index + 1) (line :: before)
      (advance ⟨index, before, line, rest ++ after⟩ state) rest after next) :
    Course settings index before state (line :: rest) after next

namespace Course

variable {settings : Settings} {index : Nat} {before after : List Line} {state next : ScanState}

theorem one {line : Line} (passes : fault? settings ⟨index, before, line, after⟩ state = none)
    (laidOut : LaidOut settings ⟨index, before, line, after⟩ state) :
    Course settings index before state [line] after (advance ⟨index, before, line, after⟩ state) :=
  .cons passes laidOut .nil

/-- A scan goes on where another ends. -/
theorem append {first second : List Line} {middle : ScanState}
    (earlier : Course settings index before state first (second ++ after) middle)
    (later : Course settings (index + first.length) (first.reverse ++ before) middle second after
      next) :
    Course settings index before state (first ++ second) after next := by
  induction first generalizing index before state with
  | nil =>
    cases earlier
    exact later
  | cons line first inductionHypothesis =>
    cases earlier with
    | cons passes laidOut rest =>
      rw [← List.append_assoc] at passes laidOut rest
      refine .cons passes laidOut (inductionHypothesis rest ?_)
      rw [List.length_cons, List.reverse_cons, List.append_assoc] at later
      rwa [Nat.add_assoc, Nat.add_comm 1]

/-- Such a scan gets through, without complaints about layout. -/
theorem run {lines : List Line} (course : Course settings index before state lines [] next) :
    ∃ records, runFrom settings index before state lines = (records, none) ∧
      records.length = lines.length ∧
      (∀ record ∈ records, Reported Kind.besidesLayout record.diagnostics) ∧
      (records.getLast?.map Record.state).getD state = next := by
  induction lines generalizing index before state with
  | nil =>
    cases course
    exact ⟨[], rfl, rfl, fun _ member => absurd member List.not_mem_nil, rfl⟩
  | cons line lines inductionHypothesis =>
    cases course with
    | cons passes laidOut rest =>
      rw [List.append_nil] at passes laidOut rest
      have outcome := step_outcome settings ⟨index, before, line, lines⟩ state
      rw [passes] at outcome
      obtain ⟨diagnostics, step, -⟩ := outcome
      obtain ⟨records, later, length, reported, last⟩ := inductionHypothesis rest
      refine ⟨⟨index, diagnostics, advance ⟨index, before, line, lines⟩ state⟩ :: records,
        ?_, ?_, ?_, ?_⟩
      · rw [runFrom_cons_ok step, later]
      · rw [List.length_cons, List.length_cons, length]
      · exact List.forall_mem_cons.mpr ⟨laidOut.reported step, reported⟩
      · rw [← last, List.getLast?_cons]
        cases records.getLast? <;> rfl

end Course

end Scan

end HouseStyle
