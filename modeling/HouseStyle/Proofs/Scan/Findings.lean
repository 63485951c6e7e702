import HouseStyle.Proofs.Diagnostic
import HouseStyle.Proofs.Rule.Findings
import HouseStyle.Proofs.Scan.Advance

/-!
Contract: the state changes of a scan answer, with findings of known kinds.

Owns: the kinds of the diagnostics about cases, lists of parameters, one-line statements, labels and
types, and the searches that these rely on.
Does not own: the state after a line, which `Scan.advance` gives.

Only a chain of control words that is too long makes a state change fail.

Main statements: one per operation, named for it and ending in `_answers`.
-/

namespace HouseStyle

/-! ## Reports -/

theorem onLine_answers {finding : Finding} (printable : finding.Printable) (number : Int) :
    ∃ diagnostic, finding.onLine number = .ok diagnostic ∧ diagnostic.IsOf finding.kind := by
  rcases printable with ⟨message, written⟩
  unfold Finding.onLine Kind.diagnostic
  rw [written]
  exact ⟨_, rfl, rfl, finding.arguments, written⟩

theorem onLines_answers {kinds : List Kind} {findings : List Finding}
    (declared : Declared kinds findings) (number : Int) :
    ∃ diagnostics, (findings.mapM fun finding => finding.onLine number) = .ok diagnostics ∧
      Reported kinds diagnostics := by
  have answers : ∀ finding ∈ findings, ∃ diagnostic, finding.onLine number = .ok diagnostic ∧
      ∃ kind ∈ kinds, diagnostic.IsOf kind := by
    intro finding member
    rcases declared finding member with ⟨kind, printable⟩
    rcases onLine_answers printable number with ⟨diagnostic, given, same⟩
    exact ⟨diagnostic, given, finding.kind, kind, same⟩
  rcases Answer.mapM_answers answers with ⟨diagnostics, given, each⟩
  refine ⟨diagnostics, given, ?_⟩
  intro diagnostic member
  rcases each diagnostic member with ⟨-, -, known⟩
  exact known

theorem Scan.report_answers {kinds : List Kind} {findings : List Finding}
    (declared : Declared kinds findings) (site : Site) :
    ∃ diagnostics, Scan.report site findings = .ok diagnostics ∧ Reported kinds diagnostics :=
  onLines_answers declared site.number

/-- A limit that cannot be written is the fault of every line that the rules on raw lines read: it is
the first thing to be complained about. -/
theorem Scan.report_lineLength_eq_error {view : View} (unwritable : ¬ view.settings.Writable)
    (others : List Finding) (site : Site) :
    Scan.report site (Spacing.lineLength view ++ others) = .error (.numeralTooLong none) := by
  obtain ⟨finding, same, fails⟩ := Spacing.lineLength_eq_of_not_writable unwritable
  rw [same, List.singleton_append, Scan.report, List.mapM_cons, fails, Answer.error_bind]

/-! ## Cases -/

namespace CaseBlock

/-- The kinds of findings about a label. -/
def kinds : List Kind :=
  [.colonNotAttached, .caseBlockBraces, .caseMissingBreak]

/-- What follows the colon of a label stands after the colon. -/
theorem stop_le_start_of_parts? {code : List Char} {label gap rest : Excerpt}
    (found : parts? code = some (label, gap, rest)) :
    gap.stop ≤ rest.start ∧ rest.text <:+: code.drop rest.start := by
  rcases Option.bind_eq_some_iff.mp found with ⟨matched, fits, found⟩
  rcases Option.bind_eq_some_iff.mp found with ⟨label', -, found⟩
  rcases Option.bind_eq_some_iff.mp found with ⟨gap', gapPart, found⟩
  rcases Option.bind_eq_some_iff.mp found with ⟨rest', restPart, found⟩
  cases found
  refine ⟨?_, Pattern.infix_of_part? fits restPart⟩
  rcases Pattern.exists_of_matchAt? fits with ⟨stop, reached, rfl⟩
  simp only [Spacing.caseLabel, Pattern.mem_outcomes_append, Pattern.mem_outcomes_capture,
    Pattern.mem_outcomes_char, Pattern.notAhead, Pattern.atEnd, Pattern.mem_outcomes_look,
    Pattern.anything, Pattern.mem_outcomes_many] at reached
  obtain ⟨_, ⟨_, ⟨_, ⟨_, ⟨_, ⟨first, ⟨start, atStart, blanks⟩, second, label, rfl⟩, third, spaces,
    rfl⟩, after, colon, rfl⟩, -, rfl⟩, _, ⟨anything, others, split, -, rfl⟩, rfl⟩, -, rfl⟩ := reached
  have early : (Cursor.atStart code).Reaches second :=
    ((Pattern.reaches_of_mem_outcomes atStart).trans (Pattern.reaches_of_mem_outcomes blanks)).trans
      (Pattern.reaches_of_mem_outcomes label)
  have late := Pattern.reaches_of_mem_outcomes spaces
  rw [Cursor.part?_matched] at gapPart restPart
  have gapSpan : some ((Cursor.atStart code).excerpt ⟨second.position, third.position⟩) = some gap :=
    gapPart
  have restSpan : some ((Cursor.atStart code).excerpt
      ⟨third.position + 1, third.position + 1 + anything.length⟩) = some rest := restPart
  rw [← Option.some.inj gapSpan, ← Option.some.inj restSpan,
    early.stop_excerpt (Cursor.reaches_of_record late)]
  exact Nat.le_succ _

theorem brace_after_parts? {code : List Char} {label gap rest : Excerpt}
    (found : parts? code = some (label, gap, rest))
    (braced : (Text.trim rest.text).head? == some '{') : '{' ∈ code.drop gap.stop := by
  rcases stop_le_start_of_parts? found with ⟨ordered, inside⟩
  have member : '{' ∈ Text.trim rest.text := List.mem_of_head? (beq_iff_eq.mp braced)
  have later : code.drop rest.start <:+ code.drop gap.stop := by
    rw [show rest.start = gap.stop + (rest.start - gap.stop) by omega, ← List.drop_drop]
    exact List.drop_suffix _ _
  exact later.subset (inside.subset ((Text.isInfix_trim rest.text).subset member))

theorem declared_openBody (site : Site) (baseIndent : Int) (label : List Char) (colon : Nat)
    (state : ScanState) : Declared kinds (openBody site baseIndent label colon state).1 := by
  have findings : Declared kinds
      (if (body site).hasBreak || isMarked site.line || (body site).marked then []
        else [⟨.caseMissingBreak, colon, 1, [.word (String.ofList label)]⟩]) := by
    refine Declared.ite (fun _ => Declared.nil) (fun _ => ?_)
    exact Declared.one (by decide) ⟨_, rfl⟩
  simp only [openBody]
  split
  · exact findings
  · exact findings

theorem analyzeRest_answers {site : Site} {rest : List Char} {colon : Nat}
    (braced : rest.head? == some '{' → '{' ∈ site.line.code.drop colon) (baseIndent : Int)
    (label : List Char) (state : ScanState) :
    ∃ outcome, analyzeRest site baseIndent label colon rest state = .ok outcome ∧
      Declared kinds outcome.1 := by
  simp only [analyzeRest]
  split
  · exact ⟨_, rfl, Declared.nil⟩
  · split
    next starts =>
      rcases Text.exists_index_character (braced starts) with ⟨column, found⟩
      rw [found, Answer.ok_bind]
      exact ⟨_, rfl, Declared.one (by decide) ⟨_, rfl⟩⟩
    next =>
      split
      next startsNext =>
        have member : '{' ∈ ((site.nextCode?.map Line.code).getD []).drop 0 := by
          rcases Bool.and_eq_true_iff.mp startsNext with ⟨-, head⟩
          cases next : site.nextCode? with
          | none => simp [next] at head
          | some line =>
            rw [next] at head
            exact (Text.isInfix_trim line.code).subset (List.mem_of_head? (beq_iff_eq.mp head))
        rcases Text.exists_index_character member with ⟨column, found⟩
        rw [found, Answer.ok_bind]
        exact ⟨_, rfl, Declared.one (by decide) ⟨_, rfl⟩⟩
      next =>
        split
        · exact ⟨_, rfl, Declared.nil⟩
        · exact ⟨_, rfl, declared_openBody _ _ _ _ _⟩

theorem analyze_answers (site : Site) (baseIndent : Int) (state : ScanState) :
    ∃ outcome, analyze site baseIndent state = .ok outcome ∧ Declared kinds outcome.1 := by
  rw [analyze_eq]
  split
  · exact ⟨_, rfl, Declared.nil⟩
  next label gap rest found =>
    obtain ⟨outcome, answers, declared⟩ := analyzeRest_answers (brace_after_parts? found) baseIndent
      (Text.squeeze label.text) state
    rw [answers, Answer.ok_bind]
    refine ⟨_, rfl, Declared.append.mpr ⟨?_, declared⟩⟩
    refine Declared.ite (fun _ => Declared.nil) (fun _ => ?_)
    exact Declared.one (by decide) ⟨_, rfl⟩

end CaseBlock

/-! ## Lists of parameters -/

namespace ParamBlock

/-- The kinds of findings about a list of parameters. -/
def kinds : List Kind :=
  [.functionNameNotModuleCamel, .functionNameSpaceBeforeParen, .paramNameNotSnake,
    .paramLineIndent, .functionBraceOwnLine, .paramLineNoComma]

theorem leadingName?_of_opening {code previousCode : List Char} {name : Excerpt}
    (opened : opening code previousCode = .name name) : Function.leadingName? code = some name := by
  unfold opening at opened
  split at opened
  · cases opened
  · split at opened
    · split at opened
      next found =>
        cases opened
        exact found
      next => cases opened
    · cases opened

theorem openingFindings_answers (code previousCode : List Char) :
    ∃ findings, openingFindings code (opening code previousCode) = .ok findings ∧
      Declared kinds findings := by
  cases opened : opening code previousCode with
  | head head =>
    refine ⟨_, rfl, Declared.append.mpr ⟨?_, ?_⟩⟩
    · exact (FunctionHead.declared_nameFindings _ _).mono (by decide)
    · exact (FunctionHead.declared_parameters _ _ _).mono (by decide)
  | name name =>
    have after := Function.paren_after_leadingName? (leadingName?_of_opening opened)
    rcases Text.exists_index_character after with ⟨paren, found⟩
    have whole : '(' ∈ code.drop 0 := List.mem_of_mem_drop after
    rcases Text.exists_index_character whole with ⟨first, foundFirst⟩
    simp only [openingFindings, found, foundFirst, Answer.ok_bind]
    refine ⟨_, rfl, Declared.append.mpr ⟨?_, ?_⟩⟩
    · exact (FunctionHead.declared_nameFindings _ _).mono (by decide)
    · exact (FunctionHead.declared_parameters _ _ _).mono (by decide)
  | other => exact ⟨_, rfl, Declared.nil⟩

theorem start_answers {code : List Char} (opens : opens code) (baseIndent : Int)
    (previousCode : List Char) (state : ScanState) :
    ∃ outcome, start code baseIndent previousCode state = .ok outcome ∧
      Declared kinds outcome.1 := by
  rcases openingFindings_answers code previousCode with ⟨findings, answers, declared⟩
  have member : '(' ∈ code.drop 0 := by
    unfold ParamBlock.opens at opens
    have contained := (Bool.and_eq_true_iff.mp (Bool.and_eq_true_iff.mp opens).1).1
    exact List.contains_iff_mem.mp contained
  rcases Text.exists_index_character member with ⟨paren, found⟩
  simp only [start, answers, found, Answer.ok_bind]
  exact ⟨_, rfl, declared⟩

theorem declared_proceed (block : ParamBlock) (raw code : List Char) (state : ScanState) :
    Declared kinds (proceed block raw code state).1 := by
  have indent : Declared kinds (indentFindings block raw) := by
    refine Declared.ite (fun _ => Declared.nil) (fun _ => ?_)
    exact Declared.one (by decide) ⟨_, rfl⟩
  have names : ∀ closed, Declared kinds (nameFindings block code closed) := by
    intro closed
    refine Declared.ite (fun _ => ?_) (fun _ => Declared.nil)
    exact (FunctionHead.declared_parameters _ _ _).mono (by decide)
  have comma : Declared kinds (commaFindings code) := by
    refine Declared.ite (fun _ => Declared.nil) (fun _ => ?_)
    exact Declared.one (by decide) ⟨_, rfl⟩
  have finished : Declared kinds (finish block code state).1 := by
    simp only [finish]
    split
    · refine Declared.ite (fun _ => ?_) (fun _ => Declared.nil)
      split
      · exact Declared.one (by decide) ⟨_, rfl⟩
      · exact Declared.nil
    · split
      · exact Declared.nil
      · exact Declared.nil
  simp only [proceed]
  split
  · exact Declared.append.mpr ⟨Declared.append.mpr ⟨indent, names _⟩, finished⟩
  · exact Declared.append.mpr ⟨Declared.append.mpr ⟨indent, names _⟩, comma⟩

end ParamBlock

/-! ## One-line statements and labels -/

namespace InlineControl

/-- The kinds of findings about a one-line statement. -/
def kinds : List Kind :=
  [.inlineSpaceAfterParen, .inlineEmptyBraces, .spaceAfterOpeningBrace, .spaceBeforeClosingBrace,
    .inlineNestedBraces, .inlineOneStatement, .inlineControlStatement]

theorem declared_statementFindings (column : Nat) (inner : List Char) :
    Declared kinds (statementFindings column inner) := by
  refine Declared.append.mpr ⟨?_, ?_⟩
  · refine Declared.ite (fun _ => ?_) (fun _ => Declared.nil)
    exact Declared.one (by decide) ⟨_, rfl⟩
  · split
    next found _ =>
      have control : Declared kinds [Kind.inlineControlStatement.on found.whole] :=
        Declared.one (by decide) ⟨_, rfl⟩
      exact control.shift _
    next => exact Declared.nil

theorem declared_insideFindings (column : Nat) (closer : Int) (inner : List Char) :
    Declared kinds (insideFindings column closer inner) := by
  refine Declared.append.mpr ⟨Declared.append.mpr ⟨?_, ?_⟩, ?_⟩
  · refine Declared.ite (fun _ => ?_) (fun _ => Declared.nil)
    exact Declared.one (by decide) ⟨_, rfl⟩
  · refine Declared.ite (fun _ => ?_) (fun _ => Declared.nil)
    exact Declared.one (by decide) ⟨_, rfl⟩
  · split
    · exact Declared.one (by decide) ⟨_, rfl⟩
    · exact Declared.nil

theorem declared_findings (code : List Char) : Declared kinds (findings code) := by
  unfold findings
  split
  · exact Declared.nil
  · refine Declared.append.mpr ⟨?_, ?_⟩
    · unfold afterParenFindings
      split
      · exact Declared.nil
      · refine Declared.ite (fun _ => ?_) (fun _ => Declared.nil)
        exact Declared.one (by decide) ⟨_, rfl⟩
    · unfold bodyFindings
      split
      · refine Declared.ite (fun _ => ?_) (fun _ => Declared.append.mpr ⟨?_, ?_⟩)
        · exact Declared.one (by decide) ⟨_, rfl⟩
        · exact declared_insideFindings _ _ _
        · exact declared_statementFindings _ _
      · exact declared_statementFindings _ _

end InlineControl

theorem Scan.declared_labelFindings? {code : List Char} {findings : List Finding}
    (found : labelFindings? code = some findings) :
    Declared [.labelIndented, .labelNotSnake, .colonNotAttached] findings := by
  rcases Option.bind_eq_some_iff.mp found with ⟨matched, -, found⟩
  rcases Option.bind_eq_some_iff.mp found with ⟨name, -, found⟩
  rcases Option.bind_eq_some_iff.mp found with ⟨gap, -, found⟩
  rcases Option.ite_none_left_eq_some.mp found with ⟨-, found⟩
  cases found
  refine Declared.append.mpr ⟨Declared.append.mpr ⟨?_, ?_⟩, ?_⟩
  · refine Declared.ite (fun _ => Declared.nil) (fun _ => ?_)
    exact Declared.one (by decide) ⟨_, rfl⟩
  · refine Declared.ite (fun _ => Declared.nil) (fun _ => ?_)
    exact Declared.one (by decide) ⟨_, rfl⟩
  · refine Declared.ite (fun _ => Declared.nil) (fun _ => ?_)
    exact Declared.one (by decide) ⟨_, rfl⟩

/-! ## Types -/

namespace TypeScope

/-- The kinds of diagnostics about a type. -/
def kinds : List Kind :=
  [.typedefNameMissing, .spaceAfterClosingBrace, .typedefTypeName, .instanceNotSnake,
    .instanceEndsWithT, .typeTagNotCamel, .enumElementNotScreaming, .fieldNameNotSnake]

theorem nameDiagnostics_answers (head : TypeHead) (number brace : Nat) (name : Option Excerpt) :
    ∃ diagnostics, nameDiagnostics head number brace name = .ok diagnostics ∧
      Reported kinds diagnostics := by
  unfold nameDiagnostics
  split
  · split
    · exact onLines_answers (Declared.one (by decide) ⟨_, rfl⟩) _
    · exact ⟨_, rfl, Reported.nil⟩
  · refine onLines_answers (Declared.append.mpr ⟨?_, ?_⟩) _
    · refine Declared.ite (fun _ => ?_) (fun _ => Declared.nil)
      exact Declared.one (by decide) ⟨_, rfl⟩
    · refine Declared.ite (fun _ => ?_) (fun _ => Declared.append.mpr ⟨?_, ?_⟩)
      · refine Declared.ite (fun _ => Declared.nil) (fun _ => ?_)
        exact Declared.one (by decide) ⟨_, rfl⟩
      · refine Declared.ite (fun _ => Declared.nil) (fun _ => ?_)
        exact Declared.one (by decide) ⟨_, rfl⟩
      · refine Declared.ite (fun _ => ?_) (fun _ => Declared.nil)
        exact Declared.one (by decide) ⟨_, rfl⟩

theorem tagDiagnostics_answers (head : TypeHead) :
    ∃ diagnostics, tagDiagnostics head = .ok diagnostics ∧ Reported kinds diagnostics := by
  unfold tagDiagnostics
  split
  · exact ⟨_, rfl, Reported.nil⟩
  · split
    · exact ⟨_, rfl, Reported.nil⟩
    next tag _ _ =>
      obtain ⟨diagnostic, given, reported⟩ := Kind.diagnostic_answers
        (show Kind.typeTagNotCamel ∈ kinds by decide) head.tagLine head.tagColumn tag.length
        (show ∃ message, Kind.typeTagNotCamel.template.format
          [.word head.kind.word, .word (String.ofList tag)] = .ok message from ⟨_, rfl⟩)
      rw [given]
      exact ⟨_, rfl, reported⟩

/-- A closing line has a brace. -/
theorem brace_of_closing {code : List Char} {found : Match}
    (fits : closing.matchStart? code = some found) : '}' ∈ code.drop 0 := by
  rcases Pattern.exists_of_matchAt? fits with ⟨stop, reached, rfl⟩
  simp only [closing, Pattern.mem_outcomes_append, Pattern.mem_outcomes_char] at reached
  obtain ⟨_, ⟨_, ⟨_, ⟨_, ⟨_, ⟨_, ⟨_, ⟨_, ⟨_, ⟨first, ⟨start, atStart, blanks⟩, rest, brace, -⟩, -⟩,
    -⟩, -⟩, -⟩, -⟩, -⟩, -⟩, -⟩, -⟩ := reached
  have early := (Pattern.reaches_of_mem_outcomes atStart).trans
    (Pattern.reaches_of_mem_outcomes blanks)
  apply List.mem_of_mem_drop (i := first.position)
  rw [List.drop_zero, early.rest_eq_drop, brace]
  exact List.mem_cons_self

theorem closingDiagnostics_answers {code : List Char} {found : Match}
    (fits : closing.matchStart? code = some found) (head : TypeHead) (number : Nat) :
    ∃ diagnostics, closingDiagnostics head number code found = .ok diagnostics ∧
      Reported kinds diagnostics := by
  rcases Text.exists_index_character (brace_of_closing fits) with ⟨brace, here⟩
  obtain ⟨named, nameAnswers, nameKinds⟩ :=
    nameDiagnostics_answers head number brace (found.part? .name)
  rcases tagDiagnostics_answers head with ⟨tagged, tagAnswers, tagKinds⟩
  simp only [closingDiagnostics, here, nameAnswers, tagAnswers, Answer.ok_bind]
  exact ⟨_, rfl, Reported.append.mpr ⟨nameKinds, tagKinds⟩⟩

theorem memberDiagnostics_answers (kind : TypeKind) (number : Nat) (inside : Excerpt) :
    ∃ diagnostics, memberDiagnostics kind number inside = .ok diagnostics ∧
      Reported kinds diagnostics := by
  refine onLines_answers (Declared.flatMap.mpr ?_) _
  intro member _
  exact ((Member.declared_findings _ _).shift _).mono (by decide)

theorem oneLineDiagnostics_answers (head : TypeHead) (number : Nat) (code : List Char)
    (bodyStart close : Nat) :
    ∃ diagnostics, oneLineDiagnostics head number code bodyStart close = .ok diagnostics ∧
      Reported kinds diagnostics := by
  obtain ⟨members, memberAnswers, memberKinds⟩ := memberDiagnostics_answers head.kind number
    ⟨bodyStart, Text.slice code bodyStart close⟩
  simp only [oneLineDiagnostics, memberAnswers, Answer.ok_bind]
  split
  next found fits =>
    rcases closingDiagnostics_answers fits head number with ⟨closed, answers, reported⟩
    rw [answers, Answer.ok_bind]
    exact ⟨_, rfl, Reported.append.mpr ⟨memberKinds, reported⟩⟩
  next => exact ⟨_, rfl, memberKinds⟩

/-- The outcome of a line for the types is given, and its diagnostics are about types. -/
def Answered (outcome : Except Fault Outcome) : Prop :=
  ∃ diagnostics state, outcome = .ok (diagnostics, state) ∧
    ∀ reported, diagnostics = some reported → Reported kinds reported

theorem answered_none (state : ScanState) : Answered (.ok (none, state)) :=
  ⟨none, state, rfl, nofun⟩

theorem answered_some {diagnostics : List Diagnostic} (reported : Reported kinds diagnostics)
    (state : ScanState) : Answered (.ok (some diagnostics, state)) := by
  refine ⟨_, _, rfl, ?_⟩
  intro others same
  cases same
  exact reported

theorem openWithBrace_answers (index : Nat) (code : List Char) (head : TypeHead) (bodyStart : Nat)
    (state : ScanState) : Answered (openWithBrace index code head bodyStart state) := by
  unfold openWithBrace
  split
  next close _ =>
    split
    · obtain ⟨diagnostics, answers, reported⟩ :=
        oneLineDiagnostics_answers head (index + 1) code bodyStart close
      rw [answers, Answer.ok_bind]
      exact answered_some reported state
    · exact answered_none _
  next => exact answered_none _

theorem closeInnermost_answers (index : Nat) (code : List Char) (state : ScanState) :
    Answered (closeInnermost index code state) := by
  unfold closeInnermost
  cases inside : state.types with
  | nil => exact answered_none _
  | cons scope types =>
    simp only [List.head?_cons, ScanState.closeType, inside, Answer.ok_bind]
    split
    · split
      next found fits =>
        obtain ⟨diagnostics, answers, reported⟩ :=
          closingDiagnostics_answers fits scope.head (index + 1)
        rw [answers, Answer.ok_bind]
        exact answered_some reported _
      next => exact answered_some Reported.nil _
    · exact answered_none _

theorem openOrClose_answers (index : Nat) (code : List Char) (state : ScanState) :
    Answered (openOrClose index code state) := by
  unfold openOrClose
  split
  · exact answered_none _
  · split
    · split
      · exact openWithBrace_answers _ _ _ _ _
      · exact closeInnermost_answers _ _ _
    · exact closeInnermost_answers _ _ _

theorem step_answers (index : Nat) (code : List Char) (state : ScanState) :
    Answered (step index code state) := by
  unfold step
  split
  · split
    · exact openOrClose_answers _ _ _
    · simp only
      split
      · exact answered_none _
      · exact openOrClose_answers _ _ _
  · exact openOrClose_answers _ _ _

end TypeScope

end HouseStyle
