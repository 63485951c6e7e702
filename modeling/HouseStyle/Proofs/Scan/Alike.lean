import HouseStyle.Proofs.Characters
import HouseStyle.Proofs.Directive
import HouseStyle.Proofs.Literals
import HouseStyle.Proofs.Scan.Dropped
import HouseStyle.Proofs.Scan.Invariant

/-!
Contract: two scans side by side, of files whose lines look alike and hold no directives.

Owns: the agreement of both scans, line by line, on the state and on every diagnostic that is not
about single characters.
Does not own: which lines look alike.

The scan of a line without directives reads the line as it is written for its length and for the
blanks that it starts with only, and for its single characters. The last only show in diagnostics of
two kinds.

Main statement: `diagnostics_of_alike`.
-/

namespace HouseStyle

/-! ## Sites -/

/-- Two sites whose lines look alike, between lines with the same code. -/
structure Site.Alike (site other : Site) : Prop where
  index : site.index = other.index
  line : site.line.Alike other.line
  previous : (site.before.find? Line.hasCode).map Line.code =
    (other.before.find? Line.hasCode).map Line.code
  next : site.nextCode?.map Line.code = other.nextCode?.map Line.code
  body : CaseBlock.body site = CaseBlock.body other

theorem CaseBlock.scanBody_of_alike {lines others : List Line}
    (alike : List.Forall₂ Line.Alike lines others) (index : Nat) (depth : Int) (last : Option Nat)
    (marked : Bool) :
    scanBody index depth last marked lines = scanBody index depth last marked others := by
  induction alike generalizing index depth last marked with
  | nil => rfl
  | cons first _ inductionHypothesis =>
    simp only [scanBody, first.hasCode_eq, first.stripped_eq, first.isMarked, inductionHypothesis]

theorem Site.alike_of_forall₂ {before others after othersAfter : List Line} {line other : Line}
    (earlier : List.Forall₂ Line.Alike before others) (here : line.Alike other)
    (later : List.Forall₂ Line.Alike after othersAfter) (index : Nat) :
    Site.Alike ⟨index, before, line, after⟩ ⟨index, others, other, othersAfter⟩ where
  index := rfl
  line := here
  previous := find?_hasCode_of_alike earlier
  next := find?_hasCode_of_alike later
  body := CaseBlock.scanBody_of_alike later _ _ _ _

namespace Site.Alike

variable {site other : Site} (alike : site.Alike other)
include alike

theorem number_eq : site.number = other.number := by
  rw [number, number, alike.index]

theorem view (settings : Settings) (state : ScanState) :
    (site.view settings state).Alike (other.view settings state) where
  settings := rfl
  scope := rfl
  line := alike.line
  previous := alike.previous
  next := alike.next

theorem previousCode_eq : site.previousCode = other.previousCode := by
  rw [previousCode, previousCode, alike.previous]

theorem nextStripped_eq : site.nextCode?.map Line.stripped = other.nextCode?.map Line.stripped := by
  have trimmed : ∀ site : Site,
      site.nextCode?.map Line.stripped = (site.nextCode?.map Line.code).map Text.trim := by
    intro site
    rw [Option.map_map]
    rfl
  rw [trimmed, trimmed, alike.next]

theorem isSome_nextCode?_eq : site.nextCode?.isSome = other.nextCode?.isSome := by
  have same := congrArg Option.isSome alike.next
  rwa [Option.isSome_map, Option.isSome_map] at same

theorem report_eq (findings : List Finding) : Scan.report site findings = Scan.report other findings := by
  rw [Scan.report, Scan.report, alike.number_eq]

theorem analyzeRest_eq (baseIndent : Int) (label : List Char) (colon : Nat) (rest : List Char)
    (state : ScanState) :
    CaseBlock.analyzeRest site baseIndent label colon rest state =
      CaseBlock.analyzeRest other baseIndent label colon rest state := by
  unfold CaseBlock.analyzeRest CaseBlock.openBody
  rw [alike.nextStripped_eq, alike.isSome_nextCode?_eq, alike.next, alike.body, alike.line.isMarked,
    alike.line.code]

theorem analyze_eq (baseIndent : Int) (state : ScanState) :
    CaseBlock.analyze site baseIndent state = CaseBlock.analyze other baseIndent state := by
  rw [CaseBlock.analyze_eq, CaseBlock.analyze_eq, alike.line.code]
  simp only [alike.analyzeRest_eq]

theorem labelOutcome_eq (state : ScanState) :
    Indent.labelOutcome site state = Indent.labelOutcome other state := by
  unfold Indent.labelOutcome Indent.expectedAt Indent.outside
  simp only [alike.line.code, alike.line.stripped_eq, alike.analyze_eq]

theorem followBraces_eq (expected : Int) (startsWithClose : Bool) (state : ScanState) :
    Indent.followBraces site expected startsWithClose state =
      Indent.followBraces other expected startsWithClose state := by
  have closes : ∀ site : Site, (site.nextCode?.any fun next => next.stripped == ['}']) =
      (site.nextCode?.map Line.stripped).any (· == ['}']) := by
    intro site
    cases site.nextCode? <;> rfl
  unfold Indent.followBraces Indent.blockIndent
  rw [closes, closes, alike.nextStripped_eq, alike.line.stripped_eq, alike.line.code]

theorem indentStep_eq (limit : Option Nat) (previousCode : List Char) (state : ScanState) :
    Indent.step limit site previousCode state = Indent.step limit other previousCode state := by
  rw [Indent.step_eq, Indent.step_eq, alike.labelOutcome_eq]
  unfold Indent.mismatchFindings Indent.expectedAt Indent.outside
  simp only [alike.line.code, alike.line.stripped_eq, alike.line.indentWidth_eq,
    alike.line.leadingLength_eq, alike.followBraces_eq]

/-! ## Lines with code -/

theorem runPhase_statement_eq (settings : Settings) (state : ScanState) :
    Rule.runPhase .statement (site.view settings state) =
      Rule.runPhase .statement (other.view settings state) := by
  have others : ∀ rule ∈ Rule.statementRules, rule.readsCharacters = false := by decide
  unfold Rule.runPhase
  rw [Answer.mapM_congr fun rule member =>
    Rule.check_eq_of_alike (alike.view settings state) rule (Rule.mem_all_of_mem_ofPhase member)
      fun reads => absurd reads (by simp [others rule member])]

theorem settledStatement_eq (settings : Settings) (state : ScanState) :
    Scan.settledStatement settings site state = Scan.settledStatement settings other state := by
  unfold Scan.settledStatement
  simp only [alike.line.code, alike.index, alike.report_eq, alike.runPhase_statement_eq]

theorem statementLine_eq (settings : Settings) (state : ScanState) :
    Scan.statementLine settings site state = Scan.statementLine settings other state := by
  have previous : (site.view settings state).previousCode =
      (other.view settings state).previousCode := alike.previousCode_eq
  unfold Scan.statementLine
  simp only [previous, alike.indentStep_eq, alike.report_eq, alike.settledStatement_eq]

theorem proceed_eq (block : ParamBlock) (code : List Char) (state : ScanState) :
    ParamBlock.proceed block site.line.raw code state =
      ParamBlock.proceed block other.line.raw code state := by
  unfold ParamBlock.proceed ParamBlock.indentFindings
  rw [alike.line.indentWidth_eq, alike.line.margin]

/-- Lines with code that look alike get the same diagnostics and leave the same state, directives
among them if they do. -/
theorem codeLine_eq (settings : Settings) {state : ScanState}
    (directed : (other.line.stripped.head? == some '#' || state.inDefinition) →
      Scan.directiveLine site state = Scan.directiveLine other state) :
    Scan.codeLine settings site state = Scan.codeLine settings other state := by
  unfold Scan.codeLine
  simp only [alike.line.stripped_eq, alike.line.code, alike.report_eq, alike.statementLine_eq,
    alike.proceed_eq]
  cases state.paramBlock with
  | some block => rfl
  | none =>
    simp only
    split
    next directive => exact directed directive
    next => rfl

end Site.Alike

/-! ## Findings about single characters -/

/-- The findings that are not about single characters. -/
def Finding.besides (findings : List Finding) : List Finding :=
  findings.filter fun finding => !finding.kind.readsCharacters

/-- The rules on single characters find nothing else. -/
theorem Rule.besides_eq_nil {rule : Rule} (member : rule ∈ all) (reads : rule.readsCharacters)
    {findings : List Finding} (declared : OfKinds rule.kinds findings) :
    Finding.besides findings = [] := by
  have kinds : ∀ rule ∈ all, rule.readsCharacters → ∀ kind ∈ rule.kinds, kind.readsCharacters := by
    decide
  apply List.filter_eq_nil_iff.mpr
  intro finding among
  simp [kinds rule member reads finding.kind (declared finding among)]

theorem Rule.besides_check {view other : View} (alike : view.Alike other) :
    ∀ rule ∈ all,
      (rule.check view).map Finding.besides = (rule.check other).map Finding.besides := by
  have otherwise : ∀ rule ∈ all, rule.readsCharacters → rule.name ≠ "magic_number" := by decide
  intro rule member
  cases reads : rule.readsCharacters with
  | false =>
    rw [check_eq_of_alike alike rule member fun readsToo => absurd readsToo (by simp [reads])]
  | true =>
    obtain ⟨findings, answers, declared⟩ :=
      (check_answers view rule member (otherwise rule member reads)).1
    obtain ⟨findingsToo, answersToo, declaredToo⟩ :=
      (check_answers other rule member (otherwise rule member reads)).1
    rw [answers, answersToo, Answer.map_ok, Answer.map_ok, besides_eq_nil member reads declared,
      besides_eq_nil member reads declaredToo]

namespace Site.Alike

variable {site other : Site} (alike : site.Alike other)
include alike

/-- The complaints of a phase agree but for those about single characters. -/
theorem besides_phase (phase : Phase) (settings : Settings) (state : ScanState) :
    (Rule.runPhase phase (site.view settings state) >>= Scan.report site).map Diagnostic.besides =
      (Rule.runPhase phase (other.view settings state) >>= Scan.report other).map
        Diagnostic.besides := by
  have writable : (site.view settings state).settings.Writable ↔
      (other.view settings state).settings.Writable := Iff.rfl
  exact Scan.filter_phase Diagnostic.decides_readsCharacters alike.number_eq writable
    fun rule member =>
      Rule.besides_check (alike.view settings state) rule (Rule.mem_all_of_mem_ofPhase member)

/-! ## Lines -/

omit alike in
theorem not_isInclusion {line : Line} (plain : line.Plain) : Scan.isInclusion line = false := by
  rw [← Bool.not_eq_true]
  intro inclusion
  exact plain.raw (Includes.head?_of_inclusion inclusion)

/-- An outcome without its diagnostics about single characters. -/
def kept (outcome : Scan.Outcome) : Scan.Outcome :=
  (Diagnostic.besides outcome.1, outcome.2)

theorem contentDiagnostics_agree (settings : Settings) (state : ScanState)
    (plain : site.line.Plain) (plainToo : other.line.Plain) :
    (Scan.contentDiagnostics settings site state).map Diagnostic.besides =
      (Scan.contentDiagnostics settings other state).map Diagnostic.besides := by
  unfold Scan.contentDiagnostics
  simp only [not_isInclusion plain, not_isInclusion plainToo]
  exact alike.besides_phase .content settings state

theorem blankLine_eq (state : ScanState) : Scan.blankLine site state = Scan.blankLine other state := by
  have empty : site.line.raw.isEmpty = other.line.raw.isEmpty := by
    rw [Bool.eq_iff_iff, List.isEmpty_iff_length_eq_zero, List.isEmpty_iff_length_eq_zero,
      alike.line.length]
  unfold Scan.blankLine
  simp only [alike.line.before, empty, alike.line.length, alike.report_eq]

theorem inkedLine_agree (settings : Settings) {state : ScanState} (plain : site.line.Plain)
    (plainToo : other.line.Plain) (inside : state.inDefinition = false) :
    (Scan.inkedLine settings site state).map kept =
      (Scan.inkedLine settings other state).map kept := by
  have undirected : other.line.stripped.head? ≠ some '#' :=
    fun hash => plainToo.code (Text.head?_trimLeft_of_trim hash)
  obtain ⟨blanks, inked, ended, endedToo, insideInked⟩ : ∃ blanks inked,
      Scan.endBlankRun site state = .ok (blanks, inked) ∧
        Scan.endBlankRun other state = .ok (blanks, inked) ∧ inked.inDefinition = false := by
    obtain ⟨blanks, ended, -⟩ := Scan.endBlankRun_eq_ok other state
    refine ⟨blanks, _, ?_, ended, inside⟩
    rw [← ended, Scan.endBlankRun, Scan.endBlankRun, alike.index]
  unfold Scan.inkedLine
  rw [ended, endedToo, Answer.ok_bind, Answer.ok_bind]
  simp only [alike.line.isSkipped_eq]
  rw [← bind_assoc, ← bind_assoc]
  apply Answer.map_bind_congr (alike.besides_phase .raw settings inked)
  intro raw rawToo _ _ sameRaw
  split
  · exact congrArg Except.ok (congrArg (·, _) (by
      rw [Diagnostic.besides_append, Diagnostic.besides_append, sameRaw]))
  · apply Answer.map_bind_congr (alike.contentDiagnostics_agree settings inked plain plainToo)
    intro content contentToo _ _ sameContent
    have directive : (other.line.stripped.head? == some '#' || inked.inDefinition) = false := by
      rw [insideInked, Bool.or_false, beq_eq_false_iff_ne]
      exact undirected
    rw [alike.codeLine_eq settings fun directed => absurd directed (by simp [directive])]
    cases Scan.codeLine settings other inked with
    | error fault => rfl
    | ok others =>
      exact congrArg Except.ok (congrArg (·, _) (by
        simp only [Diagnostic.besides_append, sameRaw, sameContent]))

/-- Both scans leave the same state after a line, with the same diagnostics but for those about
single characters. -/
theorem step_agree (settings : Settings) {state : ScanState} (plain : site.line.Plain)
    (plainToo : other.line.Plain) (inside : state.inDefinition = false) :
    (Scan.step settings site state).map kept = (Scan.step settings other state).map kept := by
  have lines : (Scan.line settings site state).map kept =
      (Scan.line settings other state).map kept := by
    unfold Scan.line
    rw [alike.line.isBlank_eq, alike.blankLine_eq]
    split
    · rfl
    · exact alike.inkedLine_agree settings plain plainToo inside
  unfold Scan.step
  apply Answer.map_bind_congr lines
  intro outcome outcomeToo _ _ same
  obtain ⟨diagnostics, next⟩ := outcome
  obtain ⟨diagnosticsToo, nextToo⟩ := outcomeToo
  obtain ⟨sameDiagnostics, rfl⟩ := Prod.mk.inj same
  rw [alike.index, alike.line.after]
  exact congrArg Except.ok (congrArg (·, _) sameDiagnostics)

end Site.Alike

/-! ## Whole scans -/

namespace Scan

variable (site : Site) (state : ScanState)

theorem inDefinition_labelled : (Indent.labelled site state).inDefinition = state.inDefinition := by
  unfold Indent.labelled Indent.outside CaseBlock.enter
  repeat' split
  all_goals rfl

theorem inDefinition_followBraces (expected : Int) (startsWithClose : Bool) :
    (Indent.followBraces site expected startsWithClose state).inDefinition =
      state.inDefinition := by
  simp only [Indent.followBraces]
  generalize Text.excess '{' '}' _ = net
  repeat' split
  all_goals rfl

theorem inDefinition_statementNext :
    (statementNext site state).inDefinition = state.inDefinition := by
  have settled : (Indent.settled site state).inDefinition = state.inDefinition := by
    unfold Indent.settled
    simp only
    split
    · exact inDefinition_labelled site state
    · split
      · exact inDefinition_labelled site state
      · rw [inDefinition_followBraces, inDefinition_labelled]
  unfold statementNext
  simp only
  split
  · exact settled
  · obtain ⟨types, pendingType, same⟩ := ScanState.exists_typeScope_settled site.index
      site.line.code (Indent.settled site state)
    rw [same]
    exact settled

variable {site state}

/-- Only a directive starts a definition that goes on over lines. -/
theorem inDefinition_advance (undirected : site.line.stripped.head? ≠ some '#')
    (inside : state.inDefinition = false) : (advance site state).inDefinition = false := by
  have code : ∀ inked : ScanState, inked.inDefinition = false →
      (codeNext site inked).inDefinition = false := by
    intro inked insideInked
    unfold codeNext
    split
    · unfold ParamBlock.continued
      simp only
      repeat' split
      all_goals exact insideInked
    · have directive : (site.line.stripped.head? == some '#' || inked.inDefinition) = false := by
        rw [insideInked, Bool.or_false, beq_eq_false_iff_ne]
        exact undirected
      rw [if_neg (by simp [directive])]
      split
      · exact insideInked
      · rw [inDefinition_statementNext, insideInked]
  show (lineNext site state).inDefinition = false
  unfold lineNext
  simp only
  repeat' split
  · exact inside
  · exact inside
  · exact inside
  · exact code _ inside

/-- The diagnostics of some records, but for those about single characters. -/
def keptDiagnostics (records : List Record) : List Diagnostic :=
  Diagnostic.besides (records.flatMap Record.diagnostics)

theorem recordsFrom_agree (settings : Settings) {lines others : List Line}
    (alike : List.Forall₂ Line.Alike lines others) (plain : ∀ line ∈ lines, line.Plain)
    (plainToo : ∀ line ∈ others, line.Plain) {before othersBefore : List Line}
    (earlier : List.Forall₂ Line.Alike before othersBefore) (index : Nat) {state : ScanState}
    (inside : state.inDefinition = false) :
    (recordsFrom settings index before state lines).map keptDiagnostics =
      (recordsFrom settings index othersBefore state others).map keptDiagnostics := by
  induction alike generalizing before othersBefore index state with
  | nil => rfl
  | @cons line other lines others first later inductionHypothesis =>
    obtain ⟨plainFirst, plainLater⟩ := List.forall_mem_cons.mp plain
    obtain ⟨plainFirstToo, plainLaterToo⟩ := List.forall_mem_cons.mp plainToo
    have here := Site.alike_of_forall₂ earlier first later index
    unfold recordsFrom
    apply Answer.map_bind_congr (here.step_agree settings plainFirst plainFirstToo inside)
    intro outcome outcomeToo given _ same
    obtain ⟨diagnostics, next⟩ := outcome
    obtain ⟨diagnosticsToo, nextToo⟩ := outcomeToo
    obtain ⟨sameDiagnostics, rfl⟩ := Prod.mk.inj same
    have undirected : line.stripped.head? ≠ some '#' :=
      fun hash => plainFirst.code (Text.head?_trimLeft_of_trim hash)
    have insideNext : next.inDefinition = false := by
      rw [state_of_step given]
      exact inDefinition_advance undirected inside
    apply Answer.map_bind_congr
      (inductionHypothesis plainLater plainLaterToo (.cons first earlier) (index + 1) insideNext)
    intro records recordsToo _ _ sameRecords
    refine congrArg Except.ok ?_
    unfold keptDiagnostics at sameRecords ⊢
    rw [List.flatMap_cons, List.flatMap_cons, Diagnostic.besides_append, Diagnostic.besides_append,
      sameRecords]
    exact congrArg (· ++ _) sameDiagnostics

/-- Two scans of lines that look alike raise the same fault, or find the same but for complaints
about single characters. -/
theorem diagnostics_of_alike (settings : Settings) {lines others : List Line}
    (alike : List.Forall₂ Line.Alike lines others) (plain : ∀ line ∈ lines, line.Plain)
    (plainToo : ∀ line ∈ others, line.Plain) :
    (Scan.diagnostics settings lines).map Diagnostic.besides =
      (Scan.diagnostics settings others).map Diagnostic.besides := by
  have agree := recordsFrom_agree settings alike plain plainToo .nil 0
    (show ScanState.initial.inDefinition = false from rfl)
  unfold Scan.diagnostics
  apply Answer.map_bind_congr agree
  intro records recordsToo _ _ same
  exact congrArg Except.ok same

end Scan

end HouseStyle
