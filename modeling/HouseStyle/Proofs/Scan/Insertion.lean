import HouseStyle.Proofs.Lines
import HouseStyle.Proofs.Rule.Sight
import HouseStyle.Proofs.Scan.Course

/-!
Contract: a line without code, inserted anywhere, is invisible to the scan.

Owns: moving the stored line indices and numbers past an inserted line, and the agreement of the scan
with it, from single operations to whole runs.
Does not own: what a line with code does.

A scan looks ahead for the next line with code, looks back for the previous one, reads the body of a
case line by line, and stores indices and numbers of lines. All of these pass over a line without
code. What is left of such a line is the count of blank lines before the next one, and that its length
is compared with the limit.

Main statement: `run_insert`.
-/

namespace HouseStyle

/-! ## Indices and numbers past an inserted line -/

/-- The index of a line after another is inserted at a position. -/
def slideIndex (position index : Nat) : Nat :=
  if index < position then index else index + 1

/-- The number of a line, which is one more than its index, after another is inserted at a
position. -/
def slideNumber (position number : Nat) : Nat :=
  if number ≤ position then number else number + 1

/-- The place of a tag after a line is inserted. -/
def TypeHead.slide (position : Nat) (head : TypeHead) : TypeHead :=
  { head with tagLine := slideNumber position head.tagLine }

/-- The state of a scan with every stored index and number moved past an inserted line. -/
def ScanState.slide (position : Nat) (state : ScanState) : ScanState :=
  { state with
    types := state.types.map fun scope => { scope with head := scope.head.slide position }
    pendingType := state.pendingType.map fun pending =>
      ⟨pending.head.slide position, slideIndex position pending.line⟩
    cases := state.cases.map fun frame =>
      { frame with endLine := slideIndex position frame.endLine } }

/-- The diagnostic with its line number moved past an inserted line. -/
def Diagnostic.slide (position : Nat) (diagnostic : Diagnostic) : Diagnostic :=
  { diagnostic with
    line := if diagnostic.line ≤ position then diagnostic.line else diagnostic.line + 1 }

theorem slideIndex_inj {position first second : Nat} :
    slideIndex position first = slideIndex position second ↔ first = second := by
  unfold slideIndex
  split <;> split <;> omega

theorem slideIndex_ne (position index : Nat) : slideIndex position index ≠ position := by
  unfold slideIndex
  split <;> omega

theorem slideNumber_succ (position index : Nat) :
    slideNumber position (index + 1) = slideIndex position index + 1 := by
  unfold slideNumber slideIndex
  split <;> split <;> omega

namespace Insertion

/-- The state with its indices and numbers moved, and any count of blank lines. -/
def carry (position blanks : Nat) (state : ScanState) : ScanState :=
  { state.slide position with blankRun := blanks }

variable {position blanks : Nat} {state : ScanState}

@[simp] theorem paramBlock_carry : (carry position blanks state).paramBlock = state.paramBlock := rfl

@[simp] theorem inDefinition_carry :
    (carry position blanks state).inDefinition = state.inDefinition := rfl

@[simp] theorem depth_carry : (carry position blanks state).depth = state.depth := rfl

@[simp] theorem scope_carry : (carry position blanks state).scope = state.scope := by
  unfold ScanState.scope carry ScanState.slide
  cases state.types <;> rfl

/-! ## Bodies of cases -/

/-- The body with the index of its last line moved. -/
def slideBody (position : Nat) (body : CaseBlock.Body) : CaseBlock.Body :=
  { body with last := body.last.map (slideIndex position) }

theorem scanBody_cons {index movedIndex : Nat} {rest others : List Line}
    (here : movedIndex = slideIndex position index)
    (agree : ∀ depth last marked,
      CaseBlock.scanBody (movedIndex + 1) depth (last.map (slideIndex position)) marked others =
        slideBody position (CaseBlock.scanBody (index + 1) depth last marked rest))
    (line : Line) (depth : Int) (last : Option Nat) (marked : Bool) :
    CaseBlock.scanBody movedIndex depth (last.map (slideIndex position)) marked (line :: others) =
      slideBody position (CaseBlock.scanBody index depth last marked (line :: rest)) := by
  have found := agree (depth + Text.excess '{' '}' line.stripped) (some index)
    (marked || CaseBlock.isMarked line)
  rw [Option.map_some, ← here] at found
  simp only [CaseBlock.scanBody, agree, found]
  repeat' split
  all_goals simp only [slideBody, Option.map_some, here]

/-- From the inserted line on, a body ends one line later. -/
theorem scanBody_later (lines : List Line) {index : Nat} (later : position ≤ index) (depth : Int)
    (last : Option Nat) (marked : Bool) :
    CaseBlock.scanBody (index + 1) depth (last.map (slideIndex position)) marked lines =
      slideBody position (CaseBlock.scanBody index depth last marked lines) := by
  induction lines generalizing index depth last marked with
  | nil => rfl
  | cons line lines inductionHypothesis =>
    refine scanBody_cons ?_ ?_ line depth last marked
    · unfold slideIndex
      rw [if_neg (by omega)]
    · exact inductionHypothesis (by omega)

/-- Before the inserted line, a body that is read past it ends at the moved index. -/
theorem scanBody_insert {line : Line} (codeless : line.hasCode = false)
    (unmarked : CaseBlock.isMarked line = false) (first rest : List Line) {index : Nat}
    (here : index + first.length = position) (depth : Int) (last : Option Nat) (marked : Bool) :
    CaseBlock.scanBody index depth (last.map (slideIndex position)) marked (first ++ line :: rest) =
      slideBody position (CaseBlock.scanBody index depth last marked (first ++ rest)) := by
  induction first generalizing index depth last marked with
  | nil =>
    rw [List.nil_append, List.nil_append, CaseBlock.scanBody, codeless, unmarked, Bool.or_false]
    exact scanBody_later rest (by rw [← here]; exact Nat.le_refl _) depth last marked
  | cons other first inductionHypothesis =>
    rw [List.length_cons] at here
    refine scanBody_cons ?_ ?_ other depth last marked
    · unfold slideIndex
      rw [if_pos (by omega)]
    · exact inductionHypothesis (by omega)

/-! ## Sites on either side -/

/-- Two sites of the same line, in a file and in the file with a line inserted, as far as the scan
can tell them apart. -/
structure Slides (position : Nat) (site moved : Site) : Prop where
  line : moved.line = site.line
  index : moved.index = slideIndex position site.index
  previous : moved.before.find? Line.hasCode = site.before.find? Line.hasCode
  next : moved.nextCode? = site.nextCode?
  body : CaseBlock.body moved = slideBody position (CaseBlock.body site)

variable {site moved : Site}

theorem Slides.number (slides : Slides position site moved) :
    moved.number = slideNumber position site.number := by
  unfold Site.number
  rw [slides.index, slideNumber_succ]

theorem slides_before {inserted : Line} (codeless : inserted.hasCode = false)
    (unmarked : CaseBlock.isMarked inserted = false) {index : Nat} (line : Line)
    (before first rest : List Line)
    (here : index + 1 + first.length = position) :
    Slides position ⟨index, before, line, first ++ rest⟩
      ⟨index, before, line, first ++ inserted :: rest⟩ where
  line := rfl
  index := by
    unfold slideIndex
    rw [if_pos (by simp only; omega)]
  previous := rfl
  next := by
    unfold Site.nextCode?
    simp only [List.find?_append, List.find?_cons, codeless]
  body := scanBody_insert codeless unmarked first rest here 0 none false

theorem slides_after {inserted : Line} (codeless : inserted.hasCode = false) {index : Nat}
    (line : Line) (before done after : List Line) (later : position ≤ index) :
    Slides position ⟨index, done ++ before, line, after⟩
      ⟨index + 1, done ++ inserted :: before, line, after⟩ where
  line := rfl
  index := by
    unfold slideIndex
    rw [if_neg (by simp only; omega)]
  previous := by simp only [List.find?_append, List.find?_cons, codeless]
  next := rfl
  body := scanBody_later after (by simp only; omega) 0 none false

/-! ## Operations on the state -/

/-- Findings and a state, the state with its indices and numbers moved. -/
abbrev carryState {α : Type} (position blanks : Nat) : α × ScanState → α × ScanState :=
  Prod.map id (carry position blanks)

theorem openBody_carry (slides : Slides position site moved) (baseIndent : Int) (label : List Char)
    (colon : Nat) :
    CaseBlock.openBody moved baseIndent label colon (carry position blanks state) =
      carryState position blanks (CaseBlock.openBody site baseIndent label colon state) := by
  simp only [CaseBlock.openBody, slides.body, slides.line, slideBody]
  cases (CaseBlock.body site).last <;> rfl

theorem analyzeRest_carry (slides : Slides position site moved) (baseIndent : Int)
    (label : List Char) (colon : Nat) (rest : List Char) :
    CaseBlock.analyzeRest moved baseIndent label colon rest (carry position blanks state) =
      (CaseBlock.analyzeRest site baseIndent label colon rest state).map
        (carryState position blanks) := by
  simp only [CaseBlock.analyzeRest, slides.next, slides.line, openBody_carry slides]
  repeat' split
  all_goals first
    | rfl
    | rw [Answer.map_bind]; rfl

theorem analyze_carry (slides : Slides position site moved) (blanks : Nat) (state : ScanState)
    (baseIndent : Int) :
    CaseBlock.analyze moved baseIndent (carry position blanks state) =
      (CaseBlock.analyze site baseIndent state).map (carryState position blanks) := by
  simp only [CaseBlock.analyze_eq, slides.line]
  cases CaseBlock.parts? site.line.code with
  | none => rfl
  | some parts =>
    obtain ⟨label, gap, rest⟩ := parts
    simp only [analyzeRest_carry slides, Answer.bind_map, Answer.map_bind]
    rfl

theorem closeFrames_carry (index : Nat) (frames : List Nat) (cases : List CaseFrame) :
    CaseBlock.closeFrames (slideIndex position index) frames
        (cases.map fun frame => { frame with endLine := slideIndex position frame.endLine }) =
      Prod.map id
        (List.map fun frame : CaseFrame =>
          { frame with endLine := slideIndex position frame.endLine })
        (CaseBlock.closeFrames index frames cases) := by
  induction cases generalizing frames with
  | nil => rfl
  | cons frame cases inductionHypothesis =>
    simp only [List.map_cons, CaseBlock.closeFrames, slideIndex_inj, inductionHypothesis]
    split <;> rfl

theorem closeFinished_carry (index : Nat) :
    CaseBlock.closeFinished (slideIndex position index) (carry position blanks state) =
      carry position blanks (CaseBlock.closeFinished index state) := by
  unfold CaseBlock.closeFinished
  simp only [carry, ScanState.slide, closeFrames_carry]
  rfl

theorem start_carry (code : List Char) (baseIndent : Int) (previousCode : List Char) :
    ParamBlock.start code baseIndent previousCode (carry position blanks state) =
      (ParamBlock.start code baseIndent previousCode state).map (carryState position blanks) := by
  simp only [ParamBlock.start, Answer.map_bind]
  rfl

theorem proceed_carry (block : ParamBlock) (raw code : List Char) :
    ParamBlock.proceed block raw code (carry position blanks state) =
      carryState position blanks (ParamBlock.proceed block raw code state) := by
  simp only [ParamBlock.proceed, ParamBlock.finish]
  repeat' split
  all_goals rfl

theorem outside_carry (line : Line) :
    Indent.outside line (carry position blanks state) =
      carry position blanks (Indent.outside line state) := by
  unfold Indent.outside
  split <;> rfl

theorem expectedAt_carry (line : Line) :
    Indent.expectedAt line (carry position blanks state) = Indent.expectedAt line state := by
  unfold Indent.expectedAt
  rw [outside_carry]
  rfl

theorem followBraces_carry (slides : Slides position site moved) (expected : Int)
    (startsWithClose : Bool) :
    Indent.followBraces moved expected startsWithClose (carry position blanks state) =
      carry position blanks (Indent.followBraces site expected startsWithClose state) := by
  simp only [Indent.followBraces, Indent.blockIndent, slides.line, slides.next]
  generalize Text.excess '{' '}' _ = net
  repeat' split
  all_goals rfl

/-- The outcome with its indices and numbers moved. -/
def carryIndent (position blanks : Nat) (outcome : Indent.Outcome) : Indent.Outcome :=
  { outcome with state := carry position blanks outcome.state }

theorem labelOutcome_carry (slides : Slides position site moved) :
    Indent.labelOutcome moved (carry position blanks state) =
      (Indent.labelOutcome site state).map (carryState position blanks) := by
  simp only [Indent.labelOutcome, slides.line, expectedAt_carry, outside_carry]
  split
  · exact analyze_carry slides blanks { Indent.outside site.line state with nextIndent := none } _
  · rfl

theorem indentStep_carry (slides : Slides position site moved) (limit : Option Nat)
    (previousCode : List Char) :
    Indent.step limit moved previousCode (carry position blanks state) =
      (Indent.step limit site previousCode state).map (carryIndent position blanks) := by
  simp only [Indent.step_eq, slides.line, expectedAt_carry, labelOutcome_carry slides, Answer.bind_map,
    Answer.map_bind]
  congr 1
  funext label
  congr 1
  funext inline
  cases inline with
  | true => rfl
  | false =>
    simp only [Prod.map_fst, Prod.map_snd, start_carry, followBraces_carry slides]
    split
    · simp at *
    · split
      · simp only [Answer.bind_map, Answer.map_bind]
        rfl
      · rfl

/-! ## Diagnostics -/

theorem diagnostic_slide (kind : Kind) (number : Nat) (column length : Int)
    (arguments : List Argument) :
    kind.diagnostic (slideNumber position number : Nat) column length arguments =
      (kind.diagnostic number column length arguments).map (Diagnostic.slide position) := by
  have same : ((slideNumber position number : Nat) : Int) =
      if (number : Int) ≤ position then (number : Int) else number + 1 := by
    unfold slideNumber
    split <;> split <;> omega
  simp only [Kind.diagnostic, Answer.map_bind, same]
  rfl

/-- The diagnostics with their line numbers moved. -/
abbrev slideAll (position : Nat) : List Diagnostic → List Diagnostic :=
  List.map (Diagnostic.slide position)

theorem onLines_slide (findings : List Finding) (number : Nat) :
    (findings.mapM fun finding => finding.onLine (slideNumber position number : Nat)) =
      (findings.mapM fun finding => Finding.onLine finding number).map (slideAll position) := by
  simp only [Finding.onLine, diagnostic_slide]
  exact Answer.mapM_map _ _ findings

theorem report_slide (slides : Slides position site moved) (findings : List Finding) :
    Scan.report moved findings = (Scan.report site findings).map (slideAll position) := by
  unfold Scan.report
  rw [slides.number]
  exact onLines_slide findings site.number

/-! ## Types -/

theorem headOf?_slide (index : Nat) (found : Match) :
    TypeScope.headOf? (slideIndex position index) found =
      (TypeScope.headOf? index found).map (TypeHead.slide position) := by
  unfold TypeScope.headOf?
  cases found.part? .keyword with
  | none => rfl
  | some word =>
    simp only [Option.bind_eq_bind, Option.bind_some]
    cases TypeKind.ofWord? word.text with
    | none => rfl
    | some kind =>
      simp only [Option.bind_some, ← slideNumber_succ]
      rfl

theorem nameDiagnostics_slide (head : TypeHead) (number brace : Nat) (name : Option Excerpt) :
    TypeScope.nameDiagnostics (head.slide position) (slideNumber position number) brace name =
      (TypeScope.nameDiagnostics head number brace name).map (slideAll position) := by
  unfold TypeScope.nameDiagnostics
  cases name with
  | none =>
    simp only [onLines_slide, TypeHead.slide]
    split <;> rfl
  | some name =>
    simp only [onLines_slide]
    rfl

theorem tagDiagnostics_slide (head : TypeHead) :
    TypeScope.tagDiagnostics (head.slide position) =
      (TypeScope.tagDiagnostics head).map (slideAll position) := by
  unfold TypeScope.tagDiagnostics
  simp only [TypeHead.slide, diagnostic_slide, Answer.bind_map]
  cases head.tag with
  | none => rfl
  | some tag =>
    simp only
    split
    · rfl
    · rw [Answer.map_bind]
      rfl

theorem closingDiagnostics_slide (head : TypeHead) (number : Nat) (code : List Char)
    (found : Match) :
    TypeScope.closingDiagnostics (head.slide position) (slideNumber position number) code found =
      (TypeScope.closingDiagnostics head number code found).map (slideAll position) := by
  simp only [TypeScope.closingDiagnostics, nameDiagnostics_slide, tagDiagnostics_slide,
    Answer.bind_map, Answer.map_bind, ← List.map_append]
  rfl

theorem memberDiagnostics_slide (kind : TypeKind) (number : Nat) (inside : Excerpt) :
    TypeScope.memberDiagnostics kind (slideNumber position number) inside =
      (TypeScope.memberDiagnostics kind number inside).map (slideAll position) :=
  onLines_slide _ number

theorem oneLineDiagnostics_slide (head : TypeHead) (number : Nat) (code : List Char)
    (bodyStart close : Nat) :
    TypeScope.oneLineDiagnostics (head.slide position) (slideNumber position number) code bodyStart
        close =
      (TypeScope.oneLineDiagnostics head number code bodyStart close).map (slideAll position) := by
  have sameKind : (head.slide position).kind = head.kind := rfl
  simp only [TypeScope.oneLineDiagnostics, sameKind, memberDiagnostics_slide,
    closingDiagnostics_slide, Answer.bind_map, Answer.map_bind]
  congr 1
  funext members
  split
  · simp only [Answer.map_bind, ← List.map_append]
    rfl
  · rfl

/-- The outcome with its diagnostics, indices and numbers moved. -/
abbrev carryTypes (position blanks : Nat) : TypeScope.Outcome → TypeScope.Outcome :=
  Prod.map (Option.map (slideAll position)) (carry position blanks)

theorem openWithBrace_carry (index : Nat) (code : List Char) (head : TypeHead) (bodyStart : Nat) :
    TypeScope.openWithBrace (slideIndex position index) code (head.slide position) bodyStart
        (carry position blanks state) =
      (TypeScope.openWithBrace index code head bodyStart state).map
        (carryTypes position blanks) := by
  unfold TypeScope.openWithBrace
  rw [← slideNumber_succ]
  simp only [oneLineDiagnostics_slide, Answer.bind_map]
  split
  · split
    · rw [Answer.map_bind]
      rfl
    · rfl
  · rfl

theorem closeInnermost_carry (index : Nat) (code : List Char) :
    TypeScope.closeInnermost (slideIndex position index) code (carry position blanks state) =
      (TypeScope.closeInnermost index code state).map (carryTypes position blanks) := by
  unfold TypeScope.closeInnermost
  rw [← slideNumber_succ, depth_carry]
  cases inside : state.types with
  | nil => simp [carry, ScanState.slide, inside]
  | cons scope types =>
    have inside' : (carry position blanks state).types =
        { scope with head := scope.head.slide position } ::
          types.map fun scope => { scope with head := scope.head.slide position } := by
      simp [carry, ScanState.slide, inside]
    simp only [inside', List.head?_cons, ScanState.closeType, inside, closingDiagnostics_slide,
      Answer.bind_map, Answer.ok_bind]
    split
    · split
      · rw [Answer.map_bind]
        rfl
      · rfl
    · rfl

theorem openOrClose_carry (index : Nat) (code : List Char) (state : ScanState) :
    TypeScope.openOrClose (slideIndex position index) code (carry position blanks state) =
      (TypeScope.openOrClose index code state).map (carryTypes position blanks) := by
  unfold TypeScope.openOrClose
  have bare : (Member.bareStart.matchStart? code).bind
        (TypeScope.headOf? (slideIndex position index)) =
      ((Member.bareStart.matchStart? code).bind (TypeScope.headOf? index)).map
        (TypeHead.slide position) := by
    cases Member.bareStart.matchStart? code with
    | none => rfl
    | some found => exact headOf?_slide index found
  rw [bare]
  cases (Member.bareStart.matchStart? code).bind (TypeScope.headOf? index) with
  | some head => rfl
  | none =>
    simp only [Option.map_none]
    cases Member.braceStart.matchStart? code with
    | none => exact closeInnermost_carry index code
    | some found =>
      simp only [headOf?_slide]
      cases TypeScope.headOf? index found with
      | none => exact closeInnermost_carry index code
      | some head => exact openWithBrace_carry index code head found.stop

theorem typeStep_carry (index : Nat) (code : List Char) :
    TypeScope.step (slideIndex position index) code (carry position blanks state) =
      (TypeScope.step index code state).map (carryTypes position blanks) := by
  unfold TypeScope.step
  cases waiting : state.pendingType with
  | none =>
    have waiting' : (carry position blanks state).pendingType = none := by
      simp [carry, ScanState.slide, waiting]
    simp only [waiting', openOrClose_carry]
  | some pending =>
    have waiting' : (carry position blanks state).pendingType =
        some ⟨pending.head.slide position, slideIndex position pending.line⟩ := by
      simp [carry, ScanState.slide, waiting]
    simp only [waiting', slideIndex_inj]
    split
    · exact openOrClose_carry index code state
    · split
      · rfl
      · exact openOrClose_carry index code { state with pendingType := none }

/-! ## Lines with code -/

/-- The outcome with its diagnostics, indices and numbers moved. -/
abbrev carryOutcome (position blanks : Nat) : Scan.Outcome → Scan.Outcome :=
  Prod.map (slideAll position) (carry position blanks)

variable {settings : Settings}

theorem sameSight_view (slides : Slides position site moved) :
    (moved.view settings (carry position blanks state)).SameSight (site.view settings state) where
  settings := rfl
  scope := scope_carry
  line := slides.line
  previous := slides.previous
  next := slides.next

theorem settledStatement_carry (slides : Slides position site moved) (state : ScanState) :
    Scan.settledStatement settings moved (carry position blanks state) =
      (Scan.settledStatement settings site state).map (carryOutcome position blanks) := by
  unfold Scan.settledStatement
  simp only [slides.line, slides.index, report_slide slides, typeStep_carry, Answer.bind_map]
  split
  · simp only [Answer.map_bind]
    rfl
  · rw [Answer.map_bind]
    congr 1
    funext outcome
    obtain ⟨closed, settled⟩ := outcome
    cases closed with
    | some diagnostics => rfl
    | none =>
      simp only [Prod.map_apply, Option.map_none,
        Rule.runPhase_eq_of_sight .statement (sameSight_view slides), Answer.map_bind]
      rfl

theorem statementLine_carry (slides : Slides position site moved) :
    Scan.statementLine settings moved (carry position blanks state) =
      (Scan.statementLine settings site state).map (carryOutcome position blanks) := by
  have previous : (moved.view settings (carry position blanks state)).previousCode =
      (site.view settings state).previousCode := by
    unfold View.previousCode
    rw [(sameSight_view slides).previous]
  unfold Scan.statementLine
  simp only [previous, indentStep_carry slides, report_slide slides, Answer.bind_map,
    Answer.map_bind, carryIndent]
  congr 1
  funext indented
  congr 1
  funext layout
  by_cases opened : indented.opened
  · simp only [opened, if_true]
    rfl
  · simp only [opened, settledStatement_carry slides, Answer.bind_map]
    simp only [Answer.pure_eq_ok, Answer.map_ok, Prod.map_apply, List.map_append, Prod.map_fst,
      Prod.map_snd, Bool.false_eq_true, if_false, Answer.map_bind]

theorem directiveLine_carry (slides : Slides position site moved) :
    Scan.directiveLine moved (carry position blanks state) =
      (Scan.directiveLine site state).map (carryOutcome position blanks) := by
  unfold Scan.directiveLine
  simp only [slides.line, report_slide slides, Answer.bind_map, Answer.map_bind]
  rfl

theorem codeLine_carry (slides : Slides position site moved) :
    Scan.codeLine settings moved (carry position blanks state) =
      (Scan.codeLine settings site state).map (carryOutcome position blanks) := by
  unfold Scan.codeLine
  simp only [paramBlock_carry, inDefinition_carry, slides.line, proceed_carry, report_slide slides,
    directiveLine_carry slides, statementLine_carry slides, Answer.bind_map]
  split
  · rw [Answer.map_bind]
    rfl
  · split
    · rfl
    · split
      · rw [Answer.map_bind]
        rfl
      · rfl

theorem contentDiagnostics_carry (slides : Slides position site moved) :
    Scan.contentDiagnostics settings moved (carry position blanks state) =
      (Scan.contentDiagnostics settings site state).map (slideAll position) := by
  unfold Scan.contentDiagnostics
  simp only [slides.line, Rule.runPhase_eq_of_sight .content (sameSight_view slides),
    report_slide slides]
  split
  · rfl
  · rw [Answer.map_bind]

/-! ## Every line -/

/-- The outcome of a line that is not blank, apart from the blank lines before it. -/
def inkedRest (settings : Settings) (site : Site) (state : ScanState) : Except Fault Scan.Outcome := do
  let findings ← Rule.runPhase .raw (site.view settings state)
  let raw ← Scan.report site findings
  if site.line.isSkipped then return (raw, state)
  else
    let content ← Scan.contentDiagnostics settings site state
    let others ← Scan.codeLine settings site state
    return (raw ++ content ++ others.1, others.2)

theorem inkedLine_eq (settings : Settings) (site : Site) (state : ScanState) :
    Scan.inkedLine settings site state = (do
      let ended ← Scan.endBlankRun site state
      let rest ← inkedRest settings site ended.2
      return (ended.1 ++ rest.1, rest.2)) := by
  unfold Scan.inkedLine inkedRest
  cases Scan.endBlankRun site state with
  | error fault => rfl
  | ok ended =>
    simp only [Answer.ok_bind]
    cases Rule.runPhase .raw (site.view settings ended.2) with
    | error fault => rfl
    | ok findings =>
      simp only [Answer.ok_bind]
      cases Scan.report site findings with
      | error fault => rfl
      | ok raw =>
        simp only [Answer.ok_bind]
        split
        · rfl
        · cases Scan.contentDiagnostics settings site ended.2 with
          | error fault => rfl
          | ok content =>
            simp only [Answer.ok_bind]
            cases Scan.codeLine settings site ended.2 with
            | error fault => rfl
            | ok others => simp only [Answer.ok_bind, Answer.pure_eq_ok, List.append_assoc]

theorem inkedRest_carry (slides : Slides position site moved) (state : ScanState) :
    inkedRest settings moved (carry position blanks state) =
      (inkedRest settings site state).map (carryOutcome position blanks) := by
  unfold inkedRest
  simp only [Rule.runPhase_eq_of_sight .raw (sameSight_view slides), report_slide slides,
    contentDiagnostics_carry slides, codeLine_carry slides, slides.line, Answer.bind_map,
    Answer.map_bind]
  congr 1
  funext findings
  congr 1
  funext raw
  split
  · rfl
  · simp only [Answer.map_bind, Answer.pure_eq_ok, Answer.map_ok, Prod.map_apply, Prod.map_fst,
      Prod.map_snd, List.map_append]

/-- The diagnostics that are not about runs of blank lines. -/
def lasting (diagnostics : List Diagnostic) : List Diagnostic :=
  diagnostics.filter fun diagnostic => diagnostic.kind != Kind.tooManyBlankLines.name

theorem lasting_append (diagnostics others : List Diagnostic) :
    lasting (diagnostics ++ others) = lasting diagnostics ++ lasting others :=
  List.filter_append _ _

theorem lasting_slideAll (diagnostics : List Diagnostic) :
    lasting (slideAll position diagnostics) = slideAll position (lasting diagnostics) := by
  unfold lasting
  rw [List.filter_map]
  rfl

theorem lasting_eq_nil {diagnostics : List Diagnostic}
    (all : ∀ diagnostic ∈ diagnostics, diagnostic.kind = Kind.tooManyBlankLines.name) :
    lasting diagnostics = [] := by
  apply List.filter_eq_nil_iff.mpr
  intro diagnostic member
  simp [all diagnostic member]

/-- Two outcomes of one line that agree up to the inserted line and the count of blank lines. -/
structure Agrees (position : Nat) (outcome other : Scan.Outcome) : Prop where
  diagnostics : lasting other.1 = slideAll position (lasting outcome.1)
  state : ∃ blanks, other.2 = carry position blanks outcome.2

/-- Two answers that agree: the same fault, or outcomes that do. -/
def AnswersAgree (position : Nat) (answer other : Except Fault Scan.Outcome) : Prop :=
  match answer with
  | .error fault => other = .error fault
  | .ok outcome => ∃ otherOutcome, other = .ok otherOutcome ∧ Agrees position outcome otherOutcome

theorem inkedLine_agrees (slides : Slides position site moved) (blanks : Nat) (state : ScanState) :
    AnswersAgree position (Scan.inkedLine settings site state)
      (Scan.inkedLine settings moved (carry position blanks state)) := by
  obtain ⟨ended, endedHere, run⟩ := Scan.endBlankRun_eq_ok site state
  obtain ⟨ended', endedThere, run'⟩ :=
    Scan.endBlankRun_eq_ok moved (carry position blanks state)
  have reset : { carry position blanks state with blankRun := 0 } =
      carry position 0 { state with blankRun := 0 } := rfl
  rw [inkedLine_eq, inkedLine_eq, endedHere, endedThere, Answer.ok_bind, Answer.ok_bind, reset,
    inkedRest_carry slides, Answer.bind_map]
  cases inkedRest settings site { state with blankRun := 0 } with
  | error fault => rfl
  | ok rest =>
    refine ⟨_, rfl, ?_, ⟨0, rfl⟩⟩
    simp only [lasting_append, lasting_eq_nil run, lasting_eq_nil run', List.nil_append,
      Prod.map_fst, lasting_slideAll]

theorem blankLine_agrees (slides : Slides position site moved) (blanks : Nat) (state : ScanState) :
    AnswersAgree position (Scan.blankLine site state)
      (Scan.blankLine moved (carry position blanks state)) := by
  unfold Scan.blankLine
  simp only [slides.line, report_slide slides, Answer.bind_map]
  by_cases commented : site.line.before = .block
  · simp only [commented, if_true]
    exact ⟨_, rfl, rfl, ⟨blanks, rfl⟩⟩
  · simp only [commented, if_false]
    cases Scan.report site _ with
    | error fault => rfl
    | ok diagnostics => exact ⟨_, rfl, lasting_slideAll diagnostics, ⟨blanks + 1, rfl⟩⟩

theorem step_agrees (settings : Settings) (slides : Slides position site moved) (blanks : Nat)
    (state : ScanState) :
    AnswersAgree position (Scan.step settings site state)
      (Scan.step settings moved (carry position blanks state)) := by
  have line : AnswersAgree position (Scan.line settings site state)
      (Scan.line settings moved (carry position blanks state)) := by
    unfold Scan.line
    rw [slides.line]
    split
    · exact blankLine_agrees slides blanks state
    · exact inkedLine_agrees slides blanks state
  unfold Scan.step
  cases scanned : Scan.line settings site state with
  | error fault =>
    rw [scanned] at line
    rw [show Scan.line settings moved _ = _ from line]
    rfl
  | ok outcome =>
    rw [scanned] at line
    obtain ⟨other, given, diagnostics, later, state⟩ := line
    rw [given]
    refine ⟨_, rfl, diagnostics, later, ?_⟩
    simp only [state, slides.index, slides.line, closeFinished_carry]
    rfl

/-! ## The inserted line -/

theorem closeFinished_position (blanks : Nat) (state : ScanState) :
    CaseBlock.closeFinished position (carry position blanks state) = carry position blanks state := by
  have kept : ∀ frames, CaseBlock.closeFrames position frames (carry position blanks state).cases =
      (frames, (carry position blanks state).cases) := by
    intro frames
    unfold carry ScanState.slide
    cases state.cases with
    | nil => rfl
    | cons frame cases =>
      simp only [List.map_cons, CaseBlock.closeFrames, slideIndex_ne, if_false]
  unfold CaseBlock.closeFinished
  rw [kept]

/-- A line without code that leaves the comment state as it is passes, and changes nothing but the
count of blank lines. -/
theorem step_inserted {settings : Settings} (position : Nat) {line : Line}
    (codeless : line.hasCode = false) (fits : Scan.lengthFault? settings line = none) (blanks : Nat)
    (state : ScanState) (comment : line.after = state.comment) (before after : List Line) :
    ∃ diagnostics count,
      Scan.step settings ⟨position, before, line, after⟩ (carry position blanks state) =
        .ok (diagnostics, carry position count state) := by
  have passes : Scan.fault? settings ⟨position, before, line, after⟩
      (carry position blanks state) = none := by
    simp [Scan.fault?, fits, Scan.contentFault?, Scan.chainFault?, Scan.isStatement, codeless]
  have next : ∃ count, Scan.lineNext ⟨position, before, line, after⟩ (carry position blanks state) =
      carry position count state := by
    unfold Scan.lineNext
    by_cases blank : line.isBlank
    · simp only [blank, if_true]
      split
      · exact ⟨blanks, rfl⟩
      · exact ⟨blanks + 1, rfl⟩
    · have skipped : line.isSkipped = true := by simp [Line.isSkipped, codeless, blank]
      simp only [blank, skipped, if_true]
      exact ⟨0, rfl⟩
  obtain ⟨count, next⟩ := next
  have outcome := Scan.step_outcome settings ⟨position, before, line, after⟩
    (carry position blanks state)
  rw [passes] at outcome
  obtain ⟨diagnostics, given, -⟩ := outcome
  refine ⟨diagnostics, count, ?_⟩
  rw [given, Scan.advance, next, closeFinished_position, comment]
  rfl

/-! ## Whole runs -/

/-- The records of one line in a file and in the file with a line inserted: the same but for the
moved indices and numbers, the count of blank lines, and complaints about that count. -/
structure SameRecord (position : Nat) (record other : Scan.Record) : Prop where
  index : other.index = slideIndex position record.index
  diagnostics : lasting other.diagnostics = (lasting record.diagnostics).map (.slide position)
  state : ∃ blanks, other.state = { record.state.slide position with blankRun := blanks }

/-- Two runs that go on alike, and fail alike if they fail. -/
structure SameRun (position : Nat) (run other : List Scan.Record × Option Fault) : Prop where
  fault : other.2 = run.2
  records : ∀ offset : Nat,
    Option.Rel (SameRecord position) run.1[offset]? other.1[offset]?

theorem runFrom_after (settings : Settings) {inserted : Line} (codeless : inserted.hasCode = false)
    (before done lines : List Line) {index : Nat} (later : position ≤ index) (blanks : Nat)
    (state : ScanState) :
    SameRun position (Scan.runFrom settings index (done ++ before) state lines)
      (Scan.runFrom settings (index + 1) (done ++ inserted :: before) (carry position blanks state)
        lines) := by
  induction lines generalizing index done blanks state with
  | nil => exact ⟨rfl, fun offset => .none⟩
  | cons line lines inductionHypothesis =>
    have slides := slides_after codeless line before done lines later
    have agrees := step_agrees settings slides blanks state
    cases outcome : Scan.step settings ⟨index, done ++ before, line, lines⟩ state with
    | error fault =>
      rw [outcome] at agrees
      rw [Scan.runFrom_cons_error outcome, Scan.runFrom_cons_error agrees]
      exact ⟨rfl, fun offset => .none⟩
    | ok settled =>
      rw [outcome] at agrees
      obtain ⟨⟨diagnostics, other⟩, given, same, count, rfl⟩ := agrees
      have rest := inductionHypothesis (line :: done) (Nat.le_succ_of_le later) count settled.2
      rw [Scan.runFrom_cons_ok outcome, Scan.runFrom_cons_ok given]
      refine ⟨rest.fault, ?_⟩
      intro offset
      cases offset with
      | zero => exact .some ⟨slides.index, same, count, rfl⟩
      | succ offset => exact rest.records offset

/-- Two runs from one state, the second of which has a line inserted a number of lines after its
start, at a position of the file. Every other line has the same record in both, the inserted line is
scanned if the lines before it are, and it changes nothing in the state but the count of blank
lines. -/
structure Inserts (position offset : Nat) (start : ScanState)
    (run other : List Scan.Record × Option Fault) : Prop where
  fault : other.2 = run.2
  records : ∀ index : Nat,
    Option.Rel (SameRecord position) run.1[index]? other.1[slideIndex offset index]?
  scanned : other.1[offset]?.isSome ↔ offset ≤ run.1.length
  inserted : ∀ record, other.1[offset]? = some record →
    ∃ before blanks, (start :: other.1.map Scan.Record.state)[offset]? = some before ∧
      record.state = { before with blankRun := blanks }

theorem slideIndex_succ_succ (offset index : Nat) :
    slideIndex (offset + 1) (index + 1) = slideIndex offset index + 1 := by
  unfold slideIndex
  split <;> split <;> omega

theorem inserts_of_error {offset : Nat} (start : ScanState) (fault : Fault) :
    Inserts position (offset + 1) start ([], some fault) ([], some fault) where
  fault := rfl
  records := fun index => .none
  scanned := by simp
  inserted := fun record found => nomatch found

theorem Inserts.cons {offset : Nat} {start : ScanState} {record other : Scan.Record}
    {run moved : List Scan.Record × Option Fault} (same : SameRecord position record other)
    (rest : Inserts position offset other.state run moved) :
    Inserts position (offset + 1) start (record :: run.1, run.2) (other :: moved.1, moved.2) where
  fault := rest.fault
  records := by
    intro index
    cases index with
    | zero => exact .some same
    | succ index =>
      rw [slideIndex_succ_succ]
      exact rest.records index
  scanned := by
    show moved.1[offset]?.isSome ↔ offset + 1 ≤ run.1.length + 1
    rw [rest.scanned, Nat.add_le_add_iff_right]
  inserted := rest.inserted

/-- A run with a line inserted somewhere ahead. -/
theorem runFrom_insert {settings : Settings} {inserted : Line}
    (codeless : inserted.hasCode = false) (fits : Scan.lengthFault? settings inserted = none)
    (unmarked : CaseBlock.isMarked inserted = false)
    (first rest before : List Line) {index : Nat} (here : index + first.length = position)
    (blanks : Nat) (state : ScanState)
    (comment : inserted.after = (first.getLast?.map Line.after).getD state.comment) :
    Inserts position first.length (carry position blanks state)
      (Scan.runFrom settings index before state (first ++ rest))
      (Scan.runFrom settings index before (carry position blanks state)
        (first ++ inserted :: rest)) := by
  induction first generalizing index before blanks state with
  | nil =>
    have atPosition : index = position := here
    subst atPosition
    obtain ⟨diagnostics, count, passes⟩ :=
      step_inserted index codeless fits blanks state comment before rest
    have after := runFrom_after settings codeless before [] rest (Nat.le_refl index) count state
    rw [List.nil_append, List.nil_append, Scan.runFrom_cons_ok passes]
    refine ⟨after.fault, after.records, ⟨fun _ => Nat.zero_le _, fun _ => rfl⟩, ?_⟩
    intro record found
    cases found
    exact ⟨_, count, rfl, rfl⟩
  | cons line first inductionHypothesis =>
    rw [List.length_cons] at here
    have slides := slides_before codeless unmarked line before first rest
      (show index + 1 + first.length = position by omega)
    have agrees := step_agrees settings slides blanks state
    rw [List.cons_append, List.cons_append, List.length_cons]
    cases outcome : Scan.step settings ⟨index, before, line, first ++ rest⟩ state with
    | error fault =>
      rw [outcome] at agrees
      rw [Scan.runFrom_cons_error outcome, Scan.runFrom_cons_error agrees]
      exact inserts_of_error _ fault
    | ok settled =>
      rw [outcome] at agrees
      obtain ⟨⟨diagnostics, other⟩, given, same, count, rfl⟩ := agrees
      have comment' : inserted.after =
          (first.getLast?.map Line.after).getD settled.2.comment := by
        rw [comment, Scan.state_of_step outcome, List.getLast?_cons]
        cases first.getLast? <;> rfl
      have later := inductionHypothesis (line :: before)
        (show index + 1 + first.length = position by omega) count settled.2 comment'
      rw [Scan.runFrom_cons_ok outcome, Scan.runFrom_cons_ok given]
      exact later.cons ⟨slides.index, same, count, rfl⟩

end Insertion

theorem insertIdx_eq_append {α : Type} {items : List α} {position : Nat} (item : α)
    (inside : position ≤ items.length) :
    items.insertIdx position item = items.take position ++ item :: items.drop position := by
  induction items generalizing position with
  | nil =>
    rw [Nat.le_zero.mp inside]
    rfl
  | cons other items inductionHypothesis =>
    cases position with
    | zero => rfl
    | succ position =>
      rw [List.insertIdx_succ_cons, inductionHypothesis (Nat.le_of_succ_le_succ inside)]
      rfl

/-- A line that fails for nothing, has no code, leaves the comment state as it is and marks no case as
running on is invisible to the scan. -/
theorem Insertion.inserts_insertIdx {settings : Settings} {raws : List (List Char)} {position : Nat}
    {raw : List Char} (inside : position ≤ raws.length)
    (codeless : (Line.ofRaw (Source.stateAfter .code (raws.take position)) raw).hasCode = false)
    (fits : Scan.lengthFault? settings
      (Line.ofRaw (Source.stateAfter .code (raws.take position)) raw) = none)
    (neutral : (Line.ofRaw (Source.stateAfter .code (raws.take position)) raw).after =
      Source.stateAfter .code (raws.take position))
    (unmarked : CaseBlock.isMarked
      (Line.ofRaw (Source.stateAfter .code (raws.take position)) raw) = false) :
    Insertion.Inserts position position .initial (Scan.run settings (Line.ofRaws raws))
      (Scan.run settings (Line.ofRaws (raws.insertIdx position raw))) := by
  have split := Line.ofRawsFrom_append .code (raws.take position) (raws.drop position)
  have splitInserted := Line.ofRawsFrom_append .code (raws.take position)
    (raw :: raws.drop position)
  rw [List.take_append_drop] at split
  rw [Line.ofRawsFrom, neutral] at splitInserted
  have length : (Line.ofRawsFrom .code (raws.take position)).length = position := by
    rw [Line.length_ofRawsFrom, List.length_take, Nat.min_eq_left inside]
  have inserts := Insertion.runFrom_insert codeless fits unmarked
    (Line.ofRawsFrom .code (raws.take position))
    (Line.ofRawsFrom (Source.stateAfter .code (raws.take position)) (raws.drop position)) []
    (show 0 + _ = position by rw [length, Nat.zero_add]) 0 .initial
    (by rw [neutral]; exact (Line.after_getLast?_ofRawsFrom .code _).symm)
  rw [length, ← split, ← splitInserted] at inserts
  rw [insertIdx_eq_append raw inside]
  exact inserts

/-- A comment before an empty line, and a limit of 5001 digits: the line alone passes, the comment
does not. -/
theorem run_not_writable :
    let settings : Settings := ⟨.kr, -10 ^ 5000, none⟩
    let raws := [""].map String.toList
    (Scan.run settings (Line.ofRaws raws)).2 = none ∧
      (Scan.run settings (Line.ofRaws (raws.insertIdx 0 "// x".toList))).2 =
        some (.numeralTooLong none) := by
  intro settings raws
  have blank : ∀ line ∈ Line.ofRaws raws, line.isBlank := by decide +kernel
  have answers : (Scan.run .default (Line.ofRaws raws)).2 = none := by decide +kernel
  have same : Scan.run settings (Line.ofRaws raws) = Scan.run .default (Line.ofRaws raws) :=
    Scan.runFrom_of_blank settings .default blank 0 [] .initial
  have comment : Line.ofRaw .code "// x".toList ∈
      Line.ofRaws (raws.insertIdx 0 "// x".toList) := by decide +kernel
  have inked : ¬ (Line.ofRaw .code "// x".toList).isBlank := by decide +kernel
  have unwritable : ¬ settings.Writable := Settings.not_writable_of_pow .kr none (by decide)
  exact ⟨by rw [same, answers],
    Scan.fault_run_eq_some_iff.mpr (Scan.not_writesLimit unwritable comment inked)⟩

end HouseStyle
