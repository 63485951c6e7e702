import HouseStyle.Proofs.Scan.Bodies
import HouseStyle.Proofs.Scan.Parallel

/-!
Contract: the part of the state that decides where lines are expected.

Owns: the core of a state, the sites from which a scan looks ahead alike, and the core that a line
leaves.
Does not own: which bodies of cases end with a line.

Frames, the indentation of the next line, lists, definitions and types depend on one another. The
open bodies of cases only tell when frames are left. The count of blank lines, the comment state and
whether a list declares a function tell nothing about frames. A label looks ahead for the end of its
body, but all that its frame needs is whether there is one.

Main statement: `core_lineNext`.
-/

namespace HouseStyle

/-- A list of parameters without what it declares. -/
def ParamBlock.undeclared (block : ParamBlock) : ParamBlock :=
  { block with isDefinition := false }

namespace ScanState

/-- The state without the bodies of cases, the count of blank lines, the comment state and what an
open list declares. -/
def core (state : ScanState) : ScanState :=
  { state with
    cases := []
    paramBlock := state.paramBlock.map ParamBlock.undeclared
    comment := .code
    blankRun := 0 }

variable {state other : ScanState}

theorem core_popMany (count : Nat) : (state.popMany count).core = state.core.popMany count := rfl

theorem core_popMany_eq (same : state.core = other.core) (count : Nat) :
    (state.popMany count).core = (other.popMany count).core := by
  rw [core_popMany, core_popMany, same]

theorem core_push_eq (same : state.core = other.core) (indent : Int) :
    (state.push indent).core = (other.push indent).core :=
  congrArg (fun core => core.push indent) same

theorem core_pop_eq (same : state.core = other.core) : state.pop.core = other.pop.core :=
  congrArg pop same

theorem core_expecting_eq (same : state.core = other.core) (indent : Option Int) :
    core { state with nextIndent := indent } = core { other with nextIndent := indent } :=
  congrArg (fun core => { core with nextIndent := indent }) same

theorem core_frames_eq (same : state.core = other.core) : state.frames = other.frames := by
  show state.core.frames = other.core.frames
  rw [same]

theorem core_types_eq (same : state.core = other.core) : state.types = other.types := by
  show state.core.types = other.core.types
  rw [same]

theorem core_pendingType_eq (same : state.core = other.core) :
    state.pendingType = other.pendingType := by
  show state.core.pendingType = other.core.pendingType
  rw [same]

theorem core_inDefinition_eq (same : state.core = other.core) :
    state.inDefinition = other.inDefinition := by
  show state.core.inDefinition = other.core.inDefinition
  rw [same]

theorem core_paramBlock_eq (same : state.core = other.core) :
    state.paramBlock.map ParamBlock.undeclared = other.paramBlock.map ParamBlock.undeclared := by
  show state.core.paramBlock = other.core.paramBlock
  rw [same]

theorem core_ite {test : Prop} [Decidable test] {yes no otherYes otherNo : ScanState}
    (first : yes.core = otherYes.core) (second : no.core = otherNo.core) :
    (if test then yes else no).core = (if test then otherYes else otherNo).core := by
  by_cases holds : test
  · rw [if_pos holds, if_pos holds, first]
  · rw [if_neg holds, if_neg holds, second]

end ScanState

/-! ## Statements behind their label -/

/-- The state after a statement whose label, if it has one, has left the given state. -/
def Scan.afterLabel (site : Site) (expected : Int) (labelled : ScanState) : ScanState :=
  if InlineControl.isInline site.line.code then labelled
  else if ParamBlock.opens site.line.code then
    ParamBlock.opened site.line.code expected site.previousCode labelled
  else
    TypeScope.settled site.index site.line.code
      (Indent.followBraces site expected (site.line.stripped.head? == some '}') labelled)

theorem Scan.statementNext_eq (site : Site) (state : ScanState) :
    statementNext site state =
      afterLabel site (Indent.expectedAt site.line state) (Indent.labelled site state) := by
  unfold statementNext afterLabel Indent.settled
  cases InlineControl.isInline site.line.code <;> cases ParamBlock.opens site.line.code <;> rfl

/-! ## Sites -/

/-- Two sites of one line at which a block is indented alike. -/
structure Site.SameBlocks (site other : Site) : Prop where
  line : other.line = site.line
  index : other.index = site.index
  block : ∀ indent, Indent.blockIndent other indent = Indent.blockIndent site indent

/-- Two sites of one line from which a scan looks ahead to the same frames: it finds a body at both
or at neither, and a block that opens there is indented alike. -/
structure Site.SameOutlook (site other : Site) : Prop extends site.SameBlocks other where
  framed : (CaseBlock.frameEnd? other).isSome = (CaseBlock.frameEnd? site).isSome

theorem Site.SameOutlook.refl (site : Site) : site.SameOutlook site :=
  ⟨⟨rfl, rfl, fun _ => rfl⟩, rfl⟩

namespace ScanState

/-! ## What lines do to the core -/

section Same

variable {state other : ScanState} (same : state.core = other.core) {site moved : Site}
  (blocks : site.SameBlocks moved) (outlook : site.SameOutlook moved)
include same

theorem core_outside (line : Line) :
    (Indent.outside line state).core = (Indent.outside line other).core := by
  unfold Indent.outside
  exact core_ite (core_pop_eq same) same

/-- The core decides where a line is expected. -/
theorem core_expectedAt (line : Line) :
    Indent.expectedAt line state = Indent.expectedAt line other := by
  have decides : ∀ state : ScanState, Indent.expected line.stripped state =
      Indent.expected line.stripped state.core := fun _ => rfl
  unfold Indent.expectedAt
  rw [decides, core_outside same, ← decides]

theorem core_isStatement (line : Line) : Scan.isStatement line state = Scan.isStatement line other := by
  have outsideLists := congrArg Option.isNone (core_paramBlock_eq same)
  rw [Option.isNone_map, Option.isNone_map] at outsideLists
  rw [Scan.isStatement, Scan.isStatement, outsideLists, core_inDefinition_eq same]

theorem core_expected? (line : Line) : Scan.expected? line state = Scan.expected? line other := by
  rw [Scan.expected?, Scan.expected?, core_isStatement same, core_expectedAt same]

theorem core_fault? (line : site.line = moved.line) (settings : Settings) :
    Scan.fault? settings site state = Scan.fault? settings moved other := by
  have scope : state.scope = other.scope := by
    rw [ScanState.scope, ScanState.scope, core_types_eq same]
  simp only [Scan.fault?, Scan.contentFault?, Scan.chainFault?, core_isStatement same,
    Rule.fault?, Call.longNumber?, Call.definesConstants, Call.numbers, View.isDefinition,
    View.code, View.masked, Site.view, line, scope]
  rfl

theorem core_enter {endLine? otherEnd? : Option Nat} (framed : endLine?.isSome = otherEnd?.isSome)
    (baseIndent : Int) :
    (CaseBlock.enter endLine? baseIndent state).core =
      (CaseBlock.enter otherEnd? baseIndent other).core := by
  cases endLine? <;> cases otherEnd? <;> simp only [Option.isSome_none, Option.isSome_some] at framed
  · exact same
  · cases framed
  · cases framed
  · exact core_push_eq same _

theorem core_labelled (line : moved.line = site.line)
    (framed : (CaseBlock.frameEnd? moved).isSome = (CaseBlock.frameEnd? site).isSome) :
    (Indent.labelled site state).core = (Indent.labelled moved other).core := by
  have settled := core_expecting_eq (core_outside same site.line) none
  unfold Indent.labelled
  rw [line, core_expectedAt same]
  exact core_ite (core_enter settled framed.symm _) settled

theorem core_opened (code : List Char) (baseIndent : Int) (previous otherPrevious : List Char) :
    (ParamBlock.opened code baseIndent previous state).core =
      (ParamBlock.opened code baseIndent otherPrevious other).core := by
  have opened := congrArg (fun core => (ParamBlock.opened code baseIndent [] core).core) same
  exact opened

include blocks in
theorem core_followBraces (expected : Int) (startsWithClose : Bool) :
    (Indent.followBraces site expected startsWithClose state).core =
      (Indent.followBraces moved expected startsWithClose other).core := by
  simp only [Indent.followBraces, blocks.line, blocks.block]
  apply core_ite
  · exact core_push_eq same _
  · apply core_ite
    · exact core_popMany_eq same _
    · apply core_ite
      · exact core_expecting_eq same _
      · exact same

theorem core_continued {block otherBlock : ParamBlock}
    (undeclared : block.undeclared = otherBlock.undeclared) (code : List Char) :
    (ParamBlock.continued block code state).core =
      (ParamBlock.continued otherBlock code other).core := by
  obtain ⟨requiredIndent, baseIndent, depth, isDefinition, isControl⟩ := block
  obtain ⟨_, _, _, _, _⟩ := otherBlock
  simp only [ParamBlock.undeclared, ParamBlock.mk.injEq, true_and] at undeclared
  obtain ⟨rfl, rfl, rfl, rfl⟩ := undeclared
  have closed : core { state with paramBlock := none } = core { other with paramBlock := none } :=
    congrArg (fun core => { core with paramBlock := none }) same
  have further : ∀ block otherBlock : ParamBlock, block.undeclared = otherBlock.undeclared →
      core { state with paramBlock := some block } =
        core { other with paramBlock := some otherBlock } := by
    intro block otherBlock undeclared
    have open' := congrArg (fun core : ScanState =>
      { core with paramBlock := some block.undeclared }) same
    exact open'.trans (by rw [undeclared]; rfl)
  unfold ParamBlock.continued
  apply core_ite
  · exact further _ _ rfl
  · apply core_ite
    · exact core_push_eq closed _
    · apply core_ite
      · exact core_expecting_eq closed _
      · exact closed

theorem core_openType (head : TypeHead) : (state.openType head).core = (other.openType head).core :=
  congrArg (fun core => core.openType head) same

theorem core_closed (code : List Char) :
    (TypeScope.closed code state).core = (TypeScope.closed code other).core := by
  have depth : state.depth = other.depth := congrArg List.length (core_frames_eq same)
  unfold TypeScope.closed
  rw [core_types_eq same, depth]
  cases other.types with
  | nil => exact same
  | cons scope inner => exact core_ite (congrArg (fun core => { core with types := inner }) same) same

theorem core_openedOrClosed (index : Nat) (code : List Char) :
    (TypeScope.openedOrClosed index code state).core =
      (TypeScope.openedOrClosed index code other).core := by
  unfold TypeScope.openedOrClosed
  cases (Member.bareStart.matchStart? code).bind (TypeScope.headOf? index) with
  | some head => exact congrArg (fun core => { core with pendingType := some ⟨head, index⟩ }) same
  | none =>
    cases Member.braceStart.matchStart? code with
    | none => exact core_closed same code
    | some found =>
      dsimp only
      cases TypeScope.headOf? index found with
      | none => exact core_closed same code
      | some head => exact core_ite (core_openType same head) same

theorem core_typesSettled (index : Nat) (code : List Char) :
    (TypeScope.settled index code state).core = (TypeScope.settled index code other).core := by
  unfold TypeScope.settled
  rw [core_pendingType_eq same]
  cases other.pendingType with
  | none => exact core_openedOrClosed same index code
  | some pending =>
    have given : core { state with pendingType := none } = core { other with pendingType := none } :=
      congrArg (fun core => { core with pendingType := none }) same
    apply core_ite
    · exact core_openedOrClosed same index code
    · apply core_ite
      · exact core_openType given pending.head
      · exact core_openedOrClosed given index code

include blocks in
theorem core_afterLabel (expected : Int) :
    (Scan.afterLabel site expected state).core = (Scan.afterLabel moved expected other).core := by
  unfold Scan.afterLabel
  simp only [blocks.line, blocks.index]
  apply core_ite
  · exact same
  · apply core_ite
    · exact core_opened same _ _ _ _
    · exact core_typesSettled (core_followBraces same blocks _ _) _ _

include outlook in
theorem core_statementNext :
    (Scan.statementNext site state).core = (Scan.statementNext moved other).core := by
  rw [Scan.statementNext_eq, Scan.statementNext_eq, core_expectedAt same, outlook.line]
  exact core_afterLabel (core_labelled same outlook.line outlook.framed) outlook.toSameBlocks _

include outlook in
theorem core_codeNext : (Scan.codeNext site state).core = (Scan.codeNext moved other).core := by
  unfold Scan.codeNext
  rcases missing_or_there (core_paramBlock_eq same) with
    ⟨missing, missingToo⟩ | ⟨block, otherBlock, there, thereToo, undeclared⟩
  · rw [missing, missingToo]
    simp only [outlook.line, core_inDefinition_eq same]
    apply core_ite
    · have directive := congrArg (fun core : ScanState => { core with
        paramBlock := none
        inDefinition := (Text.trimRight site.line.raw).getLast? == some '\\' }) same
      exact directive
    · exact core_ite same (core_statementNext same outlook)
  · rw [there, thereToo, outlook.line]
    exact core_continued same undeclared site.line.code

include outlook in
/-- A line leaves the same core wherever it finds the same core and looks ahead to the same
frames. -/
theorem core_lineNext : (Scan.lineNext site state).core = (Scan.lineNext moved other).core := by
  have inked : core { state with blankRun := 0 } = core { other with blankRun := 0 } := same
  unfold Scan.lineNext
  simp only [outlook.line]
  apply core_ite
  · exact core_ite same same
  · apply core_ite
    · exact inked
    · exact core_codeNext inked outlook

end Same

/-- Leaving the bodies that end with a line leaves as many frames. -/
theorem core_advance (site : Site) (state : ScanState) :
    (Scan.advance site state).core =
      ((Scan.lineNext site state).popMany
        (CaseBlock.finished site.index (Scan.lineNext site state).cases)).core := by
  rw [Scan.advance, CaseBlock.closeFinished, CaseBlock.closeFrames_eq]
  rfl

/-- Two lines that leave the same core and end equally many bodies leave the same core behind these
bodies. -/
theorem core_advance_eq {site moved : Site} {state other : ScanState}
    (next : (Scan.lineNext site state).core = (Scan.lineNext moved other).core)
    (together : CaseBlock.finished site.index (Scan.lineNext site state).cases =
      CaseBlock.finished moved.index (Scan.lineNext moved other).cases) :
    (Scan.advance site state).core = (Scan.advance moved other).core := by
  rw [core_advance, core_advance, together]
  exact core_popMany_eq next _

theorem cases_advance (site : Site) (state : ScanState) :
    (Scan.advance site state).cases = (Scan.lineNext site state).cases.drop
      (CaseBlock.finished site.index (Scan.lineNext site state).cases) := by
  rw [Scan.advance, CaseBlock.closeFinished, CaseBlock.closeFrames_eq]

end ScanState

end HouseStyle
