import HouseStyle.Proofs.Scan.PassedOver

/-!
Contract: the last line of code before a directive.

Owns: what this line leaves in a file with the directive, compared with the file without it.
Does not own: the lines behind the directive.

The line is the only one whose look-ahead for the next line of code meets the directive. A block that
it opens may then be indented by a step where without the directive it would be empty and not
indented, and a label may get a body that has no line but the directive. The first difference is left
by the closing brace that comes next, the second with the directive.

Main statement: `edgeLeaves`.
-/

namespace HouseStyle

/-! ## The types of a statement -/

namespace TypeScope

section Frames

variable {state : ScanState} {frames : List Nat}

theorem closed_frames (code : List Char) (length : frames.length = state.frames.length) :
    closed code { state with frames } = { closed code state with frames } := by
  unfold closed ScanState.depth
  dsimp only
  rw [length]
  split
  · rfl
  · split <;> rfl

theorem openType_frames (head : TypeHead) (length : frames.length = state.frames.length) :
    ScanState.openType { state with frames } head = { state.openType head with frames } := by
  unfold ScanState.openType ScanState.depth
  rw [length]

theorem openedOrClosed_frames (index : Nat) (code : List Char)
    (length : frames.length = state.frames.length) :
    openedOrClosed index code { state with frames } =
      { openedOrClosed index code state with frames } := by
  unfold openedOrClosed
  rw [closed_frames code length]
  cases (Member.bareStart.matchStart? code).bind (headOf? index) with
  | some head => rfl
  | none =>
    cases Member.braceStart.matchStart? code with
    | none => rfl
    | some found =>
      dsimp only
      cases headOf? index found with
      | none => rfl
      | some head =>
        dsimp only
        rw [openType_frames head length]
        split <;> rfl

/-- Types depend on the number of frames, not on their widths. -/
theorem settled_frames (index : Nat) (code : List Char) (state : ScanState) {frames : List Nat}
    (length : frames.length = state.frames.length) :
    settled index code { state with frames } = { settled index code state with frames } := by
  have given := @openedOrClosed_frames { state with pendingType := none } _ index code length
  have opened := fun head => @openType_frames { state with pendingType := none } _ head length
  have kept := openedOrClosed_frames index code length
  unfold settled
  dsimp only at *
  split
  next pending waiting =>
    rw [kept, opened, given]
    split
    · rfl
    · split <;> rfl
  next => exact kept

end Frames

/-- A label opens and closes no type. -/
theorem settled_of_labelStart {code : List Char} (label : CaseBlock.labelStart.fits (Text.trim code))
    (index : Nat) (state : ScanState) :
    settled index code state =
      { state with pendingType := state.pendingType.filter fun pending => pending.line == index } := by
  have starts : ∃ c ∈ ['c', 'd'], (Text.trim code).head? = some c := by
    obtain ⟨rest, written | written⟩ := starts_of_labelStart label
    · exact ⟨'c', by decide, by rw [written]; rfl⟩
    · exact ⟨'d', by decide, by rw [written]; rfl⟩
  have foreign : ∀ c ∈ ['t', 's', 'e', 'u'], c ∉ ['c', 'd'] := by simp
  have idle : ∀ state : ScanState, openedOrClosed index code state = state := by
    intro state
    have noBare : bareHead? index code = none := by
      cases bare : bareHead? index code with
      | none => rfl
      | some head =>
        obtain ⟨c, among, head⟩ := head?_of_bareHead? bare
        exact absurd head (head?_ne_of_not_mem starts (foreign c among))
    have noBrace : Member.braceStart.matchStart? code = none := by
      cases braced : Member.braceStart.matchStart? code with
      | none => rfl
      | some found =>
        obtain ⟨c, among, head⟩ := head?_of_braceStart braced
        exact absurd head (head?_ne_of_not_mem starts (foreign c among))
    unfold openedOrClosed
    rw [show (Member.bareStart.matchStart? code).bind (headOf? index) = none from noBare, noBrace]
    exact closed_of_head? (head?_ne_of_not_mem starts (by decide))
  have noOpener : (Text.trim code).head? ≠ some '{' := head?_ne_of_not_mem starts (by decide)
  rcases state with ⟨frames, nextIndent, types, pendingType, cases, paramBlock, comment, blankRun,
    inDefinition⟩
  unfold settled
  dsimp only
  cases pendingType with
  | none => exact idle _
  | some pending =>
    by_cases here : pending.line = index
    · simp [here, idle, Option.filter]
    · simp [here, idle, noOpener, Option.filter]

end TypeScope

/-! ## The line before a directive -/

namespace ScanState

/-- Two states with the same core but for the width of the innermost frame. -/
structure TopApart (state other : ScanState) : Prop where
  tail : state.frames.tail = other.frames.tail
  core : core { state with frames := other.frames } = other.core

variable {state other : ScanState}

theorem TopApart.core_popMany (apart : TopApart state other) {count : Nat} (some : 0 < count) :
    (state.popMany count).core = (other.popMany count).core := by
  obtain ⟨count, rfl⟩ := Nat.exists_eq_succ_of_ne_zero some.ne'
  have left : state.frames.drop (count + 1) = other.frames.drop (count + 1) := by
    rw [← List.drop_tail, ← List.drop_tail, apart.tail]
  have popped := core_popMany_eq apart.core (count + 1)
  have same : (state.popMany (count + 1)) =
      popMany { state with frames := other.frames } (count + 1) := by
    unfold popMany
    rw [left]
  rw [same, popped]

theorem TopApart.congr (apart : TopApart state other) {third : ScanState}
    (same : other.core = third.core) : TopApart state third where
  tail := by rw [apart.tail, core_frames_eq same]
  core := by rw [← core_frames_eq same, apart.core, same]

theorem TopApart.congr_left (apart : TopApart state other) {third : ScanState}
    (same : third.core = state.core) : TopApart third other where
  tail := by rw [core_frames_eq same, apart.tail]
  core := by
    rw [← apart.core]
    exact congrArg (fun core => { core with frames := other.frames }) same

end ScanState

namespace Scan

open ScanState

variable {site moved : Site} {state other : ScanState}

/-- A block that a statement opens is indented by what comes next, which may differ. -/
theorem afterLabel_topApart (line : moved.line = site.line) (index : moved.index = site.index)
    (expected : Int) (state : ScanState) :
    (afterLabel site expected state).core = (afterLabel moved expected state).core ∨
      TopApart (afterLabel site expected state) (afterLabel moved expected state) := by
  unfold afterLabel
  rw [line, index]
  by_cases inline : InlineControl.isInline site.line.code
  · rw [if_pos inline, if_pos inline]
    exact .inl rfl
  · rw [if_neg inline, if_neg inline]
    by_cases opens : ParamBlock.opens site.line.code
    · rw [if_pos opens, if_pos opens]
      exact .inl (core_opened rfl _ _ _ _)
    · rw [if_neg opens, if_neg opens]
      simp only [Indent.followBraces, line]
      generalize Text.excess '{' '}' _ = net
      by_cases opened : 0 < net
      · rw [if_pos opened, if_pos opened]
        right
        have wider : TypeScope.settled site.index site.line.code
              (state.push (Indent.blockIndent moved expected)) =
            { TypeScope.settled site.index site.line.code
                (state.push (Indent.blockIndent site expected)) with
              frames := (Indent.blockIndent moved expected).toNat :: state.frames } :=
          TypeScope.settled_frames _ _ (state.push (Indent.blockIndent site expected)) rfl
        obtain ⟨types, pendingType, same⟩ := exists_typeScope_settled site.index site.line.code
          (state.push (Indent.blockIndent site expected))
        rw [wider, same]
        exact ⟨rfl, rfl⟩
      · rw [if_neg opened, if_neg opened]
        exact .inl rfl

/-- A label that opens a frame for a body one step deeper is followed by the same frames inside it as
one that opens none, where a block would be indented by a step too. -/
theorem core_afterLabel_enter (label : CaseBlock.labelStart.fits site.line.stripped)
    {expected : Int} (block : Indent.blockIndent site expected = expected + indentUnit)
    (endLine : Nat) (state : ScanState) :
    ((afterLabel site expected (CaseBlock.enter (some endLine) expected state)).popMany 1).core =
      (afterLabel site expected state).core := by
  unfold afterLabel
  by_cases inline : InlineControl.isInline site.line.code
  · rw [if_pos inline, if_pos inline]
    rfl
  · rw [if_neg inline, if_neg inline]
    by_cases opens : ParamBlock.opens site.line.code
    · rw [if_pos opens, if_pos opens]
      rfl
    · rw [if_neg opens, if_neg opens, TypeScope.settled_of_labelStart label,
        TypeScope.settled_of_labelStart label]
      simp only [Indent.followBraces, block]
      generalize Text.excess '{' '}' _ = net
      by_cases opened : 0 < net
      · rw [if_pos opened, if_pos opened]
        rfl
      · rw [if_neg opened, if_neg opened]
        by_cases closed : net < 0
        · rw [if_pos closed, if_pos closed]
          obtain ⟨count, same⟩ := Nat.exists_eq_succ_of_ne_zero (show (-net).toNat ≠ 0 by omega)
          simp only [same, CaseBlock.enter, popMany, push, List.drop_succ_cons, List.drop_drop]
          rfl
        · rw [if_neg closed, if_neg closed]
          split <;> rfl

/-- A line that is no statement does not look around. -/
theorem lineNext_eq_of_not_isStatement (line : moved.line = site.line)
    (other : isStatement site.line state = false) : lineNext moved state = lineNext site state := by
  unfold lineNext
  rw [line]
  by_cases blank : site.line.isBlank
  · rw [if_pos blank, if_pos blank]
  · by_cases coded : site.line.hasCode
    · have skipped : site.line.isSkipped = false := by simp [Line.isSkipped, coded]
      simp only [skipped, codeNext, line]
      cases inside : state.paramBlock with
      | some block => rfl
      | none =>
        by_cases directed : site.line.stripped.head? == some '#' || state.inDefinition
        · simp only [directed, if_true]
        · have label : (labelFindings? site.line.code).isSome := by
            simpa [isStatement, blank, coded, inside, directed, Option.isSome_iff_ne_none] using other
          simp only [directed, label, if_true]
    · have skipped : site.line.isSkipped = true := by simp [Line.isSkipped, coded, blank]
      simp only [skipped, if_true]

theorem entered?_of_not_label (other : ¬ isStatement site.line state ∨
    ¬ CaseBlock.isLabel site.line.code) : entered? site state = none := by
  rw [entered?, if_neg]
  rw [Bool.and_eq_true]
  tauto

/-- The next line of code closes a block and nothing else. -/
def Closes (lines : List Line) : Prop :=
  ∃ next ∈ lines.find? Line.hasCode, next.stripped = ['}']

section Edge

open CaseBlock

variable {first rest : List Line} {middle directive : Line} {edge : Nat} (last : LastCode first edge)
  (codeless : middle.hasCode = false) (isDirective : directive.IsDirective)
include last isDirective

/-- A block that opens right before a directive is indented by a step. -/
theorem blockIndent_last_directive (indent : Int) :
    Indent.blockIndent (Site.among first (directive :: rest) edge last.lt_length) indent =
      indent + indentUnit := by
  have further : (directive.stripped == ['}']) = false := by
    rw [beq_eq_false_iff_ne]
    intro same
    have sharp := isDirective.sharp
    rw [same] at sharp
    cases sharp
  rw [Indent.blockIndent, nextCode?_last_directive last isDirective, Option.any_some, further,
    if_neg Bool.false_ne_true]

include codeless in
/-- A statement right before a directive leaves the same core as without it, unless a block that it
opens is closed by the next line of code. -/
theorem core_afterLabel_last {state other : ScanState} (same : state.core = other.core)
    (expected : Int) :
    let site := Site.among first (middle :: rest) edge last.lt_length
    let moved := Site.among first (directive :: rest) edge last.lt_length
    (afterLabel site expected state).core = (afterLabel moved expected other).core ∨
      (Closes rest ∧ TopApart (afterLabel site expected state) (afterLabel moved expected other)) := by
  intro site moved
  have sameMoved := core_afterLabel same (Site.SameOutlook.refl moved).toSameBlocks expected
  by_cases closes : Closes rest
  · rcases afterLabel_topApart (show moved.line = site.line from rfl) rfl expected state with
      whole | apart
    · exact .inl (whole.trans sameMoved)
    · exact .inr ⟨closes, apart.congr sameMoved⟩
  · have blocks : site.SameBlocks moved := by
      refine ⟨rfl, rfl, ?_⟩
      intro indent
      rw [blockIndent_last_directive last isDirective, Indent.blockIndent,
        nextCode?_last last codeless, if_neg]
      intro found
      obtain ⟨next, there, closer⟩ := (Option.any_eq_true _ _).mp found
      exact closes ⟨next, there, by simpa using closer⟩
    exact .inl (core_afterLabel same blocks expected)

/-- What the line right before a directive leaves in two files, the second of which has the directive:
the same frames and bodies of the same labels, or, if the line is a label, one frame and one body
more, which ends with the directive. -/
inductive EdgeLeaves (first rest : List Line) (middle directive : Line) (edge : Nat)
    (state other : ScanState) : Prop
  | same (bodies : BodiesBeside first rest middle directive (edge + 1) state.cases other.cases)
      (core : state.core = other.core ∨ (Closes rest ∧ TopApart state other))
  | label (frame : CaseFrame) (frames : List CaseFrame) (cases : other.cases = frame :: frames)
      (ends : frame.endLine = first.length)
      (bodies : BodiesBeside first rest middle directive edge state.cases frames)
      (labelled : labelAt (first ++ middle :: rest) edge)
      (core : state.core = (other.popMany 1).core ∨
        (Closes rest ∧ TopApart state (other.popMany 1)))

variable {state other : ScanState} (same : state.core = other.core)
  (bodies : BodiesBeside first rest middle directive edge state.cases other.cases)

include codeless same in
/-- A statement right before a directive, from the states behind its label on. -/
theorem core_statement_last
    (statement : isStatement (Site.among first (middle :: rest) edge last.lt_length).line state)
    {labelled : ScanState}
    (behind : (Indent.labelled (Site.among first (middle :: rest) edge last.lt_length)
      { state with blankRun := 0 }).core = labelled.core) :
    let site := Site.among first (middle :: rest) edge last.lt_length
    let moved := Site.among first (directive :: rest) edge last.lt_length
    let after := afterLabel moved (Indent.expectedAt moved.line { other with blankRun := 0 }) labelled
    (lineNext site state).core = after.core ∨ (Closes rest ∧ TopApart (lineNext site state) after) := by
  intro site moved after
  have inked : core { state with blankRun := 0 } = core { other with blankRun := 0 } := same
  rw [lineNext_of_isStatement statement, statementNext_eq, core_expectedAt inked]
  exact core_afterLabel_last last codeless isDirective behind _

include codeless same in
/-- A label right before a directive that finds the directive as the end of its body, where it finds
no body without it. -/
theorem core_label_last
    (statement : isStatement (Site.among first (middle :: rest) edge last.lt_length).line state)
    (label : isLabel (Site.among first (middle :: rest) edge last.lt_length).line.code)
    (none : frameEnd? (Site.among first (middle :: rest) edge last.lt_length) = none)
    (framed : frameEnd? (Site.among first (directive :: rest) edge last.lt_length) =
      some first.length) :
    let site := Site.among first (middle :: rest) edge last.lt_length
    let moved := Site.among first (directive :: rest) edge last.lt_length
    (lineNext site state).core = ((lineNext moved other).popMany 1).core ∨
      (Closes rest ∧ TopApart (lineNext site state) ((lineNext moved other).popMany 1)) := by
  intro site moved
  have statementToo : isStatement moved.line other := core_isStatement same site.line ▸ statement
  have inked : core { state with blankRun := 0 } = core { other with blankRun := 0 } := same
  let outside := { Indent.outside moved.line { other with blankRun := 0 } with nextIndent := .none }
  have behind : (Indent.labelled site { state with blankRun := 0 }).core = outside.core := by
    rw [Indent.labelled, if_pos label, none]
    exact core_expecting_eq (core_outside inked site.line) .none
  have entered : Indent.labelled moved { other with blankRun := 0 } =
      enter (some first.length) (Indent.expectedAt moved.line { other with blankRun := 0 })
        outside := by
    rw [Indent.labelled, if_pos (show isLabel moved.line.code from label), framed]
  have starts : labelStart.fits moved.line.stripped :=
    (Bool.and_eq_true_iff.mp (show isLabel moved.line.code from label)).1
  have without := core_afterLabel_enter starts (blockIndent_last_directive last isDirective
    (Indent.expectedAt moved.line { other with blankRun := 0 })) first.length outside
  rw [← entered, ← statementNext_eq, ← lineNext_of_isStatement statementToo] at without
  rcases core_statement_last last codeless isDirective same statement behind with
    whole | ⟨closes, apart⟩
  · exact .inl (whole.trans without.symm)
  · exact .inr ⟨closes, apart.congr without.symm⟩

include codeless same in
/-- A statement right before a directive whose label finds a body in both files or in neither leaves
the same frames and bodies of the same labels. -/
theorem edgeLeaves_of_labelled
    (statement : isStatement (Site.among first (middle :: rest) edge last.lt_length).line state)
    (behind : (Indent.labelled (Site.among first (middle :: rest) edge last.lt_length)
        { state with blankRun := 0 }).core =
      (Indent.labelled (Site.among first (directive :: rest) edge last.lt_length)
        { other with blankRun := 0 }).core)
    (entered : BodiesBeside first rest middle directive (edge + 1)
      ((entered? (Site.among first (middle :: rest) edge last.lt_length) state).toList ++ state.cases)
      ((entered? (Site.among first (directive :: rest) edge last.lt_length) other).toList ++
        other.cases)) :
    EdgeLeaves first rest middle directive edge
      (lineNext (Site.among first (middle :: rest) edge last.lt_length) state)
      (lineNext (Site.among first (directive :: rest) edge last.lt_length) other) := by
  let moved := Site.among first (directive :: rest) edge last.lt_length
  have statementToo : isStatement moved.line other := core_isStatement same moved.line ▸ statement
  have after : lineNext moved other =
      afterLabel moved (Indent.expectedAt moved.line { other with blankRun := 0 })
        (Indent.labelled moved { other with blankRun := 0 }) := by
    rw [lineNext_of_isStatement statementToo, statementNext_eq]
  have settled := core_statement_last last codeless isDirective same statement behind
  rw [← cases_lineNext, ← cases_lineNext] at entered
  refine .same entered ?_
  rw [after]
  exact settled

include codeless same bodies in
/-- A label right before a directive. -/
theorem edgeLeaves_label
    (statement : isStatement (Site.among first (middle :: rest) edge last.lt_length).line state)
    (starts : isLabel (Site.among first (middle :: rest) edge last.lt_length).line.code)
    (labelled : labelAt (first ++ middle :: rest) edge)
    (passed : PassedOver (labelAt (first ++ middle :: rest)) first rest directive) :
    EdgeLeaves first rest middle directive edge
      (lineNext (Site.among first (middle :: rest) edge last.lt_length) state)
      (lineNext (Site.among first (directive :: rest) edge last.lt_length) other) := by
  let site := Site.among first (middle :: rest) edge last.lt_length
  let moved := Site.among first (directive :: rest) edge last.lt_length
  have statementToo : isStatement moved.line other := core_isStatement same site.line ▸ statement
  have inked : core { state with blankRun := 0 } = core { other with blankRun := 0 } := same
  have label : (isStatement site.line state && isLabel site.line.code) =
      labelAt (first ++ middle :: rest) edge := by
    rw [statement, starts, labelled]
    rfl
  have line : first[edge]? = some site.line := List.getElem?_eq_getElem last.lt_length
  have behind := depthBehind?_of_codeless last.codeless 0
  have balanced := passed.balanced_of_behind last.lt_length labelled (by rw [behind]; rfl)
  have alone := passed.apart edge last.lt_length labelled last.codeless site.line line
  rcases frameEnd?_last last codeless isDirective balanced line alone with
    ⟨none, none'⟩ | ⟨ending, otherEnding, framed, framed', ends⟩ | ⟨none, framed⟩
  · exact edgeLeaves_of_labelled last codeless isDirective same statement
      (core_labelled inked rfl (by rw [none, none'])) (bodies.enter same rfl label (.inl ⟨none, none'⟩))
  · exact edgeLeaves_of_labelled last codeless isDirective same statement
      (core_labelled inked rfl (by rw [framed, framed']; rfl))
      (bodies.enter same rfl label (.inr ⟨ending, otherEnding, framed, framed', ends⟩))
  -- only the directive gives the label a body
  · have entersNone : entered? site state = .none := by
      rw [entered?, none, Option.map_none, ite_self]
    have enters : entered? moved other =
        some ⟨first.length, Indent.expectedAt moved.line other + indentUnit⟩ := by
      rw [entered?, framed, statementToo, Bool.true_and,
        if_pos (show isLabel moved.line.code from starts)]
      rfl
    refine .label ⟨first.length, Indent.expectedAt moved.line other + indentUnit⟩ other.cases
      ?_ rfl ?_ labelled (core_label_last last codeless isDirective same statement starts none framed)
    · rw [cases_lineNext, enters]
      rfl
    · rw [cases_lineNext, entersNone]
      exact bodies

include codeless same bodies in
/-- The line right before a directive. -/
theorem edgeLeaves
    (label : (isStatement (Site.among first (middle :: rest) edge last.lt_length).line state &&
        isLabel (Site.among first (middle :: rest) edge last.lt_length).line.code) =
      labelAt (first ++ middle :: rest) edge)
    (passed : PassedOver (labelAt (first ++ middle :: rest)) first rest directive) :
    EdgeLeaves first rest middle directive edge
      (lineNext (Site.among first (middle :: rest) edge last.lt_length) state)
      (lineNext (Site.among first (directive :: rest) edge last.lt_length) other) := by
  let site := Site.among first (middle :: rest) edge last.lt_length
  let moved := Site.among first (directive :: rest) edge last.lt_length
  have inked : core { state with blankRun := 0 } = core { other with blankRun := 0 } := same
  have entersNothing : ¬ (isStatement site.line state ∧ isLabel site.line.code) →
      entered? site state = none ∧ entered? moved other = none := by
    intro neither
    have sameKind : isStatement moved.line other = isStatement site.line state :=
      (core_isStatement same site.line).symm
    constructor
    · exact entered?_of_not_label (not_and_or.mp neither)
    · refine entered?_of_not_label ?_
      rw [sameKind]
      exact not_and_or.mp neither
  by_cases statement : isStatement site.line state
  · by_cases starts : isLabel site.line.code
    · refine edgeLeaves_label last codeless isDirective same bodies statement starts ?_ passed
      rw [← label, statement, starts]
      rfl
    · apply edgeLeaves_of_labelled last codeless isDirective same statement
      · rw [Indent.labelled, Indent.labelled, if_neg starts,
          if_neg (show ¬ isLabel moved.line.code from starts)]
        exact core_expecting_eq (core_outside inked site.line) none
      · obtain ⟨none, none'⟩ := entersNothing fun both => starts both.2
        rw [none, none']
        exact bodies.mono (Nat.le_succ edge)
  · have otherToo : ¬ isStatement moved.line other := core_isStatement same site.line ▸ statement
    have kept : lineNext moved other = lineNext site other :=
      lineNext_eq_of_not_isStatement rfl (Bool.eq_false_iff.mpr otherToo)
    obtain ⟨none, none'⟩ := entersNothing fun both => statement both.1
    refine .same ?_ (.inl ?_)
    · rw [cases_lineNext, cases_lineNext, none, none']
      exact bodies.mono (Nat.le_succ edge)
    · show (lineNext site state).core = (lineNext moved other).core
      rw [kept]
      exact core_lineNext same (.refl site)

end Edge

end Scan

end HouseStyle
