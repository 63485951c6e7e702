import HouseStyle.Proofs.Scan.Edge

/-!
Contract: the lines behind a directive.

Owns: the states of a file with and without a directive, from the line of the directive to the end of
the file.
Does not own: the lines before the last one of code, and the diagnostics of a run.

With the directive the bodies are left that would have been left before it. The states agree then,
but for one thing: a block that opens before the directive and is closed at once by the next line of
code may have another width. No line is expected inside it, and the closing brace leaves it.

Main statements: `statesBehind_directive` and `agree_of_ne`.
-/

namespace HouseStyle

/-- Two sites of one line from which the same lines are ahead. -/
structure Site.SameAhead (site other : Site) : Prop where
  line : other.line = site.line
  index : other.index = site.index
  after : other.after = site.after

theorem Site.SameAhead.nextCode? {site other : Site} (ahead : site.SameAhead other) :
    other.nextCode? = site.nextCode? := by
  rw [Site.nextCode?, Site.nextCode?, ahead.after]

theorem Site.SameAhead.frameEnd? {site other : Site} (ahead : site.SameAhead other) :
    CaseBlock.frameEnd? other = CaseBlock.frameEnd? site := by
  rw [CaseBlock.frameEnd?_eq, CaseBlock.frameEnd?_eq,
    CaseBlock.opensBody_congr ahead.line ahead.nextCode?, ahead.index, ahead.after]

theorem Site.SameAhead.outlook {site other : Site} (ahead : site.SameAhead other) :
    site.SameOutlook other where
  line := ahead.line
  index := ahead.index
  block := by
    intro indent
    rw [Indent.blockIndent, Indent.blockIndent, ahead.nextCode?]
  framed := by rw [ahead.frameEnd?]

namespace Scan

open CaseBlock ScanState

/-! ## Lines without code -/

variable {lines : List Line} {index later : Nat} {site moved : Site} {state other : ScanState}

/-- Every open body ends with a line of code. -/
def CodedEnds (lines : List Line) (state : ScanState) : Prop :=
  ∀ frame ∈ state.cases, ∃ line, lines[frame.endLine]? = some line ∧ line.hasCode

theorem codedEnds_stateBefore (lines : List Line) :
    ∀ index ≤ lines.length, CodedEnds lines (stateBefore lines index) := by
  refine @stateBefore_induction lines (fun _ state => CodedEnds lines state) ?initial ?advances
  case initial => exact fun frame member => absurd member List.not_mem_nil
  case advances =>
    intro index site state there coded frame member
    rw [ScanState.cases_advance, cases_lineNext] at member
    rcases List.mem_append.mp (List.mem_of_mem_drop member) with entered | before
    · obtain ⟨-, -, framed⟩ := label_of_entered? (Option.mem_toList.mp entered)
      exact (open_of_frameEnd? there framed).exists_line
    · exact coded frame before

theorem lineNext_of_codeless (codeless : site.line.hasCode = false) (state : ScanState) :
    ∃ blankRun, lineNext site state = { state with blankRun } := by
  unfold lineNext
  by_cases blank : site.line.isBlank
  · rw [if_pos blank]
    split
    · exact ⟨state.blankRun, rfl⟩
    · exact ⟨_, rfl⟩
  · have skipped : site.line.isSkipped = true := by simp [Line.isSkipped, codeless, blank]
    rw [if_neg blank]
    simp only [skipped, if_true]
    exact ⟨0, rfl⟩

/-- A line without code changes nothing but the comment state and the count of blank lines. -/
theorem stateBefore_succ_of_codeless (there : Site.at? lines index = some site)
    (codeless : site.line.hasCode = false) :
    ∃ comment blankRun, stateBefore lines (index + 1) =
      { stateBefore lines index with comment, blankRun } := by
  obtain ⟨blankRun, next⟩ := lineNext_of_codeless codeless (stateBefore lines index)
  have noEnd : ∀ frame ∈ (stateBefore lines index).cases, frame.endLine ≠ index := by
    rintro frame member ends
    obtain ⟨line, found, coded⟩ :=
      codedEnds_stateBefore lines index (Site.lt_length_of_at? there).le frame member
    rw [ends, Site.getElem?_of_at? there] at found
    cases found
    rw [codeless] at coded
    cases coded
  refine ⟨site.line.after, blankRun, ?_⟩
  rw [stateBefore_succ there, advance, next, closeFinished, closeFrames_eq,
    Site.index_of_at? there, finished_eq_zero noEnd]
  rfl

theorem stateBefore_of_codeless (within : index ≤ later) (inside : later ≤ lines.length)
    (codeless : ∀ between line, index ≤ between → between < later → lines[between]? = some line →
      line.hasCode = false) :
    ∃ comment blankRun, stateBefore lines later =
      { stateBefore lines index with comment, blankRun } := by
  induction later, within using Nat.le_induction with
  | base => exact ⟨_, _, rfl⟩
  | succ later within inductionHypothesis =>
    obtain ⟨comment, blankRun, same⟩ := inductionHypothesis (Nat.le_of_succ_le inside)
      fun between line first before => codeless between line first (Nat.lt_succ_of_lt before)
    obtain ⟨site, there, found⟩ := Site.exists_at? inside
    obtain ⟨comment', blankRun', next⟩ := stateBefore_succ_of_codeless there
      (codeless later site.line within (Nat.lt_succ_self later) found)
    exact ⟨comment', blankRun', by rw [next, same]⟩

/-! ## The directive -/

/-- A directive outside lists and definitions leaves the frames of the bodies that end with it. -/
theorem advance_directive (isDirective : site.line.IsDirective) (inked : site.line.isBlank = false)
    (outside : Outside state) :
    (advance site state).core = (state.popMany (finished site.index state.cases)).core ∧
      (advance site state).cases = state.cases.drop (finished site.index state.cases) := by
  have next : lineNext site state = { state with blankRun := 0, inDefinition := false } := by
    have skipped : site.line.isSkipped = false := by simp [Line.isSkipped, isDirective.hasCode]
    have single : ((Text.trimRight site.line.raw).getLast? == some '\\') = false := by
      simpa using isDirective.single
    simp [lineNext, codeNext, inked, skipped, outside.1, isDirective.sharp, single]
  rw [core_advance, ScanState.cases_advance, next]
  refine ⟨?_, rfl⟩
  have same : core { state with blankRun := 0, inDefinition := false } = state.core := by
    have kept := outside.2
    cases state
    cases kept
    rfl
  exact core_popMany_eq same _

/-! ## Behind the directive -/

/-- Two states before some lines behind a directive, without it and with it: their frames agree but
for the width of a block that the next line of code closes, and their bodies end together. -/
structure StatesBehind (position : Nat) (lines : List Line) (state other : ScanState) : Prop where
  core : state.core = other.core ∨ (Closes lines ∧ Outside state ∧ TopApart state other)
  cases : List.Forall₂ (EndTogether position) state.cases other.cases

/-- Leaving equally many frames keeps two states as close as they are. -/
theorem core_or_topApart_popMany {closes : Prop} {inner outer : ScanState} {count : Nat}
    (core : state.core = other.core ∨ (closes ∧ TopApart state other))
    (inside : inner.core = (state.popMany count).core)
    (outside : outer.core = (other.popMany count).core) :
    inner.core = outer.core ∨ (closes ∧ TopApart inner outer) := by
  rcases core with whole | ⟨closes, apart⟩
  · exact .inl ((inside.trans (core_popMany_eq whole count)).trans outside.symm)
  · rcases Nat.eq_zero_or_pos count with rfl | some
    · exact .inr ⟨closes, (apart.congr outside.symm).congr_left inside⟩
    · exact .inl ((inside.trans (apart.core_popMany some)).trans outside.symm)

theorem popMany_popMany (state : ScanState) (first second : Nat) :
    (state.popMany first).popMany second = state.popMany (first + second) := by
  rw [popMany, popMany, popMany, List.drop_drop]

section Behind

variable {first rest : List Line} {middle directive : Line} {edge : Nat}

/-- The bodies that end with the last line of code or with the directive leave the same frames behind
the directive as without it. -/
theorem EdgeLeaves.behind {inner outer : ScanState} (last : LastCode first edge)
    (codeless : middle.hasCode = false) (isDirective : directive.IsDirective)
    (passed : PassedOver (labelAt (first ++ middle :: rest)) first rest directive)
    (leaves : EdgeLeaves first rest middle directive edge state other)
    (inside : inner.core = (state.popMany (finished edge state.cases)).core)
    (innerCases : inner.cases = state.cases.drop (finished edge state.cases))
    (outside : outer.core = (other.popMany (finished edge other.cases)).core)
    (outerCases : outer.cases = other.cases.drop (finished edge other.cases)) :
    (inner.core = (outer.popMany (finished first.length outer.cases)).core ∨
        (Closes rest ∧ TopApart inner (outer.popMany (finished first.length outer.cases)))) ∧
      List.Forall₂ (EndTogether first.length) inner.cases
        (outer.cases.drop (finished first.length outer.cases)) := by
  have balanced : ∀ start < first.length, labelAt (first ++ middle :: rest) start →
      (depthBehind? 0 (first.drop (start + 1))).isSome → Text.excess '{' '}' directive.code = 0 :=
    fun start within label behind => passed.balanced_of_behind within label behind
  cases leaves with
  | same bodies core =>
    have split := bodies.finished_split last codeless isDirective balanced (Nat.le_refl _)
    rw [← outerCases] at split
    have merged : (outer.popMany (finished first.length outer.cases)).core =
        (other.popMany (finished edge state.cases)).core := by
      rw [split, ← popMany_popMany]
      exact core_popMany_eq outside _
    refine ⟨core_or_topApart_popMany core inside merged, ?_⟩
    rw [innerCases]
    nth_rewrite 2 [outerCases]
    rw [List.drop_drop, ← split]
    exact List.forall₂_drop _ (bodies.together last codeless isDirective balanced (Nat.le_refl _))
  | label frame frames cases ends bodies labelled core =>
    have before := last.lt_length
    have line : first[edge]? = some first[edge] := List.getElem?_eq_getElem before
    have alone := passed.apart edge last.lt_length labelled last.codeless _ line
    have isLabel := (Bool.and_eq_true_iff.mp
      ((labelAt_eq (Site.at?_among last.lt_length (middle :: rest))).symm.trans labelled)).2
    have together := bodies.finished_behind_label last codeless isDirective balanced line
      (Bool.and_eq_true_iff.mp isLabel).1 alone.closes_one
    have later : frame.endLine ≠ edge := by omega
    rw [cases, finished_cons_of_ne later, List.drop_zero] at outerCases
    rw [cases, finished_cons_of_ne later] at outside
    have merged : (outer.popMany (finished edge state.cases + 1)).core =
        ((other.popMany 1).popMany (finished edge state.cases)).core := by
      rw [popMany_popMany, Nat.add_comm 1]
      exact core_popMany_eq outside _
    rw [outerCases, finished_cons ends, ← together, List.drop_succ_cons, innerCases]
    refine ⟨core_or_topApart_popMany core inside merged, ?_⟩
    exact List.forall₂_drop _ (bodies.together last codeless isDirective balanced (Nat.le_succ edge))

theorem Outside.of_core (outside : Outside state) (same : state.core = other.core) :
    Outside other := by
  have lists := core_paramBlock_eq same
  rw [outside.1, Option.map_none] at lists
  exact ⟨Option.map_eq_none_iff.mp lists.symm, core_inDefinition_eq same ▸ outside.2⟩

theorem Outside.of_topApart (outside : Outside state) (apart : TopApart state other) :
    Outside other := by
  have wider : Outside { state with frames := other.frames } := outside
  exact wider.of_core apart.core

variable (codeless : middle.hasCode = false) (isDirective : directive.IsDirective)
  (passed : PassedOver (labelAt (first ++ middle :: rest)) first rest directive)
include codeless isDirective passed

/-- Before the directive the states of the two files agree, once the bodies are left that end with the
directive. -/
theorem stateBefore_directive :
    let state := stateBefore (first ++ middle :: rest) first.length
    let other := stateBefore (first ++ directive :: rest) first.length
    let left := other.popMany (finished first.length other.cases)
    (state.core = left.core ∨ (Closes rest ∧ TopApart state left)) ∧
      List.Forall₂ (EndTogether first.length) state.cases
        (other.cases.drop (finished first.length other.cases)) := by
  intro state other left
  have gap : ∀ (middle : Line) index, index ≤ first.length →
      (∀ line ∈ first.drop index, line.hasCode = false) →
      ∃ comment blankRun, stateBefore (first ++ middle :: rest) first.length =
        { stateBefore (first ++ middle :: rest) index with comment, blankRun } := by
    intro middle index within codeless
    refine stateBefore_of_codeless within (by simp) ?_
    intro between line before inside there
    rw [List.getElem?_append_left inside] at there
    refine codeless line (List.mem_of_getElem? (show (first.drop index)[between - index]? = _ from ?_))
    rw [List.getElem?_drop, Nat.add_sub_of_le before, there]
  rcases exists_lastCode first with none | ⟨edge, last⟩
  · obtain ⟨comment, blankRun, here⟩ := gap middle 0 (Nat.zero_le _) none
    obtain ⟨comment', blankRun', there⟩ := gap directive 0 (Nat.zero_le _) none
    show (state.core = (popMany other _).core ∨ _) ∧ _
    rw [show state = _ from here, show other = _ from there]
    exact ⟨.inl rfl, .nil⟩
  · obtain ⟨same, bodies⟩ := beside_stateBefore last rest middle directive edge (Nat.le_refl edge)
    have at' := Site.at?_among last.lt_length (middle :: rest)
    have atToo := Site.at?_among last.lt_length (directive :: rest)
    obtain ⟨comment, blankRun, here⟩ := gap middle (edge + 1) last.lt_length last.codeless
    obtain ⟨comment', blankRun', there⟩ := gap directive (edge + 1) last.lt_length last.codeless
    rw [stateBefore_succ at'] at here
    rw [stateBefore_succ atToo] at there
    have leaves := edgeLeaves last codeless isDirective same bodies (labelAt_eq at').symm passed
    refine leaves.behind last codeless isDirective passed ?_ ?_ ?_ ?_
    · rw [show state = _ from here]
      exact core_advance _ _
    · rw [show state = _ from here]
      exact ScanState.cases_advance _ _
    · rw [show other = _ from there]
      exact core_advance _ _
    · rw [show other = _ from there]
      exact ScanState.cases_advance _ _

/-- Behind a directive outside lists and definitions the states of the two files agree. -/
theorem statesBehind_directive (inked : directive.isBlank = false)
    (outside : Outside (stateBefore (first ++ middle :: rest) first.length)) :
    StatesBehind first.length rest (stateBefore (first ++ middle :: rest) (first.length + 1))
      (stateBefore (first ++ directive :: rest) (first.length + 1)) := by
  obtain ⟨comment, blankRun, kept⟩ :=
    stateBefore_succ_of_codeless (Site.at?_middle first middle rest) codeless
  obtain ⟨core, cases⟩ := stateBefore_directive codeless isDirective passed
  have outsideLeft : Outside ((stateBefore (first ++ directive :: rest) first.length).popMany
      (finished first.length (stateBefore (first ++ directive :: rest) first.length).cases)) := by
    rcases core with whole | ⟨-, apart⟩
    · exact outside.of_core whole
    · exact outside.of_topApart apart
  have outsideToo : Outside (stateBefore (first ++ directive :: rest) first.length) := outsideLeft
  let site : Site := ⟨first.length, first.reverse, directive, rest⟩
  obtain ⟨core', cases'⟩ :=
    advance_directive (show site.line.IsDirective from isDirective) inked outsideToo
  rw [kept, stateBefore_succ (Site.at?_middle first directive rest)]
  constructor
  · rcases core with whole | ⟨closes, apart⟩
    · exact .inl (whole.trans core'.symm)
    · exact .inr ⟨closes, outside, (apart.congr core'.symm).congr_left rfl⟩
  · rw [cases']
    exact cases

end Behind

/-! ## One line behind the directive -/

/-- Two states that the line of a site does not tell apart. -/
structure Unseen (site : Site) (state other : ScanState) : Prop where
  next : lineNext site state = lineNext site other
  expected : expected? site.line state = expected? site.line other
  fault : ∀ settings, fault? settings site state = fault? settings site other

variable {position : Nat} {rest : List Line}

theorem Unseen.refl (site : Site) (state : ScanState) : Unseen site state state :=
  ⟨rfl, rfl, fun _ => rfl⟩

/-- A closing brace leaves the innermost frame whatever its width. -/
theorem unseen_of_closer (inked : site.line.isBlank = false) (coded : site.line.hasCode)
    (closer : site.line.stripped = ['}']) (outside : Outside state) {frames : List Nat}
    (tail : state.frames.tail = frames.tail) : Unseen site state { state with frames } := by
  have noLabel : (labelFindings? site.line.code).isNone := by
    by_contra label
    have brace : '}' ∈ site.line.stripped := by rw [closer]; decide
    exact (not_mem_of_labelFindings? (by simpa [Option.isSome_iff_ne_none] using label)).2
      ((Text.isInfix_trim site.line.code).subset brace)
  have statement : isStatement site.line state := by
    simp [isStatement, inked, coded, outside.1, outside.2, noLabel, closer]
  have left : ∀ state : ScanState, Indent.outside site.line state = state.pop := by
    intro state
    rw [Indent.outside, closer]
    rfl
  have same : ∀ state : ScanState, state.frames.tail = frames.tail →
      Indent.outside site.line { state with frames } = Indent.outside site.line state := by
    intro state tail
    rw [left, left, pop, pop, tail]
  have expected : ∀ state : ScanState, state.frames.tail = frames.tail →
      Indent.expectedAt site.line { state with frames } = Indent.expectedAt site.line state := by
    intro state tail
    rw [Indent.expectedAt, Indent.expectedAt, same state tail]
  have labelled : ∀ state : ScanState, state.frames.tail = frames.tail →
      Indent.labelled site { state with frames } = Indent.labelled site state := by
    intro state tail
    simp only [Indent.labelled, same state tail, expected state tail]
  refine ⟨?_, ?_, fun _ => rfl⟩
  · have statementToo : isStatement site.line { state with frames } := statement
    rw [lineNext_of_isStatement statement, lineNext_of_isStatement statementToo, statementNext_eq,
      statementNext_eq]
    exact congrArg₂ (afterLabel site) (expected { state with blankRun := 0 } tail).symm
      (labelled { state with blankRun := 0 } tail).symm
  · rw [expected?, expected?, expected state tail]
    rfl

/-- Behind a directive, a line of code meets a state that it cannot tell from one with the same core
as in the file with the directive. -/
theorem StatesBehind.exists_unseen (behind : StatesBehind position (site.line :: rest) state other)
    (inked : site.line.isBlank = false) (coded : site.line.hasCode) :
    ∃ twin, Unseen site state twin ∧ twin.core = other.core ∧ twin.cases = state.cases := by
  rcases behind.core with same | ⟨⟨next, found, closer⟩, outside, apart⟩
  · exact ⟨state, .refl site state, same, rfl⟩
  · rw [List.find?_cons_of_pos coded] at found
    cases found
    exact ⟨{ state with frames := other.frames },
      unseen_of_closer inked coded closer outside apart.tail, apart.core, rfl⟩

theorem expected?_of_codeless {line : Line} (codeless : line.hasCode = false) (state : ScanState) :
    expected? line state = none := by
  simp [expected?, isStatement, codeless]

/-- A line without code fails for the limit only. -/
theorem fault?_of_codeless (codeless : site.line.hasCode = false) (settings : Settings)
    (state : ScanState) : fault? settings site state = lengthFault? settings site.line := by
  simp [fault?, contentFault?, chainFault?, isStatement, codeless]

/-- Behind a directive a line is expected where it is without the directive, and raises the same
faults. -/
theorem StatesBehind.agree (behind : StatesBehind position (site.line :: rest) state other)
    (ahead : site.SameAhead moved) (inked : site.line.hasCode → site.line.isBlank = false) :
    expected? site.line state = expected? moved.line other ∧
      ∀ settings, fault? settings site state = fault? settings moved other := by
  rw [ahead.line]
  by_cases coded : site.line.hasCode
  · obtain ⟨twin, unseen, same, -⟩ := behind.exists_unseen (inked coded) coded
    constructor
    · rw [unseen.expected, core_expected? same]
    · intro settings
      rw [unseen.fault, core_fault? same ahead.line.symm]
  · have codeless : site.line.hasCode = false := by simpa using coded
    have codelessToo : moved.line.hasCode = false := ahead.line ▸ codeless
    constructor
    · rw [expected?_of_codeless codeless, expected?_of_codeless codeless]
    · intro settings
      rw [fault?_of_codeless codeless, fault?_of_codeless codelessToo, ahead.line]

/-- Behind a directive a line leaves what it leaves without the directive. -/
theorem StatesBehind.advance (behind : StatesBehind position (site.line :: rest) state other)
    (later : position < site.index) (ahead : site.SameAhead moved)
    (inked : site.line.hasCode → site.line.isBlank = false) :
    StatesBehind position rest (advance site state) (advance moved other) := by
  by_cases coded : site.line.hasCode
  · obtain ⟨twin, unseen, same, cases⟩ := behind.exists_unseen (inked coded) coded
    have entered : entered? site twin = entered? moved other := by
      unfold entered?
      rw [ahead.line, ahead.frameEnd?, core_isStatement same, core_expectedAt same]
    have inside : List.Forall₂ (EndTogether position) (lineNext site twin).cases
        (lineNext moved other).cases := by
      rw [cases_lineNext, cases_lineNext, entered, cases]
      exact List.rel_append (List.forall₂_same.mpr fun _ _ => .inl rfl) behind.cases
    have together := finished_eq_of_endTogether inside later
    have advanced : Scan.advance site state = Scan.advance site twin := by
      rw [Scan.advance, Scan.advance, unseen.next]
    rw [advanced]
    constructor
    · refine .inl (core_advance_eq (core_lineNext same ahead.outlook) ?_)
      rw [together, ahead.index]
    · rw [ScanState.cases_advance, ScanState.cases_advance, together, ahead.index]
      exact List.forall₂_drop _ inside
  · have codeless : site.line.hasCode = false := by simpa using coded
    have codelessToo : moved.line.hasCode = false := ahead.line ▸ codeless
    obtain ⟨blankRun, next⟩ := lineNext_of_codeless codeless state
    obtain ⟨blankRun', next'⟩ := lineNext_of_codeless codelessToo other
    have together := finished_eq_of_endTogether behind.cases later
    have here : (Scan.advance site state).core =
        (state.popMany (finished site.index state.cases)).core := by
      rw [core_advance, next]
      rfl
    have there : (Scan.advance moved other).core =
        (other.popMany (finished site.index state.cases)).core := by
      rw [core_advance, next', together, ahead.index]
      rfl
    have core := behind.core
    rw [← and_assoc] at core
    constructor
    · rcases core_or_topApart_popMany core here there with whole | ⟨⟨closes, outside⟩, apart⟩
      · exact .inl whole
      · obtain ⟨next, found, closer⟩ := closes
        rw [List.find?_cons_of_neg coded] at found
        have left : Outside (state.popMany (finished site.index state.cases)) := outside
        exact .inr ⟨⟨next, found, closer⟩, left.of_core here.symm, apart⟩
    · rw [ScanState.cases_advance, ScanState.cases_advance, next, next', ahead.index, ← together]
      exact List.forall₂_drop _ behind.cases

/-! ## All lines but the directive -/

/-- The indentation at which the line of an index is expected, if it is a statement. -/
def expectedAt? (lines : List Line) (index : Nat) : Option Int :=
  (Site.at? lines index).bind fun site => expected? site.line (stateBefore lines index)

theorem expectedAt?_of_codeless (there : Site.at? lines index = some site)
    (codeless : site.line.hasCode = false) : expectedAt? lines index = none := by
  rw [expectedAt?, there, Option.bind_some, expected?_of_codeless codeless]

theorem faultAt?_of_codeless (there : Site.at? lines index = some site)
    (codeless : site.line.hasCode = false) (settings : Settings) :
    faultAt? settings lines index = lengthFault? settings site.line := by
  rw [faultAt?, there, Option.bind_some, fault?_of_codeless codeless]

theorem faultAt?_of_blank (there : Site.at? lines index = some site)
    (codeless : site.line.hasCode = false) (blank : site.line.isBlank) (settings : Settings) :
    faultAt? settings lines index = none := by
  rw [faultAt?_of_codeless there codeless, lengthFault?_eq_none_iff]
  exact .inl blank

section All

variable {first rest : List Line} {middle directive : Line} (codeless : middle.hasCode = false)
  (isDirective : directive.IsDirective)
  (inked : ∀ line ∈ directive :: rest, line.hasCode → line.isBlank = false)
  (outside : Outside (stateBefore (first ++ middle :: rest) first.length))
  (passed : PassedOver (labelAt (first ++ middle :: rest)) first rest directive)

include codeless isDirective inked outside passed in
theorem statesBehind_stateBefore (offset : Nat) (inside : offset ≤ rest.length) :
    StatesBehind first.length (rest.drop offset)
      (stateBefore (first ++ middle :: rest) (first.length + 1 + offset))
      (stateBefore (first ++ directive :: rest) (first.length + 1 + offset)) := by
  obtain ⟨inkedHere, inkedLater⟩ := List.forall_mem_cons.mp inked
  induction offset with
  | zero =>
    exact statesBehind_directive codeless isDirective passed (inkedHere isDirective.hasCode) outside
  | succ offset inductionHypothesis =>
    have behind := inductionHypothesis (Nat.le_of_succ_le inside)
    have there := Site.at?_behind first middle rest offset
    have thereToo := Site.at?_behind first directive rest offset
    rw [List.getElem?_eq_getElem inside, Option.map_some] at there thereToo
    rw [← Nat.add_assoc, stateBefore_succ there, stateBefore_succ thereToo]
    rw [List.drop_eq_getElem_cons inside] at behind
    exact behind.advance (by dsimp only; omega) ⟨rfl, rfl, rfl⟩
      (inkedLater _ (List.getElem_mem inside))

/-- Before the directive every line is expected at the same indentation, and raises the same fault,
whatever the two lines are. -/
theorem agree_of_lt {index : Nat} (before : index < first.length) (middle other : Line)
    (rest : List Line) :
    expectedAt? (first ++ middle :: rest) index = expectedAt? (first ++ other :: rest) index ∧
      ∀ settings, faultAt? settings (first ++ middle :: rest) index =
        faultAt? settings (first ++ other :: rest) index := by
  have there := Site.at?_among before (middle :: rest)
  have thereToo := Site.at?_among before (other :: rest)
  have skipped : first[index].hasCode = false →
      expectedAt? (first ++ middle :: rest) index = expectedAt? (first ++ other :: rest) index ∧
        ∀ settings, faultAt? settings (first ++ middle :: rest) index =
          faultAt? settings (first ++ other :: rest) index := by
    intro codeless
    constructor
    · rw [expectedAt?_of_codeless there codeless, expectedAt?_of_codeless thereToo codeless]
    · intro settings
      rw [faultAt?_of_codeless there codeless, faultAt?_of_codeless thereToo codeless]
      rfl
  rcases exists_lastCode first with none | ⟨edge, last⟩
  · exact skipped (none _ (List.getElem_mem before))
  · rcases Nat.lt_or_ge edge index with later | within
    · refine skipped (last.codeless _ ?_)
      have found : (first.drop (edge + 1))[index - (edge + 1)]? = some first[index] := by
        rw [List.getElem?_drop, Nat.add_sub_of_le later, List.getElem?_eq_getElem before]
      exact List.mem_of_getElem? found
    · obtain ⟨same, -⟩ := beside_stateBefore last rest middle other index within
      constructor
      · rw [expectedAt?, expectedAt?, there, thereToo, Option.bind_some, Option.bind_some]
        exact core_expected? same _
      · intro settings
        rw [faultAt?, faultAt?, there, thereToo, Option.bind_some, Option.bind_some]
        exact core_fault? same rfl settings

include codeless isDirective inked outside passed in
/-- All lines but the directive are expected at the same indentation as without it, and raise the
same faults. -/
theorem agree_of_ne {index : Nat} (further : index ≠ first.length) :
    expectedAt? (first ++ middle :: rest) index = expectedAt? (first ++ directive :: rest) index ∧
      ∀ settings, faultAt? settings (first ++ middle :: rest) index =
        faultAt? settings (first ++ directive :: rest) index := by
  rcases Nat.lt_or_gt_of_ne further with before | later
  · exact agree_of_lt before middle directive rest
  · obtain ⟨offset, rfl⟩ := Nat.exists_eq_add_of_le (Nat.succ_le_of_lt later)
    have there := Site.at?_behind first middle rest offset
    have thereToo := Site.at?_behind first directive rest offset
    rw [expectedAt?, expectedAt?]
    simp only [faultAt?, there, thereToo]
    cases found : rest[offset]? with
    | none => exact ⟨rfl, fun _ => rfl⟩
    | some line =>
      obtain ⟨inside, here⟩ := List.getElem?_eq_some_iff.mp found
      have behind := statesBehind_stateBefore codeless isDirective inked outside passed offset inside.le
      rw [List.drop_eq_getElem_cons inside, here] at behind
      exact behind.agree ⟨rfl, rfl, rfl⟩
        (inked line (List.mem_cons_of_mem _ (here ▸ List.getElem_mem inside)))

end All

end Scan

end HouseStyle
