import HouseStyle.Proofs.Lines
import HouseStyle.Proofs.Scan.Course
import HouseStyle.Proofs.Scan.Invariant
import Mathlib.Data.List.Infix

/-!
Contract: the number of frames counts open braces and open bodies of cases.

Owns: the frames of a state that no body of a case accounts for, and what every line does to their
number.
Does not own: the widths that the frames store, which `Proofs.Scan.Invariant` treats.

Three machines enter and leave frames: braces, labels that look ahead for the end of their body, and
the end of such a body. A body enters its frame together with its entry in the list of cases and
leaves both together, so that the surplus of frames over bodies changes with braces only. Where no
brace is closed before it is opened the surplus is never negative, and so there is a frame for
everything that leaves one.

Main statement: `depth_run`.
-/

namespace HouseStyle

/-! ## Lines whose braces can be followed -/

/-- The code of a line behind the closing brace that it starts with, if it starts with one. -/
def Line.body (line : Line) : List Char :=
  if line.stripped.head? == some '}' then line.stripped.tail else line.stripped

/-- The number of bodies that end with the line of an index, counted from the innermost on. -/
def CaseBlock.finished (index : Nat) (cases : List CaseFrame) : Nat :=
  (cases.takeWhile fun frame => frame.endLine == index).length

namespace Scan

/-- Lines whose braces the frames can follow: no brace is closed before it is opened, a line opens
at most one brace more than it closes behind the closing brace at its start, a one-line statement
closes what it opens, and no list of parameters goes on over lines. -/
structure Traceable (lines : List Line) : Prop where
  opened_first : ∀ text, text <+: lines.flatMap Line.code → 0 ≤ Text.excess '{' '}' text
  opens_one : ∀ line ∈ lines, line.hasCode → Text.excess '{' '}' line.body ≤ 1
  inline_closed : ∀ line ∈ lines, InlineControl.isInline line.code →
    line.code.count '{' = line.code.count '}'
  no_list : ∀ line ∈ lines, line.hasCode → ParamBlock.opens line.code = false

instance (lines : List Line) : Decidable (Traceable lines) :=
  decidable_of_iff
    ((∀ text ∈ (lines.flatMap Line.code).inits, 0 ≤ Text.excess '{' '}' text) ∧
      (∀ line ∈ lines, line.hasCode → Text.excess '{' '}' line.body ≤ 1) ∧
      (∀ line ∈ lines, InlineControl.isInline line.code →
        line.code.count '{' = line.code.count '}') ∧
      ∀ line ∈ lines, line.hasCode → ParamBlock.opens line.code = false)
    ⟨fun ⟨opened, one, inline, list⟩ =>
        ⟨fun text early => opened text ((List.mem_inits _ _).mpr early), one, inline, list⟩,
      fun traceable =>
        ⟨fun text early => traceable.opened_first text ((List.mem_inits _ _).mp early),
          traceable.opens_one, traceable.inline_closed, traceable.no_list⟩⟩

/-- Every frame that a line leaves was entered before, and is not the file itself: the frame of the
closing brace that a statement starts with, those of the further braces that it closes, and those of
the bodies that end with the line. -/
structure LeavesEntered (site : Site) (state : ScanState) : Prop where
  closer : isStatement site.line state → site.line.stripped.head? = some '}' → 1 ≤ state.depth
  further : isStatement site.line state → InlineControl.isInline site.line.code = false →
    -Text.excess '{' '}' site.line.body ≤ (Indent.labelled site state).depth
  finished : CaseBlock.finished site.index (lineNext site state).cases ≤ (lineNext site state).depth

end Scan

/-! ## Lines without braces -/

/-- A line that is a label for jumps has no braces. -/
theorem Scan.not_mem_of_labelFindings? {code : List Char} (label : (labelFindings? code).isSome) :
    '{' ∉ code ∧ '}' ∉ code := by
  have fits : Spacing.gotoLabel.fits code := by
    unfold labelFindings? at label
    unfold Pattern.fits
    cases found : Spacing.gotoLabel.matchStart? code with
    | none => simp [found] at label
    | some _ => rfl
  obtain ⟨stop, reached⟩ := Pattern.fits_iff.mp fits
  simp only [Spacing.gotoLabel, Lexicon.ident, Pattern.blanks, Pattern.manySpaces, Pattern.atStart,
    Pattern.atEnd, Pattern.mem_outcomes_append, Pattern.mem_outcomes_capture,
    Pattern.mem_outcomes_many, Pattern.mem_outcomes_char, Pattern.mem_outcomes_look,
    Pattern.mem_outcomes_one] at reached
  obtain ⟨_, ⟨_, ⟨_, ⟨_, ⟨_, ⟨_, ⟨-, rfl⟩, before, behindBlanks, split, blank, rfl⟩,
    _, ⟨_, ⟨first, behindFirst, named, starts, rfl⟩, letters, behindName, spelled, word, rfl⟩, rfl⟩,
    _, ⟨spaces, behindSpaces, spaced, space, rfl⟩, rfl⟩, behindColon, colon, rfl⟩,
    after, ending, tail, blankAfter, rfl⟩, ended, rfl⟩ := reached
  simp only [Cursor.atStart, Cursor.after, Cursor.advance, Cursor.record] at *
  subst split named spelled spaced colon tail
  have avoided : ∀ brace, brace = '{' ∨ brace = '}' →
      brace ∉ before ++ first :: (letters ++ (spaces ++ ':' :: (after ++ ending))) := by
    intro brace either member
    have ending' : ending = [] ∨ ending = ['\n'] := by simpa using ended
    simp only [List.mem_append, List.mem_cons] at member
    rcases either with rfl | rfl <;>
      rcases member with inside | rfl | inside | inside | inside | inside | inside
    all_goals first
      | exact absurd (blank _ inside) (by decide)
      | exact absurd starts (by decide)
      | exact absurd (word _ inside) (by decide)
      | exact absurd (space _ inside) (by decide)
      | exact absurd (blankAfter _ inside) (by decide)
      | exact absurd inside (by decide)
      | rcases ending' with rfl | rfl <;> simp at inside
  exact ⟨avoided _ (.inl rfl), avoided _ (.inr rfl)⟩

/-- A line without code has no braces. -/
theorem Line.not_mem_code_of_hasCode {line : Line} (codeless : line.hasCode = false) :
    '{' ∉ line.code ∧ '}' ∉ line.code := by
  rw [hasCode, List.any_eq_false] at codeless
  constructor
  · intro member
    exact codeless _ member (by decide)
  · intro member
    exact codeless _ member (by decide)

/-- A one-line statement does not start with a closing brace. -/
theorem InlineControl.head?_trim_of_isInline {code : List Char} (inline : isInline code) :
    (Text.trim code).head? ≠ some '}' := by
  intro closes
  have starts := Text.head?_trimLeft_of_trim closes
  unfold isInline at inline
  split at inline
  next => cases inline
  next parts split =>
    unfold split? at split
    obtain ⟨found, fits, -⟩ := Option.bind_eq_some_iff.mp split
    obtain ⟨stop, reached, -⟩ := Pattern.exists_of_matchAt? fits
    simp only [controlKeyword, Pattern.atStart, Pattern.gap, Pattern.mem_outcomes_append,
      Pattern.mem_outcomes_capture, Pattern.mem_outcomes_orElse, Pattern.mem_outcomes_word,
      Pattern.mem_outcomes_oneOf, Pattern.mem_outcomes_look] at reached
    obtain ⟨_, ⟨_, ⟨-, rfl⟩, _, ⟨_, ⟨_, ⟨rest, written, -⟩, -⟩, -⟩ | ⟨word, among, rest, written, -⟩,
      -⟩, -⟩ := reached
    · have written : Text.trimLeft code = "else".toList ++ rest := written
      rw [written] at starts
      exact absurd starts (by simp)
    · have written : Text.trimLeft code = word.toList ++ rest := written
      rw [written] at starts
      simp only [List.mem_cons, List.not_mem_nil, or_false] at among
      rcases among with rfl | rfl | rfl | rfl | rfl | rfl <;> exact absurd starts (by simp)

/-- Trimming drops no braces. -/
theorem Line.excess_stripped (line : Line) :
    Text.excess '{' '}' line.stripped = Text.excess '{' '}' line.code :=
  Text.excess_trim line.code rfl rfl

/-- The braces of a line are those behind the closing brace that it starts with, and this one. -/
theorem Line.excess_code (line : Line) :
    Text.excess '{' '}' line.code =
      Text.excess '{' '}' line.body - if line.stripped.head? = some '}' then 1 else 0 := by
  rw [← excess_stripped]
  unfold body
  by_cases closes : line.stripped.head? = some '}'
  · obtain ⟨rest, split⟩ := List.head?_eq_some_iff.mp closes
    rw [if_pos (beq_iff_eq.mpr closes), if_pos closes, split, List.tail_cons]
    simp [Text.excess]
    omega
  · rw [if_neg (by simpa using closes), if_neg closes]
    omega

/-! ## Frames and bodies -/

namespace ScanState

/-- The frames that no body of a case accounts for. -/
def surplus (state : ScanState) : Int :=
  state.depth - state.cases.length

variable {state : ScanState}

theorem surplus_push (indent : Int) : (state.push indent).surplus = state.surplus + 1 := by
  simp only [surplus, depth, push, List.length_cons]
  omega

theorem surplus_popMany {count : Nat} (within : count ≤ state.depth) :
    (state.popMany count).surplus = state.surplus - count := by
  simp only [surplus, depth, popMany, List.length_drop] at within ⊢
  omega

theorem surplus_pop (within : 1 ≤ state.depth) : state.pop.surplus = state.surplus - 1 := by
  have left := surplus_popMany within
  rwa [popMany, List.drop_one] at left

theorem surplus_le_depth (state : ScanState) : state.surplus ≤ state.depth := by
  unfold surplus
  omega

/-- A label enters a frame and the body that accounts for it. -/
theorem surplus_enter (endLine? : Option Nat) (baseIndent : Int) :
    (CaseBlock.enter endLine? baseIndent state).surplus = state.surplus := by
  cases endLine? with
  | none => rfl
  | some endLine =>
    simp only [CaseBlock.enter, surplus, depth, push, List.length_cons]
    omega

end ScanState

namespace CaseBlock

theorem finished_cons {index : Nat} {frame : CaseFrame} (ends : frame.endLine = index)
    (cases : List CaseFrame) : finished index (frame :: cases) = finished index cases + 1 := by
  simp [finished, ends]

theorem finished_cons_of_ne {index : Nat} {frame : CaseFrame} (further : frame.endLine ≠ index)
    (cases : List CaseFrame) : finished index (frame :: cases) = 0 := by
  simp [finished, further]

theorem finished_eq_zero {index : Nat} {cases : List CaseFrame}
    (noEnd : ∀ frame ∈ cases, frame.endLine ≠ index) : finished index cases = 0 := by
  rw [finished, List.length_eq_zero_iff, List.takeWhile_eq_nil_iff]
  intro inside ends
  exact noEnd _ (List.getElem_mem inside) (by simpa using ends)

theorem closeFrames_eq (index : Nat) (frames : List Nat) (cases : List CaseFrame) :
    closeFrames index frames cases =
      (frames.drop (finished index cases), cases.drop (finished index cases)) := by
  induction cases generalizing frames with
  | nil => rfl
  | cons frame cases inductionHypothesis =>
    rw [closeFrames]
    by_cases ends : frame.endLine = index
    · rw [if_pos ends, inductionHypothesis, finished_cons ends, List.drop_succ_cons, List.drop_tail]
    · rw [if_neg ends, finished_cons_of_ne ends, List.drop_zero, List.drop_zero]

theorem finished_le (index : Nat) (cases : List CaseFrame) : finished index cases ≤ cases.length :=
  (List.takeWhile_prefix _).length_le

/-- The end of bodies leaves as many frames as bodies. -/
theorem surplus_closeFinished {state : ScanState} (index : Nat) (enough : 0 ≤ state.surplus) :
    finished index state.cases ≤ state.depth ∧
      (closeFinished index state).surplus = state.surplus := by
  have few := finished_le index state.cases
  simp only [closeFinished, closeFrames_eq, ScanState.surplus, ScanState.depth,
    List.length_drop] at enough ⊢
  omega

end CaseBlock

namespace Scan

/-! ## A single line -/

/-- What the conditions on all lines say about one of them, before which the given number of braces
is open. -/
structure LineTraceable (line : Line) (openBefore : Int) : Prop where
  opened : line.stripped.head? = some '}' → 1 ≤ openBefore
  enough : 0 ≤ openBefore + Text.excess '{' '}' line.code
  opens_one : line.hasCode → Text.excess '{' '}' line.body ≤ 1
  inline_closed : InlineControl.isInline line.code → Text.excess '{' '}' line.code = 0
  no_list : line.hasCode → ParamBlock.opens line.code = false
  undirected : line.hasCode → line.stripped.head? ≠ some '#'

variable {site : Site} {state : ScanState}

theorem surplus_outside (closer : site.line.stripped.head? = some '}' → 1 ≤ state.depth) :
    (Indent.outside site.line state).surplus =
      state.surplus - if site.line.stripped.head? = some '}' then 1 else 0 := by
  unfold Indent.outside
  by_cases closes : site.line.stripped.head? = some '}'
  · rw [if_pos (beq_iff_eq.mpr closes), if_pos closes, ScanState.surplus_pop (closer closes)]
  · rw [if_neg (by simpa using closes), if_neg closes]
    omega

theorem surplus_labelled (closer : site.line.stripped.head? = some '}' → 1 ≤ state.depth) :
    (Indent.labelled site state).surplus =
      state.surplus - if site.line.stripped.head? = some '}' then 1 else 0 := by
  rw [← surplus_outside closer]
  unfold Indent.labelled
  split
  · exact ScanState.surplus_enter _ _
  · rfl

/-- The braces behind the one at the start of a line. -/
theorem surplus_followBraces {expected : Int} {inner : ScanState}
    (opens_one : Text.excess '{' '}' site.line.body ≤ 1)
    (further : -Text.excess '{' '}' site.line.body ≤ inner.depth) :
    (Indent.followBraces site expected (site.line.stripped.head? == some '}') inner).surplus =
      inner.surplus + Text.excess '{' '}' site.line.body := by
  have body : (if site.line.stripped.head? == some '}' then site.line.stripped.tail
      else site.line.stripped) = site.line.body := rfl
  simp only [Indent.followBraces, body]
  by_cases opens : 0 < Text.excess '{' '}' site.line.body
  · rw [if_pos opens, ScanState.surplus_push]
    omega
  · rw [if_neg opens]
    by_cases closes : Text.excess '{' '}' site.line.body < 0
    · rw [if_pos closes, ScanState.surplus_popMany (by omega)]
      omega
    · have even : Text.excess '{' '}' site.line.body = 0 := by omega
      rw [if_neg closes, even, Int.add_zero]
      split <;> rfl

theorem further_of_lineTraceable (traceable : LineTraceable site.line state.surplus) :
    -Text.excess '{' '}' site.line.body ≤ (Indent.labelled site state).depth := by
  have closer : site.line.stripped.head? = some '}' → 1 ≤ state.depth := by
    intro closes
    have below := traceable.opened closes
    have above := state.surplus_le_depth
    omega
  have enough := traceable.enough
  have labelled := surplus_labelled closer
  have above := (Indent.labelled site state).surplus_le_depth
  rw [Line.excess_code] at enough
  omega

/-- A statement changes the surplus by its braces. -/
theorem surplus_statementNext (coded : site.line.hasCode)
    (traceable : LineTraceable site.line state.surplus) :
    (statementNext site state).surplus = state.surplus + Text.excess '{' '}' site.line.code := by
  have closer : site.line.stripped.head? = some '}' → 1 ≤ state.depth := by
    intro closes
    have below := traceable.opened closes
    have above := state.surplus_le_depth
    omega
  have settled : (Indent.settled site state).surplus =
      state.surplus + Text.excess '{' '}' site.line.code := by
    unfold Indent.settled
    simp only [traceable.no_list coded]
    by_cases inline : InlineControl.isInline site.line.code
    · have unclosed := InlineControl.head?_trim_of_isInline inline
      rw [if_pos inline, surplus_labelled closer, if_neg (show ¬ site.line.stripped.head? = _ from
        unclosed), traceable.inline_closed inline]
      omega
    · rw [if_neg inline, if_neg Bool.false_ne_true, surplus_followBraces (traceable.opens_one coded)
        (further_of_lineTraceable traceable), surplus_labelled closer, Line.excess_code]
      omega
  unfold statementNext
  split
  · exact settled
  · obtain ⟨types, pendingType, same⟩ := ScanState.exists_typeScope_settled site.index
      site.line.code (Indent.settled site state)
    rw [same]
    exact settled

/-- Outside lists of parameters and directives, a line that is no statement has no braces and only
counts blank lines. -/
theorem lineNext_of_not_isStatement {before : CommentState} {raw : List Char}
    (written : site.line = .ofRaw before raw) (noBlock : state.paramBlock = none)
    (undirected : site.line.hasCode → site.line.stripped.head? ≠ some '#')
    (inside : state.inDefinition = false) (other : isStatement site.line state = false) :
    ('{' ∉ site.line.code ∧ '}' ∉ site.line.code) ∧
      ∃ blanks, lineNext site state = { state with blankRun := blanks } := by
  unfold lineNext
  by_cases blank : site.line.isBlank
  · have codeless : site.line.hasCode = false := by
      rw [written] at blank ⊢
      exact Line.hasCode_ofRaw_of_isBlank blank
    refine ⟨Line.not_mem_code_of_hasCode codeless, ?_⟩
    rw [if_pos blank]
    split
    · exact ⟨state.blankRun, rfl⟩
    · exact ⟨_, rfl⟩
  · rw [if_neg blank]
    by_cases coded : site.line.hasCode
    · have skipped : site.line.isSkipped = false := by simp [Line.isSkipped, coded]
      have label : (labelFindings? site.line.code).isSome := by
        simpa [isStatement, blank, coded, noBlock, inside, undirected coded,
          Option.isSome_iff_ne_none] using other
      refine ⟨not_mem_of_labelFindings? label, 0, ?_⟩
      simp only [skipped, codeNext, noBlock, inside, label]
      simp [undirected coded]
    · have skipped : site.line.isSkipped = true := by simp [Line.isSkipped, coded, blank]
      refine ⟨Line.not_mem_code_of_hasCode (by simpa using coded), 0, ?_⟩
      simp only [skipped, if_true]

/-- A line that is no statement leaves types and the bodies of cases alone. -/
theorem exists_lineNext_of_not_isStatement (other : isStatement site.line state = false) :
    ∃ frames nextIndent paramBlock blankRun inDefinition, lineNext site state =
      { state with frames, nextIndent, paramBlock, blankRun, inDefinition } := by
  unfold lineNext
  by_cases blank : site.line.isBlank
  · rw [if_pos blank]
    split <;> exact ⟨_, _, _, _, _, rfl⟩
  · rw [if_neg blank]
    by_cases coded : site.line.hasCode
    · have skipped : site.line.isSkipped = false := by simp [Line.isSkipped, coded]
      simp only [skipped, codeNext]
      cases inside : state.paramBlock with
      | some block =>
        simp only [ParamBlock.continued]
        repeat' split
        all_goals exact ⟨_, _, _, _, _, rfl⟩
      | none =>
        by_cases directed : site.line.stripped.head? == some '#' || state.inDefinition
        · simp only [directed, if_true]
          exact ⟨_, _, _, _, _, rfl⟩
        · have label : (labelFindings? site.line.code).isSome := by
            simpa [isStatement, blank, coded, inside, directed, Option.isSome_iff_ne_none] using other
          simp only [directed, label, if_true]
          exact ⟨_, _, _, _, _, rfl⟩
    · have skipped : site.line.isSkipped = true := by simp [Line.isSkipped, coded, blank]
      simp only [skipped, if_true]
      exact ⟨_, _, _, _, _, rfl⟩

theorem hasCode_of_isStatement {line : Line} (statement : isStatement line state) : line.hasCode := by
  simp only [isStatement, Bool.and_eq_true] at statement
  exact statement.1.1.1.2

theorem lineNext_of_isStatement (statement : isStatement site.line state) :
    lineNext site state = statementNext site { state with blankRun := 0 } := by
  simp only [isStatement, Bool.and_eq_true, Bool.not_eq_true', Option.isNone_iff_eq_none] at statement
  obtain ⟨⟨⟨⟨inked, coded⟩, noBlock⟩, undirected⟩, noLabel⟩ := statement
  have skipped : site.line.isSkipped = false := by simp [Line.isSkipped, coded]
  simp [lineNext, codeNext, inked, skipped, noBlock, undirected, noLabel]

/-! ## Every line -/

/-- Outside lists of parameters and definitions over several lines. -/
def Outside (state : ScanState) : Prop :=
  state.paramBlock = none ∧ state.inDefinition = false

theorem Outside.labelled (outside : Outside state) (site : Site) :
    Outside (Indent.labelled site state) := by
  unfold Indent.labelled Indent.outside CaseBlock.enter
  repeat' split
  all_goals exact outside

theorem Outside.followBraces (outside : Outside state) (site : Site) (expected : Int)
    (startsWithClose : Bool) : Outside (Indent.followBraces site expected startsWithClose state) := by
  simp only [Indent.followBraces]
  generalize Text.excess '{' '}' _ = net
  repeat' split
  all_goals exact outside

theorem Outside.statementNext (outside : Outside state) (noList : ParamBlock.opens site.line.code = false) :
    Outside (statementNext site state) := by
  have settled : Outside (Indent.settled site state) := by
    unfold Indent.settled
    simp only [noList]
    split
    · exact outside.labelled site
    · exact (outside.labelled site).followBraces site _ _
  unfold Scan.statementNext
  split
  · exact settled
  · obtain ⟨types, pendingType, same⟩ := ScanState.exists_typeScope_settled site.index
      site.line.code (Indent.settled site state)
    rw [same]
    exact settled

/-- What holds before the line of an index: braces account for the surplus of frames. -/
structure Accounted (lines : List Line) (index : Nat) (state : ScanState) : Prop where
  outside : Outside state
  surplus : state.surplus = Text.excess '{' '}' ((lines.take index).flatMap Line.code)

theorem code_take_isPrefix_code (lines : List Line) (index : Nat) :
    (lines.take index).flatMap Line.code <+: lines.flatMap Line.code := by
  refine ⟨(lines.drop index).flatMap Line.code, ?_⟩
  rw [← List.flatMap_append, List.take_append_drop]

theorem code_take_succ {lines : List Line} {index : Nat} (there : Site.at? lines index = some site) :
    (lines.take (index + 1)).flatMap Line.code =
      (lines.take index).flatMap Line.code ++ site.line.code := by
  rw [Site.take_succ_of_at? there, List.flatMap_append, List.flatMap_singleton]

theorem Traceable.line {lines : List Line} (traceable : Traceable lines)
    (undirected : ∀ line ∈ lines, line.hasCode → line.stripped.head? ≠ some '#') {index : Nat}
    (there : Site.at? lines index = some site) :
    LineTraceable site.line (Text.excess '{' '}' ((lines.take index).flatMap Line.code)) := by
  have member := Site.mem_of_at? there
  have before := code_take_isPrefix_code lines (index + 1)
  rw [code_take_succ there] at before
  refine
    { opened := ?_
      enough := ?_
      opens_one := traceable.opens_one _ member
      inline_closed := ?_
      no_list := traceable.no_list _ member
      undirected := undirected _ member }
  · intro closes
    obtain ⟨blanks, after, blank, -, split⟩ := Text.exists_blanks_around_trim site.line.code
    obtain ⟨rest, starts⟩ := List.head?_eq_some_iff.mp closes
    rw [show Text.trim site.line.code = _ from starts] at split
    have early : blanks ++ ['}'] <+: site.line.code := ⟨rest ++ after, by simp [split]⟩
    have enough := traceable.opened_first _ ((List.prefix_append_right_inj _).mpr early |>.trans before)
    have noBrace : ∀ brace, Text.isBlank brace = false → brace ∉ blanks := by
      intro brace ink inside
      rw [blank brace inside] at ink
      cases ink
    rw [Text.excess_append, Text.excess_append,
      Text.excess_of_not_mem (noBrace '{' rfl) (noBrace '}' rfl)] at enough
    have one : Text.excess '{' '}' ['}'] = -1 := rfl
    omega
  · rw [← Text.excess_append]
    exact traceable.opened_first _ before
  · intro inline
    rw [Text.excess, traceable.inline_closed _ member inline]
    omega

/-- Before the bodies that end with it are closed, a line keeps what holds. -/
theorem Accounted.lineNext {raws : List (List Char)} (traceable : Traceable (Line.ofRaws raws))
    (undirected : ∀ line ∈ Line.ofRaws raws, line.hasCode → line.stripped.head? ≠ some '#')
    {index : Nat} (there : Site.at? (Line.ofRaws raws) index = some site)
    (accounted : Accounted (Line.ofRaws raws) index state) :
    Accounted (Line.ofRaws raws) (index + 1) (lineNext site state) := by
  have line := traceable.line undirected there
  rw [← accounted.surplus] at line
  obtain ⟨before, raw, written⟩ := Line.exists_ofRaw_of_mem (Site.mem_of_at? there)
  have further := code_take_succ there
  by_cases statement : isStatement site.line state
  · have coded := hasCode_of_isStatement statement
    have outside : Outside { state with blankRun := 0 } := accounted.outside
    have counted : LineTraceable site.line { state with blankRun := 0 }.surplus := line
    rw [lineNext_of_isStatement statement]
    refine ⟨outside.statementNext (line.no_list coded), ?_⟩
    rw [surplus_statementNext coded counted, further, Text.excess_append, ← accounted.surplus]
    rfl
  · obtain ⟨⟨noOpener, noCloser⟩, blanks, same⟩ := lineNext_of_not_isStatement written
      accounted.outside.1 line.undirected accounted.outside.2 (by simpa using statement)
    rw [same]
    refine ⟨accounted.outside, ?_⟩
    rw [further, Text.excess_append, Text.excess_of_not_mem noOpener noCloser, Int.add_zero]
    exact accounted.surplus

theorem Accounted.surplus_nonneg {lines : List Line} (traceable : Traceable lines) {index : Nat}
    (accounted : Accounted lines index state) : 0 ≤ state.surplus := by
  rw [accounted.surplus]
  exact traceable.opened_first _ (code_take_isPrefix_code lines index)

theorem Accounted.closeFinished {lines : List Line} (traceable : Traceable lines) {index : Nat}
    (accounted : Accounted lines index state) (ending : Nat) :
    Accounted lines index (CaseBlock.closeFinished ending state) where
  outside := accounted.outside
  surplus := by
    rw [(CaseBlock.surplus_closeFinished ending (accounted.surplus_nonneg traceable)).2,
      accounted.surplus]

/-- Before every line braces account for the surplus of frames. -/
theorem accounted_stateBefore {raws : List (List Char)} (traceable : Traceable (Line.ofRaws raws))
    (undirected : ∀ line ∈ Line.ofRaws raws, line.hasCode → line.stripped.head? ≠ some '#') :
    ∀ index ≤ (Line.ofRaws raws).length,
      Accounted (Line.ofRaws raws) index (stateBefore (Line.ofRaws raws) index) := by
  apply stateBefore_induction
  case initial => exact ⟨⟨rfl, rfl⟩, rfl⟩
  case advances =>
    intro index site state there accounted
    have next := accounted.lineNext traceable undirected there
    have closed := next.closeFinished traceable site.index
    exact ⟨closed.outside, closed.surplus⟩

theorem Accounted.leavesEntered {raws : List (List Char)} (traceable : Traceable (Line.ofRaws raws))
    (undirected : ∀ line ∈ Line.ofRaws raws, line.hasCode → line.stripped.head? ≠ some '#')
    {index : Nat} (there : Site.at? (Line.ofRaws raws) index = some site)
    (accounted : Accounted (Line.ofRaws raws) index state) : LeavesEntered site state := by
  have line := traceable.line undirected there
  have next := accounted.lineNext traceable undirected there
  rw [← accounted.surplus] at line
  constructor
  case closer =>
    intro _ closes
    have below := line.opened closes
    have above := state.surplus_le_depth
    omega
  case further =>
    intro _ _
    exact further_of_lineTraceable line
  case finished =>
    exact (CaseBlock.surplus_closeFinished site.index (next.surplus_nonneg traceable)).1

end Scan

/-- Where frames can follow the braces of a file without directives, their number after every
scanned line is that of the open braces and of the open bodies of cases, and no line leaves a frame
that was not entered. -/
theorem depth_run (settings : Settings) {raws : List (List Char)}
    (traceable : Scan.Traceable (Line.ofRaws raws))
    (undirected : ∀ line ∈ Line.ofRaws raws, line.hasCode → line.stripped.head? ≠ some '#')
    {index : Nat} {record : Scan.Record}
    (scanned : (Scan.run settings (Line.ofRaws raws)).1[index]? = some record) :
    (record.state.indents.length : Int) - 1 =
        Text.excess '{' '}' (((Line.ofRaws raws).take (index + 1)).flatMap Line.code) +
          record.state.cases.length ∧
      ∃ site, Site.at? (Line.ofRaws raws) index = some site ∧
        Scan.LeavesEntered site (Scan.stateBefore (Line.ofRaws raws) index) := by
  obtain ⟨site, there, -⟩ := Scan.step_of_run scanned
  have inside : index < (Line.ofRaws raws).length := by
    obtain ⟨line, found, -⟩ := Option.map_eq_some_iff.mp there
    exact (List.getElem?_eq_some_iff.mp found).1
  have before := Scan.accounted_stateBefore traceable undirected index (Nat.le_of_lt inside)
  have after := (Scan.accounted_stateBefore traceable undirected (index + 1) inside).surplus
  refine ⟨?_, site, there, before.leavesEntered traceable undirected there⟩
  rw [← Scan.state_of_run scanned, ScanState.surplus] at after
  have depth : record.state.indents.length = record.state.depth + 1 := by
    simp [ScanState.indents, ScanState.depth]
  omega

/-- A block inside a body of a case: two frames of braces and one of the body. -/
theorem depth_run_nested :
    let lines := Line.ofRaws
      (["switch (x) \x7b", "case 1:", "if (y) \x7b", "z;", "\x7d", "break;", "\x7d"].map String.toList)
    Scan.Traceable lines ∧ (∀ line ∈ lines, line.hasCode → line.stripped.head? ≠ some '#') ∧
      ∃ record, (Scan.run .default lines).1[3]? = some record ∧
        record.state.indents.length = 4 ∧ record.state.cases.length = 1 ∧
        (record.state.indents.length : Int) - 1 =
          Text.excess '{' '}' ((lines.take 4).flatMap Line.code) + record.state.cases.length := by
  intro lines
  have traceable : Scan.Traceable lines := by decide +kernel
  have undirected : ∀ line ∈ lines, line.hasCode → line.stripped.head? ≠ some '#' := by
    decide +kernel
  have scanned : ((Scan.run .default lines).1[3]?.map fun record =>
      (record.state.indents.length, record.state.cases.length)) = some (4, 1) := by
    decide +kernel
  obtain ⟨record, found, same⟩ := Option.map_eq_some_iff.mp scanned
  obtain ⟨indents, cases⟩ := Prod.mk.inj same
  exact ⟨traceable, undirected, record, found, indents, cases,
    (depth_run .default traceable undirected found).1⟩

/-- A directive does not enter a frame, also where blanks stand before it. -/
theorem depth_run_indented_directive :
    let lines := Line.ofRaws ["  #define A \x7b".toList]
    Scan.Traceable lines ∧ (∀ line ∈ lines, line.hasCode → line.code.head? ≠ some '#') ∧
      ∃ record, (Scan.run .default lines).1[0]? = some record ∧
        (record.state.indents.length : Int) - 1 ≠
          Text.excess '{' '}' ((lines.take 1).flatMap Line.code) + record.state.cases.length := by
  intro lines
  have scanned : ((Scan.run .default lines).1[0]?.map fun record =>
      (record.state.indents.length, record.state.cases.length)) = some (1, 0) := by
    decide +kernel
  obtain ⟨record, found, same⟩ := Option.map_eq_some_iff.mp scanned
  obtain ⟨indents, cases⟩ := Prod.mk.inj same
  refine ⟨by decide +kernel, by decide +kernel, record, found, ?_⟩
  rw [indents, cases]
  decide +kernel

end HouseStyle
