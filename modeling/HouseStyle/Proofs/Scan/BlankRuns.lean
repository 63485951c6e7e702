import HouseStyle.Proofs.Literals
import HouseStyle.Proofs.Masking
import HouseStyle.Proofs.Scan.Course
import HouseStyle.Proofs.Scan.Insertion
import HouseStyle.Proofs.Scan.Invariant
import HouseStyle.Proofs.Scan.Origins

/-!
Contract: runs of blank lines are counted exactly once.

Owns: the runs of blank lines that a scan counts, what its count says about the lines above, and the
complaints about them.
Does not own: blank lines that are indented.

The count lives in the state of the scan. Blank lines in block comments leave it as it is, so what
it says depends on the comment state as well: it is zero there, because the line on which the
comment started has reset it, and a blank line neither starts nor ends a comment.

Main statement: `blankRuns_of_diagnostics`.
-/

namespace HouseStyle

namespace Line

/-! ## Blank lines and comments -/

/-- A blank line neither starts nor ends a comment. -/
theorem after_of_isBlank {before : CommentState} {raw : List Char} (blank : Text.isBlankText raw) :
    (ofRaw before raw).after = before := by
  have absent : ∀ c, Text.isBlank c = false → c ∉ raw := by
    intro c ink member
    rw [List.all_eq_true.mp blank c member] at ink
    cases ink
  show (Source.segments before raw).2 = before
  cases before with
  | code =>
    rw [Source.segments_of_markFree rfl (Source.markFree_of_not_mem (absent '"' (by decide))
      (absent '\'' (by decide)) (absent '/' (by decide)))]
  | block =>
    cases raw with
    | nil => rw [Source.segments]
    | cons c rest =>
      rw [Source.segments_block (List.cons_ne_nil c rest)]
      cases split : Source.splitComment (c :: rest) with
      | mk comment after =>
        cases after with
        | none => rfl
        | some after =>
          have whole := Source.splitComment_eq_append split
          refine absurd ?_ (absent '/' (by decide))
          rw [← whole]
          exact List.mem_append_left after (Source.slash_of_splitComment split)

/-- A line starts in the comment state in which the line above it ends. -/
theorem before_eq_after {raws : List (List Char)} {index : Nat} {line next : Line}
    (here : (ofRaws raws)[index]? = some line) (below : (ofRaws raws)[index + 1]? = some next) :
    next.before = line.after := by
  rw [ofRaws, getElem?_ofRawsFrom, Option.map_eq_some_iff] at here below
  obtain ⟨raw, there, rfl⟩ := here
  obtain ⟨_, -, rfl⟩ := below
  rw [before_ofRaw, Source.stateAfter, List.take_add_one, there, Option.toList_some,
    List.foldl_append]
  rfl

/-- Below a blank line the comment state is as it was. -/
theorem before_eq_of_isBlank {raws : List (List Char)} {index : Nat} {line next : Line}
    (here : (ofRaws raws)[index]? = some line) (blank : line.isBlank)
    (below : (ofRaws raws)[index + 1]? = some next) : next.before = line.before := by
  rw [before_eq_after here below]
  obtain ⟨before, raw, -, rfl⟩ := exists_ofRaw_of_getElem? here
  exact after_of_isBlank blank

end Line

namespace Scan

/-! ## The count -/

section Count

variable {site : Site} {state : ScanState}

theorem blankRun_codeNext (site : Site) (state : ScanState) :
    (codeNext site state).blankRun = state.blankRun := by
  have settled : (Indent.settled site state).blankRun = state.blankRun := by
    unfold Indent.settled Indent.labelled Indent.outside CaseBlock.enter Indent.followBraces
    simp only
    repeat' split
    all_goals rfl
  unfold codeNext
  split
  next block _ =>
    unfold ParamBlock.continued
    simp only
    repeat' split
    all_goals rfl
  next =>
    split
    · rfl
    · split
      · rfl
      · unfold statementNext
        split
        · exact settled
        · obtain ⟨types, pendingType, same⟩ := ScanState.exists_typeScope_settled site.index
            site.line.code (Indent.settled site state)
          rw [same]
          exact settled

/-- A blank line outside a block comment is counted, and a line that is not blank ends the count. -/
theorem blankRun_advance (site : Site) (state : ScanState) :
    (advance site state).blankRun =
      if site.line.isBlank then
        if site.line.before = .block then state.blankRun else state.blankRun + 1
      else 0 := by
  show (lineNext site state).blankRun = _
  unfold lineNext
  split
  · split <;> rfl
  · simp only
    split
    · rfl
    · exact blankRun_codeNext site _

end Count

/-- A line that is counted. -/
def IsCounted (line : Line) : Prop :=
  line.isBlank ∧ line.before = .code

/-- What a count of blank lines says about the lines above an index: the nearest of them, as many as
are counted, are blank and outside comments, and the next one is not such a line. -/
structure Tally (lines : List Line) (index count : Nat) : Prop where
  within : count ≤ index
  counted : ∀ place, index ≤ place + count → place < index →
    ∃ line, lines[place]? = some line ∧ IsCounted line
  ends : ∀ place line, place + count + 1 = index → lines[place]? = some line → ¬ IsCounted line

/-- The count of a scan is that of the blank lines above. -/
theorem tally_stateBefore (raws : List (List Char)) :
    ∀ index ≤ (Line.ofRaws raws).length,
      Tally (Line.ofRaws raws) index (stateBefore (Line.ofRaws raws) index).blankRun := by
  refine @stateBefore_induction _ (fun index state => Tally _ index state.blankRun)
    ?initial ?advances
  case initial =>
    exact ⟨le_rfl, fun place _ below => absurd below (Nat.not_lt_zero place),
      fun place _ same => absurd same (Nat.succ_ne_zero _)⟩
  case advances =>
    intro index site state there tally
    have here := Site.getElem?_of_at? there
    rw [blankRun_advance]
    have uncounted : ¬ IsCounted site.line → Tally (Line.ofRaws raws) (index + 1) 0 := by
      refine fun other => ⟨Nat.zero_le _, fun place above below => by omega, ?_⟩
      intro place line same found
      obtain rfl : place = index := by omega
      rw [here] at found
      cases found
      exact other
    by_cases blank : site.line.isBlank
    · rw [if_pos blank]
      by_cases comment : site.line.before = .block
      · rw [if_pos comment]
        have other : ¬ IsCounted site.line := by
          rintro ⟨-, code⟩
          rw [comment] at code
          cases code
        -- a counted line above would have passed the comment state on
        have none : state.blankRun = 0 := by
          by_contra some
          have within := tally.within
          obtain ⟨line, above, blankAbove, code⟩ :=
            tally.counted (index - 1) (by omega) (by omega)
          rw [← show index - 1 + 1 = index by omega] at here
          rw [Line.before_eq_of_isBlank above blankAbove here, code] at comment
          cases comment
        rw [none]
        exact uncounted other
      · rw [if_neg comment]
        have code : site.line.before = .code := by
          cases state : site.line.before with
          | code => rfl
          | block => exact absurd state comment
        refine ⟨Nat.succ_le_succ tally.within, ?_, ?_⟩
        · intro place above below
          rcases Nat.lt_succ_iff_lt_or_eq.mp below with earlier | rfl
          · exact tally.counted place (by omega) earlier
          · exact ⟨site.line, here, blank, code⟩
        · intro place line same
          exact tally.ends place line (by omega)
    · rw [if_neg blank]
      exact uncounted fun counted => blank counted.1

/-! ## Runs -/

/-- Consecutive lines, from the one with the first index on. -/
structure BlankRun where
  first : Nat
  length : Nat
deriving DecidableEq, Repr

namespace BlankRun

/-- The index of the line below a run. -/
def stop (run : BlankRun) : Nat :=
  run.first + run.length

/-- A run that is due a complaint: at least two blank lines, none directly above them, and below
them a line that is not blank. The first of them does not start in a block comment. -/
structure Counted (run : BlankRun) (lines : List Line) : Prop where
  several : 2 ≤ run.length
  blank : ∀ place, run.first ≤ place → place < run.stop →
    ∃ line, lines[place]? = some line ∧ line.isBlank
  outside : ∀ line, lines[run.first]? = some line → line.before ≠ .block
  maximal : ∀ place line, place + 1 = run.first → lines[place]? = some line → line.isBlank = false
  followed : ∃ line, lines[run.stop]? = some line ∧ line.isBlank = false

/-- The complaint about a run, on its last line and with its length. -/
def diagnostic (run : BlankRun) : Diagnostic where
  line := run.stop
  column := 0
  length := 0
  severity := .warning
  kind := "TOO_MANY_BLANK_LINES"
  message := "more than 1 blank line consecutively (" ++ toString run.length ++ ")"

/-- Among counted runs the order of their ends is that of the runs. -/
theorem Counted.stop_lt_first {lines : List Line} {run other : BlankRun}
    (counted : run.Counted lines) (countedToo : other.Counted lines)
    (ordered : run.stop < other.stop) : run.stop < other.first := by
  by_contra overlap
  obtain ⟨line, there, inked⟩ := counted.followed
  obtain ⟨_, same, blank⟩ := countedToo.blank run.stop (Nat.le_of_not_lt overlap) ordered
  rw [there] at same
  cases same
  rw [inked] at blank
  cases blank

end BlankRun

/-- The run of blank lines that a line ends. -/
def endedRun? (site : Site) (state : ScanState) : Option BlankRun :=
  if site.line.isBlank = false ∧ 1 < state.blankRun then
    some ⟨site.index - state.blankRun, state.blankRun⟩
  else none

section Course

variable {raws : List (List Char)} {site : Site} {index : Nat}

/-- All lines of a counted run are counted, for the comment state of the first is that of all. -/
theorem BlankRun.Counted.isCounted {run : BlankRun} (counted : run.Counted (Line.ofRaws raws))
    {place : Nat} (above : run.first ≤ place) (below : place < run.stop) :
    ∃ line, (Line.ofRaws raws)[place]? = some line ∧ IsCounted line := by
  induction place, above using Nat.le_induction with
  | base =>
    obtain ⟨line, there, blank⟩ := counted.blank run.first le_rfl below
    have outside := counted.outside line there
    cases state : line.before with
    | code => exact ⟨line, there, blank, state⟩
    | block => exact absurd state outside
  | succ place above inductionHypothesis =>
    obtain ⟨line, there, blank, code⟩ := inductionHypothesis (Nat.lt_of_succ_lt below)
    obtain ⟨next, thereNext, blankNext⟩ := counted.blank (place + 1) (Nat.le_succ_of_le above) below
    exact ⟨next, thereNext, blankNext, (Line.before_eq_of_isBlank there blank thereNext).trans code⟩

/-- What a count of several blank lines stands for above a line that is not blank. -/
theorem Tally.counted_of_inked {run : BlankRun}
    (tally : Tally (Line.ofRaws raws) run.stop run.length) (several : 2 ≤ run.length) {line : Line}
    (here : (Line.ofRaws raws)[run.stop]? = some line) (inked : line.isBlank = false) :
    run.Counted (Line.ofRaws raws) := by
  have stop : run.stop = run.first + run.length := rfl
  refine ⟨several, ?_, ?_, ?_, line, here, inked⟩
  · intro place above below
    obtain ⟨line, found, blank, -⟩ := tally.counted place (by omega) below
    exact ⟨line, found, blank⟩
  · intro line first
    obtain ⟨_, found, -, code⟩ := tally.counted run.first stop.le (by omega)
    rw [first] at found
    cases found
    rw [code]
    nofun
  · intro place line same above
    rw [← Bool.not_eq_true]
    intro blank
    -- the line above is blank, so it is inside a comment, and then so is the first of the run
    obtain ⟨first, found, -, code⟩ := tally.counted (place + 1) (by omega) (by omega)
    rw [Line.before_eq_of_isBlank above blank found] at code
    exact tally.ends place line (by omega) above ⟨blank, code⟩

/-- Below a counted run the count is its length. -/
theorem BlankRun.Counted.count_eq {run : BlankRun} {count : Nat}
    (counted : run.Counted (Line.ofRaws raws)) (tally : Tally (Line.ofRaws raws) run.stop count) :
    count = run.length := by
  have stop : run.stop = run.first + run.length := rfl
  have within := tally.within
  apply le_antisymm
  · by_contra longer
    obtain ⟨line, found, blank, -⟩ := tally.counted (run.first - 1) (by omega) (by omega)
    rw [counted.maximal (run.first - 1) line (by omega) found] at blank
    cases blank
  · by_contra shorter
    obtain ⟨line, found, inRun⟩ := counted.isCounted
      (show run.first ≤ run.stop - count - 1 by omega) (by omega)
    exact tally.ends _ line (by omega) found inRun

/-- A line ends exactly the counted run that stops there. -/
theorem endedRun?_eq_some_iff (there : Site.at? (Line.ofRaws raws) index = some site)
    (run : BlankRun) :
    endedRun? site (stateBefore (Line.ofRaws raws) index) = some run ↔
      run.stop = index ∧ run.Counted (Line.ofRaws raws) := by
  have here := Site.getElem?_of_at? there
  have tally := tally_stateBefore raws index (Site.lt_length_of_at? there).le
  have within := tally.within
  rw [endedRun?, Option.ite_none_right_eq_some, Site.index_of_at? there, Option.some.injEq]
  constructor
  · rintro ⟨⟨inked, several⟩, rfl⟩
    have stop : index - (stateBefore (Line.ofRaws raws) index).blankRun +
        (stateBefore (Line.ofRaws raws) index).blankRun = index := Nat.sub_add_cancel within
    rw [← stop] at here
    refine ⟨stop, Tally.counted_of_inked ?_ several here inked⟩
    rwa [BlankRun.stop, stop]
  · rintro ⟨rfl, counted⟩
    obtain ⟨line, found, inked⟩ := counted.followed
    rw [here] at found
    cases found
    rw [counted.count_eq tally]
    exact ⟨⟨inked, counted.several⟩, congrArg (BlankRun.mk · run.length) (Nat.add_sub_cancel _ _)⟩

end Course

/-! ## Complaints -/

section Complaints

variable {settings : Settings} {site : Site} {state next : ScanState}
  {diagnostics : List Diagnostic}

/-- A complaint about a run of blank lines. -/
def isRunComplaint (diagnostic : Diagnostic) : Bool :=
  diagnostic.kind == Kind.tooManyBlankLines.name

theorem BlankRun.diagnostic_eq (run : BlankRun) :
    Kind.tooManyBlankLines.diagnostic run.stop 0 0 [.number (.measure run.length)] =
      .ok run.diagnostic := by
  have message : Kind.tooManyBlankLines.template.format [.number (.measure run.length)] =
      .ok run.diagnostic.message := by
    simp only [Kind.template, Template.format, Template.fill, Piece.fill, List.isEmpty_cons,
      Bool.false_eq_true, if_false, Answer.ok_bind, Answer.pure_eq_ok, String.append_empty,
      String.append_assoc, diagnostic]
    rfl
  rw [Kind.diagnostic, message]
  rfl

/-- Where no blank lines are counted, no step complains about them. -/
theorem origins_noRun (settings : Settings) (site : Site) (state : ScanState) :
    Origins (fun finding => finding.kind ≠ .tooManyBlankLines)
      (fun diagnostic => isRunComplaint diagnostic = false) settings site
      { state with blankRun := 0 } where
  reported := by
    intro finding diagnostic other printed
    rw [isRunComplaint, (Kind.isOf_of_diagnostic printed).1, beq_eq_false_iff_ne]
    exact fun same => other (Kind.name_injective same)
  blankRun := nofun
  indentedBlank := nofun
  rules := by
    intro phase state findings _ ruled
    cases phase <;> exact (Rule.ofKinds_of_runPhase ruled).kind_ne (by decide)
  list := fun _ block =>
    (ParamBlock.declared_proceed block site.line.raw site.line.code _).kind_ne (by decide)
  directive := nofun
  label := fun _ label => (declared_labelFindings? label).kind_ne (by decide)
  indentation := fun _ passes => (declared_indentStep passes).kind_ne (by decide)
  inline := fun _ => (InlineControl.declared_findings site.line.code).kind_ne (by decide)
  types := fun _ _ answers diagnostic member => beq_eq_false_iff_ne.mpr
    ((reported_of_typeStep answers).kind_ne (by decide) diagnostic member)

theorem filter_eq_nil_of_forall {diagnostics : List Diagnostic}
    (quiet : ∀ diagnostic ∈ diagnostics, isRunComplaint diagnostic = false) :
    diagnostics.filter isRunComplaint = [] :=
  List.filter_eq_nil_iff.mpr (by simpa using quiet)

theorem filter_of_blankLine (passes : blankLine site state = .ok (diagnostics, next)) :
    diagnostics.filter isRunComplaint = [] := by
  have others := origins_noRun .default site state
  unfold blankLine at passes
  split at passes
  · cases passes
    rfl
  · obtain ⟨found, reported, passes⟩ := Answer.bind_eq_ok.mp passes
    cases passes
    refine filter_eq_nil_of_forall (others.forall_of_report ?_ reported)
    intro finding member
    obtain ⟨-, same⟩ := List.mem_ite_nil_left.mp member
    rw [List.mem_singleton.mp same]
    exact others.indentedBlank

/-- The rest of a line that is not blank is settled without the count. -/
theorem filter_of_inkedRest (inked : ¬ site.line.isBlank) {outcome : Outcome}
    (passes : Insertion.inkedRest settings site { state with blankRun := 0 } = .ok outcome) :
    outcome.1.filter isRunComplaint = [] := by
  have whole : inkedLine settings site { state with blankRun := 0 } = .ok outcome := by
    rw [Insertion.inkedLine_eq]
    show (Insertion.inkedRest settings site { state with blankRun := 0 } >>= _) = _
    rw [passes]
    rfl
  exact filter_eq_nil_of_forall
    ((origins_noRun settings site state).forall_of_inkedLine inked whole)

/-- A step complains about the run that its line ends, and about no other. -/
theorem filter_of_step (within : state.blankRun ≤ site.index)
    (passes : step settings site state = .ok (diagnostics, next)) :
    diagnostics.filter isRunComplaint =
      (endedRun? site state).toList.map BlankRun.diagnostic := by
  unfold step line at passes
  obtain ⟨⟨found, settled⟩, scanned, passes⟩ := Answer.bind_eq_ok.mp passes
  cases passes
  unfold endedRun?
  split at scanned
  next blank =>
    rw [filter_of_blankLine scanned, if_neg (by simp [blank])]
    rfl
  next inked =>
    rw [Insertion.inkedLine_eq] at scanned
    obtain ⟨ended, ends, scanned⟩ := Answer.bind_eq_ok.mp scanned
    obtain ⟨rest, given, scanned⟩ := Answer.bind_eq_ok.mp scanned
    cases scanned
    unfold endBlankRun at ends
    by_cases several : 1 < state.blankRun
    · have stop : BlankRun.stop ⟨site.index - state.blankRun, state.blankRun⟩ = site.index :=
        Nat.sub_add_cancel within
      have complaint := BlankRun.diagnostic_eq ⟨site.index - state.blankRun, state.blankRun⟩
      rw [stop] at complaint
      rw [if_pos several, complaint] at ends
      cases ends
      rw [if_pos ⟨by simpa using inked, several⟩, List.filter_append,
        filter_of_inkedRest inked given]
      rfl
    · rw [if_neg several] at ends
      cases ends
      rw [if_neg fun run => several run.2, List.nil_append, filter_of_inkedRest inked given]
      rfl

end Complaints

/-! ## Whole scans -/

/-- The run of blank lines that ends above the line of an index. -/
def runAbove? (lines : List Line) (index : Nat) : Option BlankRun :=
  (Site.at? lines index).bind fun site => endedRun? site (stateBefore lines index)

theorem runAbove?_eq_some_iff {raws : List (List Char)} {index : Nat} {run : BlankRun} :
    runAbove? (Line.ofRaws raws) index = some run ↔
      run.stop = index ∧ run.Counted (Line.ofRaws raws) := by
  cases there : Site.at? (Line.ofRaws raws) index with
  | some site =>
    rw [runAbove?, there]
    exact endedRun?_eq_some_iff there run
  | none =>
    rw [runAbove?, there]
    refine ⟨nofun, ?_⟩
    rintro ⟨rfl, counted⟩
    obtain ⟨line, found, -⟩ := counted.followed
    rw [Site.at?, found] at there
    cases there

/-- The runs that end above some line, in the order of these lines. -/
def blankRuns (lines : List Line) : List BlankRun :=
  (List.range lines.length).filterMap (runAbove? lines)

section Runs

variable {raws : List (List Char)}

theorem mem_blankRuns_iff {run : BlankRun} :
    run ∈ blankRuns (Line.ofRaws raws) ↔ run.Counted (Line.ofRaws raws) := by
  rw [blankRuns, List.mem_filterMap]
  constructor
  · rintro ⟨index, -, above⟩
    exact (runAbove?_eq_some_iff.mp above).2
  · intro counted
    obtain ⟨line, there, -⟩ := counted.followed
    exact ⟨run.stop, List.mem_range.mpr (List.getElem?_eq_some_iff.mp there).1,
      runAbove?_eq_some_iff.mpr ⟨rfl, counted⟩⟩

/-- Runs are apart, and listed from the top of the file on. -/
theorem pairwise_blankRuns (raws : List (List Char)) :
    (blankRuns (Line.ofRaws raws)).Pairwise fun run other => run.stop < other.first := by
  refine List.Pairwise.filterMap _ ?_ List.pairwise_lt_range
  intro index later above run ends other endsToo
  obtain ⟨rfl, counted⟩ := runAbove?_eq_some_iff.mp ends
  obtain ⟨rfl, countedToo⟩ := runAbove?_eq_some_iff.mp endsToo
  exact counted.stop_lt_first countedToo above

variable {settings : Settings}

theorem filter_of_record {record : Record} (member : record ∈ (run settings (Line.ofRaws raws)).1) :
    record.diagnostics.filter isRunComplaint =
      (runAbove? (Line.ofRaws raws) record.index).toList.map BlankRun.diagnostic := by
  obtain ⟨index, scanned⟩ := List.mem_iff_getElem?.mp member
  obtain ⟨site, there, named, -, passes⟩ := step_of_run scanned
  have within := (tally_stateBefore raws index (Site.lt_length_of_at? there).le).within
  rw [named, runAbove?, there]
  exact filter_of_step (within.trans_eq (Site.index_of_at? there).symm) passes

theorem map_index_run (settings : Settings) (lines : List Line) :
    (run settings lines).1.map Record.index = List.range (run settings lines).1.length := by
  apply List.ext_getElem
  · rw [List.length_map, List.length_range]
  · intro index inside _
    rw [List.length_map] at inside
    obtain ⟨-, -, named, -⟩ := step_of_run (List.getElem?_eq_getElem inside)
    rw [List.getElem_map, List.getElem_range, named]

end Runs

/-- A scan that gets through complains about runs of blank lines once each, in order, on their last
lines and with their lengths: about those of at least two lines that start outside block comments
and that a line that is not blank follows. -/
theorem blankRuns_of_diagnostics (settings : Settings) (text : List Char)
    {diagnostics : List Diagnostic}
    (answers : Scan.diagnostics settings (Line.ofRaws (Source.splitLines text)) = .ok diagnostics) :
    ∃ runs : List BlankRun,
      (∀ run, run ∈ runs ↔ run.Counted (Line.ofRaws (Source.splitLines text))) ∧
      runs.Pairwise (fun run other => run.stop < other.first) ∧
      diagnostics.filter (fun diagnostic => diagnostic.kind == "TOO_MANY_BLANK_LINES") =
        runs.map BlankRun.diagnostic := by
  refine ⟨blankRuns (Line.ofRaws (Source.splitLines text)), fun run => mem_blankRuns_iff,
    pairwise_blankRuns _, ?_⟩
  obtain ⟨whole, all⟩ := run_of_diagnostics answers
  have indices := map_index_run settings (Line.ofRaws (Source.splitLines text))
  rw [all] at indices
  calc diagnostics.filter isRunComplaint
    _ = (run settings (Line.ofRaws (Source.splitLines text))).1.flatMap fun record =>
          record.diagnostics.filter isRunComplaint := by
        rw [whole, List.filter_flatMap]
    _ = (run settings (Line.ofRaws (Source.splitLines text))).1.flatMap fun record =>
          (runAbove? (Line.ofRaws (Source.splitLines text)) record.index).toList.map
            BlankRun.diagnostic :=
        List.flatMap_congr fun record member => filter_of_record member
    _ = (blankRuns (Line.ofRaws (Source.splitLines text))).map BlankRun.diagnostic := by
        rw [blankRuns, ← indices, List.filterMap_eq_flatMap_toList, List.map_flatMap,
          List.flatMap_map]

/-- Three blank lines in code are reported, and two in a comment and two at the end are not. -/
theorem blankRuns_of_diagnostics_three :
    let text := "a();\n\n\n\nb(); /* c\n\n\n*/\nd();\n\n\n".toList
    let lines := Line.ofRaws (Source.splitLines text)
    ∃ diagnostics, Scan.diagnostics .default lines = .ok diagnostics ∧
      BlankRun.Counted ⟨1, 3⟩ lines ∧
      ∃ runs : List BlankRun, (∀ run, run ∈ runs ↔ run.Counted lines) ∧
        runs.Pairwise (fun run other => run.stop < other.first) ∧
        diagnostics.filter (fun diagnostic => diagnostic.kind == "TOO_MANY_BLANK_LINES") =
          runs.map BlankRun.diagnostic := by
  intro text lines
  have passes : (Scan.diagnostics .default lines).isOk := by decide +kernel
  have ended : runAbove? lines 4 = some ⟨1, 3⟩ := by decide +kernel
  cases answers : Scan.diagnostics .default lines with
  | error fault =>
    rw [answers] at passes
    cases passes
  | ok diagnostics =>
    exact ⟨diagnostics, rfl, (runAbove?_eq_some_iff.mp ended).2,
      blankRuns_of_diagnostics .default text answers⟩

end Scan

end HouseStyle
