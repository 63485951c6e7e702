import HouseStyle.Proofs.CodeExcess
import HouseStyle.Proofs.Scan.Depth

/-!
Contract: lists of parameters or arguments over several lines, and the parentheses that keep them
open.

Owns: which line a list starts on, how long it stays open, and what the lines of a list leave alone.
Does not own: the braces on those lines, which `Proofs.Scan.ListBraces` counts.

A list is entered by one machine and left by another, on a line that may be any number of lines
later. In between only lines with code count, whatever they look like elsewhere: directives, labels
and further openers are lines of the list. Bodies of cases may end inside a list, as they end by
their line index alone.

Main statement: `paramBlock_run`.
-/

namespace HouseStyle

/-! ## The line that starts a list -/

/-- Among blanks no character is found that is not blank. -/
theorem Text.find?_ink_of_blanks {blanks : List Char} (all : ∀ c ∈ blanks, isBlank c) :
    blanks.reverse.find? (fun c => !isBlank c) = none := by
  rw [List.find?_eq_none]
  intro c member
  simp [all c (List.mem_reverse.mp member)]

/-- A trimmed text ends with the last character that is not blank. -/
theorem Text.getLast?_trim (text : List Char) :
    (trim text).getLast? = text.reverse.find? fun c => !isBlank c := by
  have split : text.reverse = (trimLeft text).reverse ++ (text.takeWhile isBlank).reverse := by
    rw [← List.reverse_append]
    exact congrArg List.reverse List.takeWhile_append_dropWhile.symm
  rw [trim, getLast?_trimRight, split, List.find?_append,
    find?_ink_of_blanks fun c => isBlank_of_mem_takeWhile, Option.or_none]

/-- A text ends like what stands at its end, unless that is blank. -/
theorem Text.getLast?_trim_append (first : List Char) {second : List Char} {c : Char}
    (last : (trim second).getLast? = some c) : (trim (first ++ second)).getLast? = some c := by
  rw [getLast?_trim] at last ⊢
  rw [List.reverse_append, List.find?_append, last]
  rfl

theorem Text.getLast?_trim_trim (text : List Char) :
    (trim (trim text)).getLast? = (trim text).getLast? := by
  obtain ⟨before, after, blankBefore, blankAfter, split⟩ := exists_blanks_around_trim text
  have whole := getLast?_trim text
  rw [split, List.reverse_append, List.reverse_append, List.append_assoc, List.find?_append,
    find?_ink_of_blanks blankAfter, List.find?_append, find?_ink_of_blanks blankBefore,
    Option.or_none, Option.none_or, ← split] at whole
  rw [getLast?_trim, whole]

namespace InlineControl

/-- A one-line statement ends in a semicolon or a closing brace. -/
theorem getLast?_trim_of_isInline {code : List Char} (inline : isInline code) :
    (Text.trim code).getLast? = some ';' ∨ (Text.trim code).getLast? = some '}' := by
  have upward : ∀ {code : List Char} {split : Split} {c : Char},
      (split.body code).getLast? = some c → (Text.trim code).getLast? = some c := by
    intro code split c last
    have behind := Text.getLast?_trim_append (code.take split.bodyStart) last
    rwa [List.take_append_drop] at behind
  fun_induction isInline code with
  | case1 => cases inline
  | case2 => cases inline
  | case3 code split found body inked braced =>
    rw [Bool.and_eq_true, beq_iff_eq] at inline
    exact .inr (upward inline.1)
  | case4 => cases inline
  | case5 code split found body inked unbraced plain chained shorter inductionHypothesis =>
    rcases inductionHypothesis inline with last | last
    all_goals rw [show Text.trim body = Text.trim (Text.trim _) from rfl,
      Text.getLast?_trim_trim] at last
    · exact .inl (upward last)
    · exact .inr (upward last)
  | case6 code split found body inked unbraced plain unchained =>
    rw [beq_iff_eq] at inline
    exact .inl (upward inline)

/-- A one-line statement starts no list. -/
theorem opens_eq_false_of_isInline {code : List Char} (inline : isInline code) :
    ParamBlock.opens code = false := by
  rw [← Bool.not_eq_true]
  intro opens
  simp only [ParamBlock.opens, Bool.and_eq_true, beq_iff_eq] at opens
  rcases getLast?_trim_of_isInline inline with last | last <;>
  · rw [opens.1.2] at last
    cases last

end InlineControl

namespace Scan

/-- Whether a line, scanned in a state, starts a list. -/
def startsList (line : Line) (state : ScanState) : Bool :=
  isStatement line state && ParamBlock.opens line.code

/-- The parentheses that the lines with code from one index to another open and do not close. -/
def openParens (lines : List Line) (first last : Nat) : Int :=
  Text.excess '(' ')' ((((lines.take (last + 1)).drop first).filter Line.hasCode).flatMap Line.code)

/-- A list that starts on the line of one index has open parentheses up to the line of another. -/
structure ListOpen (lines : List Line) (first last : Nat) : Prop where
  ordered : first ≤ last
  starts : ∃ site, Site.at? lines first = some site ∧ startsList site.line (stateBefore lines first)
  unclosed : ∀ line, first ≤ line → line ≤ last → 0 < openParens lines first line

instance (lines : List Line) (first last : Nat) : Decidable (ListOpen lines first last) :=
  decidable_of_iff
    (first ≤ last ∧ (∃ site ∈ Site.at? lines first, startsList site.line (stateBefore lines first)) ∧
      ∀ line ∈ List.range' first (last + 1 - first), 0 < openParens lines first line)
    ⟨fun ⟨ordered, starts, unclosed⟩ => ⟨ordered, starts, fun line behind early =>
        unclosed line (List.mem_range'_1.mpr (by omega))⟩,
      fun ⟨ordered, starts, unclosed⟩ => ⟨ordered, starts, fun line among =>
        have between := List.mem_range'_1.mp among
        unclosed line between.1 (by omega)⟩⟩

/-- What the state after a line of a list says: the open parentheses are counted, no control
statement waits for its body, types and directives are as before the list, and frames as on its
first line, less those of the bodies that have ended since. -/
structure InsideList (lines : List Line) (first last : Nat) (state : ScanState) : Prop where
  depth : state.paramBlock.map ParamBlock.depth = some (openParens lines first last)
  nextIndent : state.nextIndent = none
  types : state.types = (stateBefore lines first).types
  pendingType : state.pendingType = (stateBefore lines first).pendingType
  inDefinition : state.inDefinition = (stateBefore lines first).inDefinition
  frames : ∃ count,
    state.frames = (stateBefore lines (first + 1)).frames.drop count ∧
    state.cases = (stateBefore lines (first + 1)).cases.drop count ∧
    count ≤ (stateBefore lines (first + 1)).cases.length ∧
    ∀ frame ∈ (stateBefore lines (first + 1)).cases.take count,
      first < frame.endLine ∧ frame.endLine ≤ last

/-! ## The parentheses of a line -/

variable {lines : List Line} {first last : Nat} {site : Site} {state : ScanState}

theorem openParens_self (there : Site.at? lines first = some site) :
    openParens lines first first = Text.excess '(' ')' site.line.code := by
  have listed : (lines.take (first + 1)).drop first = [] ++ [site.line] := by
    rw [Site.take_succ_of_at? there, List.drop_append_of_le_length, List.drop_eq_nil_of_le]
    · exact List.length_take_le _ _
    · rw [List.length_take, Nat.min_eq_left (Nat.le_of_lt (Site.lt_length_of_at? there))]
  show Line.codeExcess '(' ')' _ = _
  rw [listed]
  exact Line.codeExcess_singleton (by decide) (by decide) site.line

theorem openParens_succ (there : Site.at? lines (last + 1) = some site) (ordered : first ≤ last) :
    openParens lines first (last + 1) =
      openParens lines first last + Text.excess '(' ')' site.line.code := by
  have inside := Site.lt_length_of_at? there
  show Line.codeExcess '(' ')' _ = Line.codeExcess '(' ')' _ + _
  rw [Site.take_succ_of_at? there, List.drop_append_of_le_length, Line.codeExcess_append,
    Line.codeExcess_singleton (by decide) (by decide)]
  rw [List.length_take]
  omega

/-! ## A single line -/

/-- The line that starts a list only leaves the frame of the closing brace it starts with, and the
frame of its label entered. -/
theorem lineNext_of_startsList (starts : startsList site.line state) :
    lineNext site state =
      ParamBlock.opened site.line.code (Indent.expectedAt site.line state) site.previousCode
        (Indent.labelled site { state with blankRun := 0 }) := by
  rw [startsList, Bool.and_eq_true] at starts
  obtain ⟨statement, opens⟩ := starts
  have several : InlineControl.isInline site.line.code = false := by
    rw [← Bool.not_eq_true]
    intro inline
    rw [InlineControl.opens_eq_false_of_isInline inline] at opens
    cases opens
  rw [lineNext_of_isStatement statement, statementNext]
  simp only [Indent.settled, several, opens, Bool.or_true, if_true, Bool.false_eq_true, if_false,
    expectedAt_blankRun]

/-- A line that starts no list does not get into one. -/
theorem paramBlock_lineNext (noBlock : state.paramBlock = none)
    (other : startsList site.line state = false) : (lineNext site state).paramBlock = none := by
  by_cases statement : isStatement site.line state
  · have noList : ParamBlock.opens site.line.code = false := by
      simpa [startsList, statement] using other
    have inside : state.inDefinition = false := by
      simp only [isStatement, Bool.and_eq_true, Bool.not_eq_true', Bool.or_eq_false_iff] at statement
      exact statement.1.2.2
    have outside : Outside { state with blankRun := 0 } := ⟨noBlock, inside⟩
    rw [lineNext_of_isStatement statement]
    exact (outside.statementNext noList).1
  · unfold lineNext
    by_cases blank : site.line.isBlank
    · rw [if_pos blank]
      split <;> exact noBlock
    · rw [if_neg blank]
      by_cases skipped : site.line.isSkipped
      · rw [if_pos skipped]
        exact noBlock
      · have coded : site.line.hasCode := by simpa [Line.isSkipped, blank] using skipped
        simp only [if_neg skipped, codeNext, noBlock]
        by_cases directed : site.line.stripped.head? == some '#' || state.inDefinition
        · rw [if_pos directed]
        · have label : (labelFindings? site.line.code).isSome := by
            simpa [isStatement, blank, coded, noBlock, directed, Option.isSome_iff_ne_none]
              using statement
          rw [if_neg directed, if_pos label]

/-- In a list a line with code is a line of the list, and any other only counts blank lines. -/
theorem lineNext_of_paramBlock {before : CommentState} {raw : List Char}
    (written : site.line = .ofRaw before raw) {block : ParamBlock}
    (inside : state.paramBlock = some block) :
    ∃ blankRun, lineNext site state =
      if site.line.hasCode then ParamBlock.continued block site.line.code { state with blankRun }
      else { state with blankRun } := by
  unfold lineNext
  by_cases blank : site.line.isBlank
  · have codeless : site.line.hasCode = false := by
      rw [written] at blank ⊢
      exact Line.hasCode_ofRaw_of_isBlank blank
    simp only [if_pos blank, codeless, Bool.false_eq_true, if_false]
    split <;> exact ⟨_, rfl⟩
  · refine ⟨0, ?_⟩
    rw [if_neg blank]
    by_cases coded : site.line.hasCode
    · simp [Line.isSkipped, coded, codeNext, inside]
    · simp [Line.isSkipped, coded, blank]

/-- The state after a line, with the frames of the bodies that end with it left. -/
theorem advance_eq (site : Site) (state : ScanState) :
    advance site state =
      { lineNext site state with
        frames := (lineNext site state).frames.drop
          (CaseBlock.finished site.index (lineNext site state).cases)
        cases := (lineNext site state).cases.drop
          (CaseBlock.finished site.index (lineNext site state).cases)
        comment := site.line.after } := by
  rw [advance, CaseBlock.closeFinished, CaseBlock.closeFrames_eq]

/-! ## A whole list -/

variable {raws : List (List Char)}

/-- The line that starts a list is a line of it. -/
theorem insideList_self (there : Site.at? lines first = some site)
    (starts : startsList site.line (stateBefore lines first)) :
    InsideList lines first first (stateBefore lines (first + 1)) := by
  have next := lineNext_of_startsList starts
  have depth : (lineNext site (stateBefore lines first)).paramBlock.map ParamBlock.depth =
      some (openParens lines first first) := by
    rw [next, openParens_self there]
    rfl
  have labelled : ∀ state : ScanState, (Indent.labelled site state).nextIndent = none ∧
      (Indent.labelled site state).types = state.types ∧
      (Indent.labelled site state).pendingType = state.pendingType ∧
      (Indent.labelled site state).inDefinition = state.inDefinition := by
    intro state
    unfold Indent.labelled Indent.outside CaseBlock.enter
    repeat' split
    all_goals exact ⟨rfl, rfl, rfl, rfl⟩
  obtain ⟨nextIndent, types, pendingType, inDefinition⟩ :=
    labelled { stateBefore lines first with blankRun := 0 }
  refine
    { depth := ?_
      nextIndent := ?_
      types := ?_
      pendingType := ?_
      inDefinition := ?_
      frames := ⟨0, rfl, rfl, Nat.zero_le _, by simp⟩ }
  all_goals rw [stateBefore_succ there, advance_eq]
  · exact depth
  · simp only [next]
    exact nextIndent
  · simp only [next]
    exact types
  · simp only [next]
    exact pendingType
  · simp only [next]
    exact inDefinition

/-- The bodies that end with a line are innermost, and end with it. -/
theorem endLine_of_mem_take_finished {index : Nat} {cases : List CaseFrame} {frame : CaseFrame}
    (ended : frame ∈ cases.take (CaseBlock.finished index cases)) : frame.endLine = index := by
  rw [CaseBlock.finished, ← List.prefix_iff_eq_take.mp (List.takeWhile_prefix _)] at ended
  simpa using List.all_eq_true.mp List.all_takeWhile frame ended

/-- A line that does not balance the parentheses is a line of the list. -/
theorem InsideList.next (there : Site.at? (Line.ofRaws raws) (last + 1) = some site)
    (ordered : first ≤ last)
    (inside : InsideList (Line.ofRaws raws) first last (stateBefore (Line.ofRaws raws) (last + 1)))
    (unclosed : 0 < openParens (Line.ofRaws raws) first (last + 1)) :
    InsideList (Line.ofRaws raws) first (last + 1) (stateBefore (Line.ofRaws raws) (last + 2)) := by
  obtain ⟨before, raw, written⟩ := Line.exists_ofRaw_of_mem (Site.mem_of_at? there)
  obtain ⟨block, open', depth⟩ := Option.map_eq_some_iff.mp inside.depth
  obtain ⟨blankRun, next⟩ := lineNext_of_paramBlock written open'
  have parens := openParens_succ there ordered
  -- Whether or not the line has code, only the count of parentheses changes.
  have goesOn : lineNext site (stateBefore (Line.ofRaws raws) (last + 1)) =
      { stateBefore (Line.ofRaws raws) (last + 1) with
        paramBlock := some { block with depth := openParens (Line.ofRaws raws) first (last + 1) }
        blankRun } := by
    rw [next]
    by_cases coded : site.line.hasCode
    · have deeper : block.depth + Text.excess '(' ')' site.line.code =
          openParens (Line.ofRaws raws) first (last + 1) := by rw [parens, depth]
      rw [if_pos coded]
      simp only [ParamBlock.continued, deeper, if_pos unclosed]
    · rw [Line.excess_of_codeless (by decide) (by decide) (by simpa using coded), Int.add_zero]
        at parens
      rw [if_neg coded, parens, ← depth, ← open']
  obtain ⟨count, frames, cases, some, ended⟩ := inside.frames
  have few := CaseBlock.finished_le (last + 1) (stateBefore (Line.ofRaws raws) (last + 1)).cases
  rw [stateBefore_succ there, advance_eq, goesOn, Site.index_of_at? there]
  exact
    { depth := rfl
      nextIndent := inside.nextIndent
      types := inside.types
      pendingType := inside.pendingType
      inDefinition := inside.inDefinition
      frames := by
        refine ⟨count + CaseBlock.finished (last + 1)
          (stateBefore (Line.ofRaws raws) (last + 1)).cases, ?_, ?_, ?_, ?_⟩
        · simp only [frames, List.drop_drop]
        · simp only [cases, List.drop_drop]
        · have length := congrArg List.length cases
          rw [List.length_drop] at length
          omega
        · intro frame member
          rw [List.take_add, List.mem_append, ← cases] at member
          rcases member with earlier | now
          · have bounds := ended frame earlier
            omega
          · rw [endLine_of_mem_take_finished now]
            omega }

theorem InsideList.of_listOpen (listed : ListOpen (Line.ofRaws raws) first last)
    (within : last < (Line.ofRaws raws).length) :
    InsideList (Line.ofRaws raws) first last (stateBefore (Line.ofRaws raws) (last + 1)) := by
  obtain ⟨ordered, ⟨site, there, starts⟩, unclosed⟩ := listed
  induction last, ordered using Nat.le_induction with
  | base => exact insideList_self there starts
  | succ last ordered inductionHypothesis =>
    obtain ⟨next, thereNext, -⟩ := Site.exists_at? within
    have inside := inductionHypothesis (Nat.lt_of_succ_lt within) fun line behind early =>
      unclosed line behind (Nat.le_succ_of_le early)
    exact inside.next thereNext ordered (unclosed (last + 1) (Nat.le_succ_of_le ordered) le_rfl)

/-- The line with code that balances the parentheses closes the list. -/
theorem InsideList.closes (there : Site.at? (Line.ofRaws raws) (last + 1) = some site)
    (ordered : first ≤ last)
    (inside : InsideList (Line.ofRaws raws) first last (stateBefore (Line.ofRaws raws) (last + 1)))
    (unclosed : 0 < openParens (Line.ofRaws raws) first last)
    (closed : openParens (Line.ofRaws raws) first (last + 1) ≤ 0) :
    site.line.hasCode ∧ ∃ block blankRun,
      block.depth + Text.excess '(' ')' site.line.code ≤ 0 ∧
      lineNext site (stateBefore (Line.ofRaws raws) (last + 1)) =
        ParamBlock.continued block site.line.code
          { stateBefore (Line.ofRaws raws) (last + 1) with blankRun } := by
  obtain ⟨before, raw, written⟩ := Line.exists_ofRaw_of_mem (Site.mem_of_at? there)
  obtain ⟨block, open', depth⟩ := Option.map_eq_some_iff.mp inside.depth
  obtain ⟨blankRun, next⟩ := lineNext_of_paramBlock written open'
  have parens := openParens_succ there ordered
  have coded : site.line.hasCode := by
    rw [← Bool.not_eq_false]
    intro codeless
    rw [Line.excess_of_codeless (by decide) (by decide) codeless] at parens
    omega
  refine ⟨coded, block, blankRun, by omega, ?_⟩
  rw [next, if_pos coded]

theorem paramBlock_continued {block : ParamBlock} {code : List Char}
    (closed : block.depth + Text.excess '(' ')' code ≤ 0) (state : ScanState) :
    (ParamBlock.continued block code state).paramBlock = none := by
  simp only [ParamBlock.continued, if_neg (Int.not_lt.mpr closed)]
  repeat' split
  all_goals rfl

theorem paramBlock_stateBefore_succ (there : Site.at? lines last = some site) :
    (stateBefore lines (last + 1)).paramBlock = (lineNext site (stateBefore lines last)).paramBlock := by
  rw [stateBefore_succ there, advance_eq]

/-- A line that gets into a list starts one. -/
theorem listOpen_self (there : Site.at? lines last = some site)
    (noBlock : (stateBefore lines last).paramBlock = none)
    (inside : (stateBefore lines (last + 1)).paramBlock.isSome) : ListOpen lines last last := by
  have starts : startsList site.line (stateBefore lines last) := by
    rw [← Bool.not_eq_false]
    intro other
    rw [paramBlock_stateBefore_succ there, paramBlock_lineNext noBlock other] at inside
    cases inside
  refine ⟨le_rfl, ⟨site, there, starts⟩, ?_⟩
  intro line behind early
  rw [Nat.le_antisymm early behind, openParens_self there]
  simp only [startsList, ParamBlock.opens, Bool.and_eq_true, decide_eq_true_eq] at starts
  exact starts.2.2

/-- Where a list is open there is a line that it starts on. -/
theorem exists_listOpen (within : last < (Line.ofRaws raws).length)
    (inside : (stateBefore (Line.ofRaws raws) (last + 1)).paramBlock.isSome) :
    ∃ first, ListOpen (Line.ofRaws raws) first last := by
  induction last with
  | zero =>
    obtain ⟨site, there, -⟩ := Site.exists_at? within
    exact ⟨0, listOpen_self there rfl inside⟩
  | succ last inductionHypothesis =>
    obtain ⟨site, there, -⟩ := Site.exists_at? within
    cases before : (stateBefore (Line.ofRaws raws) (last + 1)).paramBlock with
    | none => exact ⟨last + 1, listOpen_self there before inside⟩
    | some block =>
      obtain ⟨first, listed⟩ := inductionHypothesis (Nat.lt_of_succ_lt within) (by simp [before])
      have insideBefore := InsideList.of_listOpen listed (Nat.lt_of_succ_lt within)
      refine ⟨first, Nat.le_succ_of_le listed.ordered, listed.starts, ?_⟩
      intro line behind early
      rcases Nat.lt_or_eq_of_le early with earlier | rfl
      · exact listed.unclosed line behind (Nat.le_of_lt_succ earlier)
      · by_contra closed
        obtain ⟨-, block, blankRun, closes, next⟩ := insideBefore.closes there listed.ordered
          (listed.unclosed last listed.ordered le_rfl) (Int.not_lt.mp closed)
        rw [paramBlock_stateBefore_succ there, next, paramBlock_continued closes] at inside
        cases inside

end Scan

/-- A list of parameters is open after a scanned line exactly if some line up to it started one and
its parentheses have been open since. As long as it is, its depth counts them, and the list leaves
alone what waits for the lines behind it; it is closed by the first line that balances them, which is
a line with code. -/
theorem paramBlock_run (settings : Settings) (raws : List (List Char)) {index : Nat}
    {record : Scan.Record} (scanned : (Scan.run settings (Line.ofRaws raws)).1[index]? = some record) :
    (record.state.paramBlock.isSome ↔ ∃ first, Scan.ListOpen (Line.ofRaws raws) first index) ∧
      (∀ first, Scan.ListOpen (Line.ofRaws raws) first index →
        Scan.InsideList (Line.ofRaws raws) first index record.state) ∧
      ∀ first last, Scan.ListOpen (Line.ofRaws raws) first last → last + 1 = index →
        Scan.openParens (Line.ofRaws raws) first index ≤ 0 →
        record.state.paramBlock = none ∧
          ∃ line, (Line.ofRaws raws)[index]? = some line ∧ line.hasCode := by
  obtain ⟨site, there, -⟩ := Scan.step_of_run scanned
  have within := Site.lt_length_of_at? there
  rw [Scan.state_of_run scanned]
  have listed : ∀ first, Scan.ListOpen (Line.ofRaws raws) first index →
      Scan.InsideList (Line.ofRaws raws) first index
        (Scan.stateBefore (Line.ofRaws raws) (index + 1)) :=
    fun first listed => Scan.InsideList.of_listOpen listed within
  refine ⟨⟨Scan.exists_listOpen within, ?_⟩, listed, ?_⟩
  · rintro ⟨first, open'⟩
    have depth := (listed first open').depth
    rw [← Option.isSome_map, depth]
    rfl
  · rintro first last open' rfl closed
    have inside := Scan.InsideList.of_listOpen open' (Nat.lt_of_succ_lt within)
    obtain ⟨coded, block, blankRun, closes, next⟩ := inside.closes there open'.ordered
      (open'.unclosed last open'.ordered le_rfl) closed
    refine ⟨?_, site.line, Site.getElem?_of_at? there, coded⟩
    rw [Scan.paramBlock_stateBefore_succ there, next, Scan.paramBlock_continued closes]

/-- The body of a case ends on a line of a list, behind a directive that is one as well. -/
theorem paramBlock_run_body_end :
    let raws := ["switch (x) \x7b", "  case 1:", "    f(a, g(b),", "#define H (",
      "      break;", "      c));"].map String.toList
    ∃ record, (Scan.run .default (Line.ofRaws raws)).1[4]? = some record ∧
      Scan.ListOpen (Line.ofRaws raws) 2 4 ∧ Scan.openParens (Line.ofRaws raws) 2 4 = 2 ∧
      record.state.indents = [0, 2] ∧ record.state.cases = [] ∧
      Scan.InsideList (Line.ofRaws raws) 2 4 record.state := by
  intro raws
  obtain ⟨record, found, state⟩ := @Scan.exists_record .default (Line.ofRaws raws) 4
    (by decide +kernel) (by decide +kernel)
  have indents : record.state.indents = [0, 2] := by
    rw [state]
    decide +kernel
  have cases : record.state.cases = [] := by
    rw [state]
    decide +kernel
  have listed : Scan.ListOpen (Line.ofRaws raws) 2 4 := by decide +kernel
  exact ⟨record, found, listed, by decide +kernel, indents, cases,
    (paramBlock_run .default raws found).2.1 2 listed⟩

end HouseStyle
