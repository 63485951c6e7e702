import HouseStyle.Proofs.Scan.Lists

/-!
Contract: the braces on the lines of a list of parameters or arguments.

Owns: the change of the number of frames from the line before a list to the line that closes it.
Does not own: which lines a list has, which `Proofs.Scan.Lists` treats.

Of all the braces on the lines of a list two have a frame: a closing brace at the start of the first
line leaves one, and an opening brace at the end of the last line enters one. The other braces of
these lines, and all those between them, are not followed, so that the frames agree with the braces
only where these others balance.

Main statement: `depth_run_list`.
-/

namespace HouseStyle

/-! ## The braces at the ends of lines -/

/-- The code of a line before the opening brace that it ends with, if it ends with one. -/
def Line.front (line : Line) : List Char :=
  if line.stripped.getLast? == some '{' then line.stripped.dropLast else line.stripped

/-- The braces of a line are those before the opening brace that it ends with, and this one. -/
theorem Line.excess_front (line : Line) :
    Text.excess '{' '}' line.code =
      Text.excess '{' '}' line.front + if line.stripped.getLast? = some '{' then 1 else 0 := by
  rw [← excess_stripped]
  unfold front
  by_cases opens : line.stripped.getLast? = some '{'
  · obtain ⟨rest, split⟩ := List.getLast?_eq_some_iff.mp opens
    rw [if_pos (beq_iff_eq.mpr opens), if_pos opens, split, List.dropLast_concat,
      Text.excess_append]
    rfl
  · rw [if_neg (by simpa using opens), if_neg opens, Int.add_zero]

namespace Scan

/-- The braces that the lines from one index to another open and do not close. -/
def netBraces (lines : List Line) (first last : Nat) : Int :=
  Text.excess '{' '}' (((lines.take (last + 1)).drop first).flatMap Line.code)

/-- The braces on the lines of a list that have no frame: all but the closing brace that the first
line starts with and the opening brace that the last line ends with. -/
def unframedBraces (opening closing : Line) (between : List Line) : Int :=
  Text.excess '{' '}' (opening.body ++ between.flatMap Line.code ++ closing.front)

variable {lines : List Line} {first last : Nat} {site : Site} {state : ScanState}

/-- The braces of the lines of a list are those that have a frame and those that have none. -/
theorem netBraces_eq {opening closing : Line} (ordered : first < last)
    (firstLine : lines[first]? = some opening) (lastLine : lines[last]? = some closing) :
    netBraces lines first last =
      unframedBraces opening closing ((lines.take last).drop (first + 1)) +
        (if closing.stripped.getLast? = some '{' then 1 else 0) -
        (if opening.stripped.head? = some '}' then 1 else 0) := by
  obtain ⟨within, there⟩ := List.getElem?_eq_some_iff.mp lastLine
  have early : first < (lines.take last).length := by
    rw [List.length_take]
    omega
  have start : (lines.take last)[first] = opening := by
    rw [List.getElem_take]
    exact (List.getElem?_eq_some_iff.mp firstLine).2
  have listed : (lines.take (last + 1)).drop first =
      opening :: ((lines.take last).drop (first + 1) ++ [closing]) := by
    rw [List.take_succ_eq_append_getElem within, there, List.drop_append_of_le_length early.le,
      List.drop_eq_getElem_cons early, start, List.cons_append]
  rw [netBraces, listed, List.flatMap_cons, List.flatMap_append, List.flatMap_singleton,
    Text.excess_append, Text.excess_append, Line.excess_code opening, Line.excess_front closing,
    unframedBraces, Text.excess_append, Text.excess_append]
  omega

/-! ## A single line -/

theorem length_frames_outside (line : Line) (state : ScanState) :
    (Indent.outside line state).frames.length =
      state.frames.length - if line.stripped.head? = some '}' then 1 else 0 := by
  unfold Indent.outside
  by_cases closes : line.stripped.head? = some '}'
  · rw [if_pos (beq_iff_eq.mpr closes), if_pos closes]
    exact List.length_tail
  · rw [if_neg (by simpa using closes), if_neg closes, Nat.sub_zero]

/-- The line that closes a list enters a frame for the opening brace that it ends with. -/
theorem frames_continued {block : ParamBlock} {line : Line}
    (closed : block.depth + Text.excess '(' ')' line.code ≤ 0) (state : ScanState) :
    (ParamBlock.continued block line.code state).frames.length =
        state.frames.length + (if line.stripped.getLast? = some '{' then 1 else 0) ∧
      (ParamBlock.continued block line.code state).cases = state.cases := by
  simp only [ParamBlock.continued, if_neg (Int.not_lt.mpr closed)]
  by_cases opens : line.stripped.getLast? = some '{'
  · rw [if_pos (beq_iff_eq.mpr (show (Text.trim line.code).getLast? = _ from opens)), if_pos opens]
    exact ⟨rfl, rfl⟩
  · rw [if_neg (by simpa [Line.stripped] using opens), if_neg opens]
    split <;> exact ⟨rfl, rfl⟩

/-! ## A whole list -/

variable {raws : List (List Char)}

/-- The line that starts a list leaves the frame of the closing brace that it starts with. -/
theorem frames_firstLine (there : Site.at? lines first = some site)
    (starts : startsList site.line (stateBefore lines first))
    (unlabelled : CaseBlock.isLabel site.line.code = false)
    (noEnd : ∀ frame ∈ (stateBefore lines first).cases, frame.endLine ≠ first) :
    (stateBefore lines (first + 1)).frames.length = (stateBefore lines first).frames.length -
        (if site.line.stripped.head? = some '}' then 1 else 0) ∧
      (stateBefore lines (first + 1)).cases = (stateBefore lines first).cases := by
  have next : (lineNext site (stateBefore lines first)).frames =
        (Indent.outside site.line (stateBefore lines first)).frames ∧
      (lineNext site (stateBefore lines first)).cases = (stateBefore lines first).cases := by
    rw [lineNext_of_startsList starts]
    simp only [ParamBlock.opened, Indent.labelled, unlabelled, Bool.false_eq_true, if_false]
    unfold Indent.outside
    split <;> exact ⟨rfl, rfl⟩
  rw [stateBefore_succ there, advance_eq, next.2, next.1, Site.index_of_at? there,
    CaseBlock.finished_eq_zero noEnd]
  exact ⟨length_frames_outside _ _, rfl⟩

/-- Where no body ends on its lines, a list keeps the frames of its first line. -/
theorem frames_of_listOpen (listed : ListOpen (Line.ofRaws raws) first last)
    (within : last < (Line.ofRaws raws).length)
    (noEnd : ∀ frame ∈ (stateBefore (Line.ofRaws raws) (first + 1)).cases,
      frame.endLine ≤ first ∨ last < frame.endLine) :
    (stateBefore (Line.ofRaws raws) (last + 1)).frames =
        (stateBefore (Line.ofRaws raws) (first + 1)).frames ∧
      (stateBefore (Line.ofRaws raws) (last + 1)).cases =
        (stateBefore (Line.ofRaws raws) (first + 1)).cases := by
  obtain ⟨count, frames, cases, few, ended⟩ := (InsideList.of_listOpen listed within).frames
  have none : count = 0 := by
    cases taken : (stateBefore (Line.ofRaws raws) (first + 1)).cases.take count with
    | nil =>
      have length := congrArg List.length taken
      rw [List.length_take, Nat.min_eq_left few] at length
      exact length
    | cons frame others =>
      have member : frame ∈ (stateBefore (Line.ofRaws raws) (first + 1)).cases.take count := by
        rw [taken]
        exact List.mem_cons_self
      have bounds := ended frame member
      have beyond := noEnd frame (List.mem_of_mem_take member)
      omega
  rw [frames, cases, none]
  exact ⟨rfl, rfl⟩

/-- The line that closes a list enters a frame for the opening brace that it ends with. -/
theorem frames_lastLine (there : Site.at? (Line.ofRaws raws) (last + 1) = some site)
    (listed : ListOpen (Line.ofRaws raws) first last)
    (closed : openParens (Line.ofRaws raws) first (last + 1) ≤ 0)
    (noEnd : ∀ frame ∈ (stateBefore (Line.ofRaws raws) (last + 1)).cases,
      frame.endLine ≠ last + 1) :
    (stateBefore (Line.ofRaws raws) (last + 2)).frames.length =
      (stateBefore (Line.ofRaws raws) (last + 1)).frames.length +
        if site.line.stripped.getLast? = some '{' then 1 else 0 := by
  have inside := InsideList.of_listOpen listed (Nat.lt_of_succ_lt (Site.lt_length_of_at? there))
  obtain ⟨-, block, blankRun, closes, next⟩ :=
    inside.closes there listed.ordered (listed.unclosed last listed.ordered le_rfl) closed
  obtain ⟨length, cases⟩ := frames_continued closes
    { stateBefore (Line.ofRaws raws) (last + 1) with blankRun }
  rw [stateBefore_succ there, advance_eq, next, cases, Site.index_of_at? there]
  simp only [CaseBlock.finished_eq_zero noEnd, List.drop_zero]
  exact length

end Scan

/-- From the line before a list of parameters to the line that closes it the number of frames
changes by the braces of these lines, less those that have no frame. No body of a case may end on
them, the first must be no label, and a closing brace that it starts with must have a frame. -/
theorem depth_run_list (settings : Settings) {raws : List (List Char)} {first last : Nat}
    {opening closing : Line} {record : Scan.Record}
    (scanned : (Scan.run settings (Line.ofRaws raws)).1[last + 1]? = some record)
    (listed : Scan.ListOpen (Line.ofRaws raws) first last)
    (closed : Scan.openParens (Line.ofRaws raws) first (last + 1) ≤ 0)
    (firstLine : (Line.ofRaws raws)[first]? = some opening)
    (lastLine : (Line.ofRaws raws)[last + 1]? = some closing)
    (unlabelled : CaseBlock.isLabel opening.code = false)
    (noEnd : ∀ frame ∈ (Scan.stateBefore (Line.ofRaws raws) first).cases,
      frame.endLine < first ∨ last + 1 < frame.endLine)
    (framed : opening.stripped.head? = some '}' →
      (Scan.stateBefore (Line.ofRaws raws) first).frames ≠ []) :
    (record.state.indents.length : Int) -
        (Scan.stateBefore (Line.ofRaws raws) first).indents.length =
      Scan.netBraces (Line.ofRaws raws) first (last + 1) -
        Scan.unframedBraces opening closing
          (((Line.ofRaws raws).take (last + 1)).drop (first + 1)) := by
  obtain ⟨closingSite, thereLast, -⟩ := Scan.step_of_run scanned
  have within := Site.lt_length_of_at? thereLast
  obtain ⟨openingSite, thereFirst, starts⟩ := listed.starts
  have openingLine : openingSite.line = opening :=
    Option.some.inj ((Site.getElem?_of_at? thereFirst).symm.trans firstLine)
  have closingLine : closingSite.line = closing :=
    Option.some.inj ((Site.getElem?_of_at? thereLast).symm.trans lastLine)
  subst openingLine closingLine
  have ordered := listed.ordered
  obtain ⟨left, casesFirst⟩ := Scan.frames_firstLine thereFirst starts unlabelled
    fun frame member => by
      have apart := noEnd frame member
      omega
  obtain ⟨kept, casesBetween⟩ := Scan.frames_of_listOpen listed (Nat.lt_of_succ_lt within)
    fun frame member => by
      have apart := noEnd frame (casesFirst ▸ member)
      omega
  have entered := Scan.frames_lastLine thereLast listed closed fun frame member => by
    have apart := noEnd frame (casesFirst ▸ casesBetween ▸ member)
    omega
  have braces := Scan.netBraces_eq (show first < last + 1 by omega) firstLine lastLine
  have frame : openingSite.line.stripped.head? = some '}' →
      0 < (Scan.stateBefore (Line.ofRaws raws) first).frames.length :=
    fun closer => List.length_pos_iff.mpr (framed closer)
  rw [kept, left] at entered
  rw [Scan.state_of_run scanned, braces]
  simp only [ScanState.indents, List.length_cons, List.length_reverse, entered]
  by_cases closer : openingSite.line.stripped.head? = some '}' <;>
    by_cases opener : closingSite.line.stripped.getLast? = some '{'
  all_goals
    simp only [closer, opener, if_true, if_false, forall_const] at frame ⊢
    omega

/-- A list between a closing brace at its start and an opening brace at its end: both have frames,
and the pair of braces between them balances. -/
theorem depth_run_list_else :
    let raws := ["void f(void)", "\x7b", "  if (a) \x7b", "  \x7d else if (g(\x7b1\x7d,",
      "    b)) \x7b"].map String.toList
    ∃ opening closing record, (Scan.run .default (Line.ofRaws raws)).1[3 + 1]? = some record ∧
      (Line.ofRaws raws)[3]? = some opening ∧ (Line.ofRaws raws)[3 + 1]? = some closing ∧
      Scan.ListOpen (Line.ofRaws raws) 3 3 ∧ Scan.openParens (Line.ofRaws raws) 3 (3 + 1) ≤ 0 ∧
      CaseBlock.isLabel opening.code = false ∧
      (∀ frame ∈ (Scan.stateBefore (Line.ofRaws raws) 3).cases,
        frame.endLine < 3 ∨ 3 + 1 < frame.endLine) ∧
      (opening.stripped.head? = some '}' → (Scan.stateBefore (Line.ofRaws raws) 3).frames ≠ []) ∧
      Scan.unframedBraces opening closing [] = 0 ∧
      (record.state.indents.length : Int) -
          (Scan.stateBefore (Line.ofRaws raws) 3).indents.length =
        Scan.netBraces (Line.ofRaws raws) 3 (3 + 1) - Scan.unframedBraces opening closing [] := by
  intro raws
  obtain ⟨record, found, -⟩ := @Scan.exists_record .default (Line.ofRaws raws) (3 + 1)
    (by decide +kernel) (by decide +kernel)
  let opening := Line.ofRaw .code "  \x7d else if (g(\x7b1\x7d,".toList
  let closing := Line.ofRaw .code "    b)) \x7b".toList
  have firstLine : (Line.ofRaws raws)[3]? = some opening := by decide +kernel
  have lastLine : (Line.ofRaws raws)[3 + 1]? = some closing := by decide +kernel
  have listed : Scan.ListOpen (Line.ofRaws raws) 3 3 := by decide +kernel
  have closed : Scan.openParens (Line.ofRaws raws) 3 (3 + 1) ≤ 0 := by decide +kernel
  have unlabelled : CaseBlock.isLabel opening.code = false := by decide +kernel
  have noEnd : ∀ frame ∈ (Scan.stateBefore (Line.ofRaws raws) 3).cases,
      frame.endLine < 3 ∨ 3 + 1 < frame.endLine := by decide +kernel
  have framed : opening.stripped.head? = some '}' →
      (Scan.stateBefore (Line.ofRaws raws) 3).frames ≠ [] := by decide +kernel
  exact ⟨opening, closing, record, found, firstLine, lastLine, listed, closed, unlabelled, noEnd,
    framed, by decide +kernel,
    depth_run_list .default found listed closed firstLine lastLine unlabelled noEnd framed⟩

/-- A closing brace behind a list leaves no frame, though no brace of the file is closed before it is
opened and no body ends on the list. -/
theorem depth_run_list_closing_brace :
    let lines := Line.ofRaws (["if (x) \x7b", "  g(a,", "    b); \x7d", "y();"].map String.toList)
    ∃ opening record, (Scan.run .default lines).1[1 + 1]? = some record ∧
      lines[1]? = some opening ∧ Scan.ListOpen lines 1 1 ∧ Scan.openParens lines 1 (1 + 1) ≤ 0 ∧
      CaseBlock.isLabel opening.code = false ∧ (Scan.stateBefore lines 1).cases = [] ∧
      (∀ text ∈ (lines.flatMap Line.code).inits, 0 ≤ Text.excess '{' '}' text) ∧
      Scan.netBraces lines 1 (1 + 1) = -1 ∧
      (record.state.indents.length : Int) - (Scan.stateBefore lines 1).indents.length ≠
        Scan.netBraces lines 1 (1 + 1) := by
  intro lines
  obtain ⟨record, found, state⟩ := @Scan.exists_record .default lines (1 + 1) (by decide +kernel)
    (by decide +kernel)
  refine ⟨Line.ofRaw .code "  g(a,".toList, record, found, ?_⟩
  rw [state]
  decide +kernel

end HouseStyle
