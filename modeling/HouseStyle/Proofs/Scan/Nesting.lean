import HouseStyle.Proofs.Scan.Depth

/-!
Contract: the bodies of cases end where their labels say, innermost first.

Owns: the bodies that labels enter, how far the look-ahead of a label is known to reach while its
body is open, and the order in which bodies end.
Does not own: the frames that bodies share with braces, which `Proofs.Scan.Depth` counts.

A label looks ahead for the last line of its body once, when it is scanned, and the body is left
only if it is the innermost one on that line. Labels of nested switches look ahead separately, from
different depths. A body stays open only as long as its look-ahead has not stopped, so every open
look-ahead can be resumed at the line reached. A label inside the body finds it at a depth of at
least one, because a label at depth zero stops it. From the label on, both look-aheads read the same
lines, the outer one deeper, and the deeper one stops no earlier.

Main statement: `cases_run`.
-/

namespace HouseStyle

namespace CaseBlock

/-! ## Where the reading of a body stops -/

/-- The last line of a body is the last one read before, or a line with code read now. -/
theorem scanBody_last {lines : List Line} {index : Nat} {depth : Int} {last : Option Nat}
    {marked : Bool} {endLine : Nat} (ends : (scanBody index depth last marked lines).last = some endLine) :
    last = some endLine ∨
      ∃ line, index ≤ endLine ∧ lines[endLine - index]? = some line ∧ line.hasCode := by
  induction lines generalizing index depth last marked with
  | nil => exact .inl ends
  | cons line rest inductionHypothesis =>
    have here : line.hasCode → index = endLine → ∃ found, index ≤ endLine ∧
        (line :: rest)[endLine - index]? = some found ∧ found.hasCode := by
      rintro coded rfl
      exact ⟨line, Nat.le_refl _, by rw [Nat.sub_self]; rfl, coded⟩
    have later : (∃ found, index + 1 ≤ endLine ∧ rest[endLine - (index + 1)]? = some found ∧
        found.hasCode) → ∃ found, index ≤ endLine ∧
        (line :: rest)[endLine - index]? = some found ∧ found.hasCode := by
      rintro ⟨found, behind, there, coded⟩
      refine ⟨found, by omega, ?_, coded⟩
      rwa [show endLine - index = endLine - (index + 1) + 1 by omega, List.getElem?_cons_succ]
    rw [scanBody] at ends
    by_cases coded : line.hasCode
    · rw [if_pos coded] at ends
      dsimp only at ends
      split at ends
      · exact .inl ends
      · split at ends
        · exact .inr (here coded (Option.some.inj ends))
        · split at ends
          · exact .inr (here coded (Option.some.inj ends))
          · rcases inductionHypothesis ends with same | found
            · exact .inr (here coded (Option.some.inj same))
            · exact .inr (later found)
    · rw [if_neg coded] at ends
      exact (inductionHypothesis ends).imp id later

/-- Every line with code that is read moves the end of a body on. -/
theorem le_scanBody_last {lines : List Line} {index : Nat} {depth : Int} {earlier : Nat}
    {marked : Bool} (read : earlier ≤ index) :
    ∃ endLine, (scanBody index depth (some earlier) marked lines).last = some endLine ∧
      earlier ≤ endLine := by
  induction lines generalizing index depth earlier marked with
  | nil => exact ⟨earlier, rfl, Nat.le_refl _⟩
  | cons line rest inductionHypothesis =>
    rw [scanBody]
    dsimp only
    split
    · split
      · exact ⟨earlier, rfl, Nat.le_refl _⟩
      · split
        · exact ⟨index, rfl, read⟩
        · split
          · exact ⟨index, rfl, read⟩
          · obtain ⟨endLine, ends, behind⟩ := inductionHypothesis (Nat.le_succ index)
            exact ⟨endLine, ends, Nat.le_trans read behind⟩
    · exact inductionHypothesis (Nat.le_succ_of_le read)

/-- Of two readings of the same lines the deeper one ends no earlier. -/
theorem scanBody_last_le {lines : List Line} {index : Nat} {inner outer : Int}
    {innerLast : Option Nat} {outerLast : Nat} {innerMarked outerMarked : Bool} {endLine : Nat}
    (inside : 0 ≤ inner) (deeper : inner < outer) (read : outerLast ≤ index)
    (behind : ∀ earlier ∈ innerLast, earlier ≤ outerLast)
    (ends : (scanBody index inner innerLast innerMarked lines).last = some endLine) :
    ∃ later, (scanBody index outer (some outerLast) outerMarked lines).last = some later ∧
      endLine ≤ later := by
  induction lines generalizing index inner outer innerLast outerLast innerMarked outerMarked with
  | nil => exact ⟨outerLast, rfl, behind _ ends⟩
  | cons line rest inductionHypothesis =>
    have nonzero : outer ≠ 0 := by omega
    rw [scanBody] at ends ⊢
    by_cases coded : line.hasCode
    · rw [if_pos coded] at ends ⊢
      -- While the inner reading goes on, the outer one is inside a block and cannot stop.
      simp only [nonzero, false_and, if_false]
      have stops : ∀ {earlier : Nat}, earlier ≤ index → ∃ later,
          (if outer + Text.excess '{' '}' line.stripped < 0 then
              (⟨some index, false, outerMarked⟩ : Body)
            else scanBody (index + 1) (outer + Text.excess '{' '}' line.stripped) (some index)
              (outerMarked || isMarked line) rest).last = some later ∧ earlier ≤ later := by
        intro earlier before
        split
        · exact ⟨index, rfl, before⟩
        · obtain ⟨later, there, after⟩ := le_scanBody_last (Nat.le_succ index)
          exact ⟨later, there, Nat.le_trans before after⟩
      dsimp only at ends
      split at ends
      · exact stops (Nat.le_trans (behind _ ends) read)
      · split at ends
        · exact stops (Nat.le_of_eq (Option.some.inj ends).symm)
        · split at ends
          · exact stops (Nat.le_of_eq (Option.some.inj ends).symm)
          · rw [if_neg (by omega)]
            refine inductionHypothesis (by omega) (by omega) (Nat.le_succ index) ?_ ends
            intro earlier same
            exact Nat.le_of_eq (Option.some.inj same).symm
    · rw [if_neg coded] at ends ⊢
      exact inductionHypothesis inside deeper (Nat.le_succ_of_le read) behind ends

/-! ## Open bodies -/

/-- The reading of a body whose lines up to an index are read goes on from there, at a depth relative
to its label, and finds the given end. -/
def Reads (lines : List Line) (index : Nat) (depth : Int) (endLine : Nat) : Prop :=
  ∃ last marked, (∀ earlier ∈ last, earlier < index) ∧
    (scanBody index depth last marked (lines.drop index)).last = some endLine

/-- A body that is open before the line of an index: its reading goes on from this line, at a depth
that is not negative, and ends with the line or behind it. -/
structure Open (lines : List Line) (index : Nat) (depth : Int) (endLine : Nat) : Prop where
  ahead : index ≤ endLine
  inside : 0 ≤ depth
  reads : Reads lines index depth endLine

variable {lines : List Line} {index endLine : Nat} {depth : Int} {site : Site}

theorem Open.exists_line (body : Open lines index depth endLine) :
    ∃ line, lines[endLine]? = some line ∧ line.hasCode := by
  obtain ⟨ahead, -, last, marked, before, ends⟩ := body
  rcases scanBody_last ends with read | ⟨line, -, there, coded⟩
  · have behind := before endLine read
    omega
  · rw [List.getElem?_drop, Nat.add_sub_of_le ahead] at there
    exact ⟨line, there, coded⟩

theorem Open.lt_length (body : Open lines index depth endLine) : endLine < lines.length := by
  obtain ⟨line, there, -⟩ := body.exists_line
  exact (List.getElem?_eq_some_iff.mp there).1

/-- Where the reading of a body goes on with a line, the line changes its depth by its braces. -/
theorem Reads.next (there : Site.at? lines index = some site) (reads : Reads lines index depth endLine)
    (further : site.line.hasCode → ¬ (depth = 0 ∧ (labelStart.fits site.line.stripped ∨
      site.line.stripped.head? = some '}')) ∧
      ¬ (depth = 0 ∧ breakStatement.fits site.line.stripped) ∧
        0 ≤ depth + Text.excess '{' '}' site.line.code) :
    Reads lines (index + 1) (depth + Text.excess '{' '}' site.line.code) endLine := by
  obtain ⟨last, marked, before, ends⟩ := reads
  rw [Site.drop_of_at? there, scanBody] at ends
  by_cases coded : site.line.hasCode
  · obtain ⟨noStop, noBreak, deep⟩ := further coded
    rw [if_pos coded] at ends
    dsimp only at ends
    rw [Line.excess_stripped] at ends
    rw [if_neg noStop, if_neg noBreak, if_neg (Int.not_lt.mpr deep)] at ends
    refine ⟨_, _, ?_, ends⟩
    intro earlier same
    cases same
    exact Nat.lt_succ_self _
  · obtain ⟨noOpener, noCloser⟩ := Line.not_mem_code_of_hasCode (by simpa using coded)
    rw [if_neg coded] at ends
    rw [Text.excess_of_not_mem noOpener noCloser, Int.add_zero]
    refine ⟨_, _, ?_, ends⟩
    intro earlier read
    exact Nat.lt_succ_of_lt (before earlier read)

/-- The reading of a body that ends with a line or behind it goes on with the line, unless it ends
there. -/
theorem Open.continues (there : Site.at? lines index = some site)
    (body : Open lines index depth endLine) (coded : site.line.hasCode) :
    ¬ (depth = 0 ∧ (labelStart.fits site.line.stripped ∨ site.line.stripped.head? = some '}')) ∧
      (index ≠ endLine → ¬ (depth = 0 ∧ breakStatement.fits site.line.stripped) ∧
        0 ≤ depth + Text.excess '{' '}' site.line.code) := by
  obtain ⟨ahead, -, last, marked, before, ends⟩ := body
  rw [Site.drop_of_at? there, scanBody, if_pos coded] at ends
  dsimp only at ends
  rw [Line.excess_stripped] at ends
  split at ends
  · have behind := before endLine ends
    omega
  next noStop =>
    refine ⟨noStop, fun further => ?_⟩
    split at ends
    · exact absurd (Option.some.inj ends) further
    next noBreak =>
      refine ⟨noBreak, ?_⟩
      split at ends
      · exact absurd (Option.some.inj ends) further
      next deep => exact Int.not_lt.mp deep

/-- A body that does not end with a line is open behind it. -/
theorem Open.next (there : Site.at? lines index = some site) (body : Open lines index depth endLine)
    (further : index ≠ endLine) :
    Open lines (index + 1) (depth + Text.excess '{' '}' site.line.code) endLine := by
  refine ⟨Nat.lt_of_le_of_ne body.ahead further, ?_, ?_⟩
  · by_cases coded : site.line.hasCode
    · exact ((body.continues there coded).2 further).2
    · obtain ⟨noOpener, noCloser⟩ := Line.not_mem_code_of_hasCode (by simpa using coded)
      rw [Text.excess_of_not_mem noOpener noCloser, Int.add_zero]
      exact body.inside
  · apply body.reads.next there
    intro coded
    obtain ⟨noStop, others⟩ := body.continues there coded
    exact ⟨noStop, others further⟩

/-- A body that is open at a label ends no earlier than the body of the label, unless the label
closes braces that it does not open. -/
theorem Open.body_last_le (there : Site.at? lines index = some site)
    (open' : Open lines index depth endLine) (coded : site.line.hasCode)
    (label : labelStart.fits site.line.stripped)
    (balanced : 0 ≤ Text.excess '{' '}' site.line.code) {inner : Nat}
    (ends : (body site).last = some inner) : inner ≤ endLine := by
  have deep : depth ≠ 0 := by
    intro zero
    exact (open'.continues there coded).1 ⟨zero, .inl label⟩
  have inside := open'.inside
  obtain ⟨-, -, last, marked, before, reading⟩ := open'
  rw [Site.drop_of_at? there, scanBody, if_pos coded] at reading
  simp only [deep, false_and, if_false, Line.excess_stripped] at reading
  rw [if_neg (by omega)] at reading
  rw [body, Site.index_of_at? there, Site.after_of_at? there] at ends
  obtain ⟨later, same, behind⟩ := scanBody_last_le (Int.le_refl 0)
    (show 0 < depth + Text.excess '{' '}' site.line.code by omega) (Nat.le_succ index)
    (fun earlier none => absurd none (Option.not_mem_none _)) ends
  rw [reading] at same
  cases same
  exact behind

theorem body_last_of_frameEnd? (framed : frameEnd? site = some endLine) :
    (body site).last = some endLine := by
  obtain ⟨⟨label, gap, rest⟩, -, framed⟩ := Option.bind_eq_some_iff.mp framed
  dsimp only at framed
  split at framed
  · exact framed
  · cases framed

/-- The body of a label is open behind it. -/
theorem open_of_frameEnd? (there : Site.at? lines index = some site)
    (framed : frameEnd? site = some endLine) : Open lines (index + 1) 0 endLine := by
  have ends := body_last_of_frameEnd? framed
  rw [body, Site.index_of_at? there, Site.after_of_at? there] at ends
  refine ⟨?_, Int.le_refl 0, none, false, fun earlier none => absurd none (Option.not_mem_none _),
    ends⟩
  rcases scanBody_last ends with none | ⟨-, behind, -⟩
  · cases none
  · exact behind

/-! ## Ends in order -/

/-- Bodies that are open before the line of an index, innermost first: none ends before one inside
it. -/
structure Nested (lines : List Line) (index : Nat) (cases : List CaseFrame) : Prop where
  opened : ∀ frame ∈ cases, ∃ depth, Open lines index depth frame.endLine
  sorted : cases.Pairwise fun inner outer => inner.endLine ≤ outer.endLine

/-- Where bodies end in order, those that end with a line are the innermost ones. -/
theorem drop_finished {cases : List CaseFrame} (ahead : ∀ frame ∈ cases, index ≤ frame.endLine)
    (sorted : cases.Pairwise fun inner outer => inner.endLine ≤ outer.endLine) :
    cases.drop (finished index cases) = cases.filter fun frame => index < frame.endLine := by
  induction cases with
  | nil => rfl
  | cons frame cases inductionHypothesis =>
    obtain ⟨around, rest⟩ := List.pairwise_cons.mp sorted
    have here := ahead frame List.mem_cons_self
    by_cases ends : frame.endLine = index
    · rw [finished_cons ends, List.drop_succ_cons, List.filter_cons_of_neg (by simp [ends]),
        inductionHypothesis (fun other member => ahead other (List.mem_cons_of_mem _ member)) rest]
    · have all : (frame :: cases).filter (fun frame => index < frame.endLine) = frame :: cases := by
        apply List.filter_eq_self.mpr
        intro other member
        rcases List.mem_cons.mp member with rfl | outer
        · exact decide_eq_true (by omega)
        · have behind := around other outer
          exact decide_eq_true (by omega)
      rw [finished_cons_of_ne ends, List.drop_zero, all]

end CaseBlock

namespace Scan

/-! ## The bodies that labels enter -/

/-- The body for which a line opens a frame, if the line is a label with a body. -/
def entered? (site : Site) (state : ScanState) : Option CaseFrame :=
  if isStatement site.line state && CaseBlock.isLabel site.line.code then
    (CaseBlock.frameEnd? site).map fun endLine =>
      ⟨endLine, Indent.expectedAt site.line state + indentUnit⟩
  else none

variable {lines : List Line} {index : Nat} {site : Site} {state : ScanState}

theorem label_of_entered? {frame : CaseFrame} (entered : entered? site state = some frame) :
    isStatement site.line state ∧ CaseBlock.isLabel site.line.code ∧
      CaseBlock.frameEnd? site = some frame.endLine := by
  unfold entered? at entered
  split at entered
  next isLabel =>
    obtain ⟨statement, label⟩ := Bool.and_eq_true_iff.mp isLabel
    obtain ⟨endLine, framed, rfl⟩ := Option.map_eq_some_iff.mp entered
    exact ⟨statement, label, framed⟩
  next => cases entered

theorem cases_labelled (site : Site) (state : ScanState) :
    (Indent.labelled site state).cases =
      (if CaseBlock.isLabel site.line.code then
        (CaseBlock.frameEnd? site).map fun endLine =>
          (⟨endLine, Indent.expectedAt site.line state + indentUnit⟩ : CaseFrame)
      else none).toList ++ state.cases := by
  have outside : (Indent.outside site.line state).cases = state.cases := by
    unfold Indent.outside
    split <;> rfl
  unfold Indent.labelled
  dsimp only
  split
  · cases CaseBlock.frameEnd? site with
    | none => exact outside
    | some endLine => exact congrArg (_ :: ·) outside
  · exact outside

theorem cases_statementNext (site : Site) (state : ScanState) :
    (statementNext site state).cases = (Indent.labelled site state).cases := by
  have settled : (Indent.settled site state).cases = (Indent.labelled site state).cases := by
    simp only [Indent.settled, Indent.followBraces]
    generalize Text.excess '{' '}' _ = net
    repeat' split
    all_goals rfl
  unfold statementNext
  dsimp only
  split
  · exact settled
  · obtain ⟨types, pendingType, same⟩ := ScanState.exists_typeScope_settled site.index
      site.line.code (Indent.settled site state)
    rw [same]
    exact settled

/-- Only labels enter bodies. -/
theorem cases_lineNext (site : Site) (state : ScanState) :
    (lineNext site state).cases = (entered? site state).toList ++ state.cases := by
  unfold entered?
  by_cases statement : isStatement site.line state
  · have expected : Indent.expectedAt site.line { state with blankRun := 0 } =
        Indent.expectedAt site.line state := by
      unfold Indent.expectedAt Indent.outside
      split <;> rfl
    rw [lineNext_of_isStatement statement, cases_statementNext, cases_labelled, expected, statement]
    simp only [Bool.true_and]
  · obtain ⟨frames, nextIndent, paramBlock, blankRun, inDefinition, same⟩ :=
      exists_lineNext_of_not_isStatement (by simpa using statement)
    rw [same]
    simp [statement]

/-- What the indices before one give, the latest first. -/
def collect {Entry : Type} (given : Nat → Option Entry) : Nat → List Entry
  | 0 => []
  | index + 1 => (given index).toList ++ collect given index

/-- What the indices before one give is what those before an earlier one give, behind what those in
between do. -/
theorem exists_collect_eq_append {Entry : Type} (given : Nat → Option Entry) {earlier : Nat}
    (before : earlier ≤ index) : ∃ inner, collect given index = inner ++ collect given earlier ∧
      ∀ entry ∈ inner, ∃ between, earlier ≤ between ∧ between < index ∧
        given between = some entry := by
  obtain ⟨distance, rfl⟩ := Nat.exists_eq_add_of_le before
  clear before
  induction distance with
  | zero => exact ⟨[], rfl, fun entry member => absurd member List.not_mem_nil⟩
  | succ distance inductionHypothesis =>
    obtain ⟨inner, split, places⟩ := inductionHypothesis
    rw [← Nat.add_assoc, collect, split, ← List.append_assoc]
    refine ⟨_, rfl, ?_⟩
    intro entry member
    rcases List.mem_append.mp member with here | further
    · exact ⟨earlier + distance, Nat.le_add_right _ _, by omega, Option.mem_toList.mp here⟩
    · obtain ⟨between, behind, within, found⟩ := places entry further
      exact ⟨between, behind, by omega, found⟩

/-- The body for which the line of an index opens a frame. -/
def enteredAt? (lines : List Line) (index : Nat) : Option CaseFrame :=
  (Site.at? lines index).bind fun site => entered? site (stateBefore lines index)

/-- The bodies for which the lines before an index open frames, the latest first. -/
def enteredBefore (lines : List Line) (index : Nat) : List CaseFrame :=
  collect (enteredAt? lines) index

/-- No label that is scanned before an index closes more braces than it opens. -/
def LabelsBalanced (lines : List Line) (stop : Nat) : Prop :=
  ∀ index < stop, ∀ site ∈ Site.at? lines index, isStatement site.line (stateBefore lines index) →
    CaseBlock.isLabel site.line.code → site.line.code.count '}' ≤ site.line.code.count '{'

instance (lines : List Line) (stop : Nat) : Decidable (LabelsBalanced lines stop) := by
  unfold LabelsBalanced
  infer_instance

/-- Before the bodies that end with it are closed, a line leaves bodies that end in order and not
before it. -/
theorem nested_lineNext (there : Site.at? lines index = some site)
    (balanced : isStatement site.line state → CaseBlock.isLabel site.line.code →
      site.line.code.count '}' ≤ site.line.code.count '{')
    (nested : CaseBlock.Nested lines index state.cases) :
    (∀ frame ∈ (lineNext site state).cases,
        (∃ depth, CaseBlock.Open lines (index + 1) depth frame.endLine) ∨ frame.endLine = index) ∧
      (lineNext site state).cases.Pairwise fun inner outer => inner.endLine ≤ outer.endLine := by
  have outer : ∀ frame ∈ state.cases,
      (∃ depth, CaseBlock.Open lines (index + 1) depth frame.endLine) ∨ frame.endLine = index := by
    intro frame member
    by_cases ends : frame.endLine = index
    · exact .inr ends
    · obtain ⟨depth, body⟩ := nested.opened frame member
      exact .inl ⟨_, body.next there (Ne.symm ends)⟩
  rw [cases_lineNext]
  cases entered : entered? site state with
  | none => exact ⟨outer, nested.sorted⟩
  | some frame =>
    obtain ⟨statement, label, framed⟩ := label_of_entered? entered
    have coded := hasCode_of_isStatement statement
    have surplus : 0 ≤ Text.excess '{' '}' site.line.code := by
      have count := balanced statement label
      rw [Text.excess]
      omega
    have starts : CaseBlock.labelStart.fits site.line.stripped :=
      (Bool.and_eq_true_iff.mp label).1
    constructor
    · intro other member
      rcases List.mem_cons.mp member with rfl | before
      · exact .inl ⟨_, CaseBlock.open_of_frameEnd? there framed⟩
      · exact outer other before
    · refine List.pairwise_cons.mpr ⟨?_, nested.sorted⟩
      intro other member
      obtain ⟨depth, body⟩ := nested.opened other member
      exact body.body_last_le there coded starts surplus (CaseBlock.body_last_of_frameEnd? framed)

/-- A line closes the bodies that end with it and no others. -/
theorem cases_advance (there : Site.at? lines index = some site)
    (balanced : isStatement site.line state → CaseBlock.isLabel site.line.code →
      site.line.code.count '}' ≤ site.line.code.count '{')
    (nested : CaseBlock.Nested lines index state.cases) :
    (advance site state).cases =
        (lineNext site state).cases.filter (fun frame => index < frame.endLine) ∧
      CaseBlock.Nested lines (index + 1) (advance site state).cases := by
  obtain ⟨opened, sorted⟩ := nested_lineNext there balanced nested
  have closed : (advance site state).cases =
      (lineNext site state).cases.filter fun frame => index < frame.endLine := by
    show (CaseBlock.closeFinished site.index (lineNext site state)).cases = _
    rw [CaseBlock.closeFinished, CaseBlock.closeFrames_eq, Site.index_of_at? there]
    refine CaseBlock.drop_finished ?_ sorted
    intro frame member
    rcases opened frame member with ⟨depth, behind⟩ | ends
    · exact Nat.le_of_succ_le behind.ahead
    · exact Nat.le_of_eq ends.symm
  refine ⟨closed, ?_, ?_⟩
  · intro frame member
    rw [closed, List.mem_filter, decide_eq_true_eq] at member
    obtain ⟨before, further⟩ := member
    rcases opened frame before with behind | ends
    · exact behind
    · omega
  · rw [closed]
    exact sorted.filter _

/-- Before every line the open bodies end in order, and are those entered that end with the line or
behind it. -/
theorem nested_stateBefore {stop : Nat} (balanced : LabelsBalanced lines stop) :
    ∀ index ≤ stop, index ≤ lines.length →
      CaseBlock.Nested lines index (stateBefore lines index).cases ∧
        (stateBefore lines index).cases =
          (enteredBefore lines index).filter fun frame => index ≤ frame.endLine := by
  intro index within inside
  induction index with
  | zero => exact ⟨⟨fun frame member => absurd member List.not_mem_nil, .nil⟩, rfl⟩
  | succ index inductionHypothesis =>
    obtain ⟨nested, kept⟩ :=
      inductionHypothesis (Nat.le_of_succ_le within) (Nat.le_of_succ_le inside)
    obtain ⟨site, there, -⟩ := Site.exists_at? inside
    obtain ⟨closed, next⟩ := cases_advance there (balanced index within site there) nested
    rw [stateBefore_succ there]
    refine ⟨next, ?_⟩
    have here : enteredAt? lines index = entered? site (stateBefore lines index) := by
      rw [enteredAt?, there, Option.bind_some]
    rw [closed, cases_lineNext, kept, enteredBefore, enteredBefore, collect, here,
      List.filter_append, List.filter_append, List.filter_filter]
    have stronger : ∀ frame : CaseFrame,
        (decide (index < frame.endLine) && decide (index ≤ frame.endLine)) =
          decide (index + 1 ≤ frame.endLine) := by
      intro frame
      rw [← Bool.decide_and, decide_eq_decide]
      omega
    simp only [stronger, Nat.succ_le_iff]

/-- The bodies of cases that are open behind the line of an index, innermost first: they are those
entered so far that end further down, none ends before one inside it, and none is left open at the
end of the file. -/
structure Housed (lines : List Line) (index : Nat) (cases : List CaseFrame) : Prop where
  ahead : ∀ frame ∈ cases, index < frame.endLine
  coded : ∀ frame ∈ cases, ∃ line, lines[frame.endLine]? = some line ∧ line.hasCode
  sorted : cases.Pairwise fun inner outer => inner.endLine ≤ outer.endLine
  kept : cases = (enteredBefore lines (index + 1)).filter fun frame => index < frame.endLine
  emptied : index + 1 = lines.length → cases = []

end Scan

/-- Where no label closes braces that it does not open, the bodies of cases nest, and every line
closes the bodies that end with it and no others. -/
theorem cases_run (settings : Settings) {lines : List Line} {index : Nat} {record : Scan.Record}
    (scanned : (Scan.run settings lines).1[index]? = some record)
    (balanced : Scan.LabelsBalanced lines (index + 1)) :
    Scan.Housed lines index record.state.cases ∧
      ∃ site, Site.at? lines index = some site ∧
        record.state.cases = (Scan.lineNext site (Scan.stateBefore lines index)).cases.filter
          fun frame => frame.endLine ≠ index := by
  obtain ⟨site, there, -⟩ := Scan.step_of_run scanned
  have inside := Site.lt_length_of_at? there
  obtain ⟨before, -⟩ := Scan.nested_stateBefore balanced index (Nat.le_succ index)
    (Nat.le_of_lt inside)
  obtain ⟨nested, kept⟩ := Scan.nested_stateBefore balanced (index + 1) (Nat.le_refl _) inside
  have balancedHere := balanced index (Nat.lt_succ_self index) site there
  obtain ⟨closed, -⟩ := Scan.cases_advance there balancedHere before
  obtain ⟨opened, -⟩ := Scan.nested_lineNext there balancedHere before
  have after := Scan.state_of_run scanned
  rw [← after] at nested kept
  constructor
  · constructor
    case ahead =>
      intro frame member
      obtain ⟨depth, body⟩ := nested.opened frame member
      exact body.ahead
    case coded =>
      intro frame member
      obtain ⟨depth, body⟩ := nested.opened frame member
      exact body.exists_line
    case sorted => exact nested.sorted
    case kept => exact kept
    case emptied =>
      intro last
      rw [List.eq_nil_iff_forall_not_mem]
      intro frame member
      obtain ⟨depth, body⟩ := nested.opened frame member
      have behind := body.lt_length
      have ahead := body.ahead
      omega
  · refine ⟨site, there, ?_⟩
    rw [after, Scan.stateBefore_succ there, closed]
    apply List.filter_congr
    intro frame member
    rw [decide_eq_decide]
    rcases opened frame member with ⟨depth, behind⟩ | ends
    · have further := behind.ahead
      omega
    · omega

/-- Two labels of nested switches: the inner body ends before the outer one. -/
theorem cases_run_nested :
    let lines := Line.ofRaws
      (["switch (x) \x7b", "case 1:", "switch (y) \x7b", "case 2:", "a;", "break;", "\x7d", "break;",
        "\x7d"].map String.toList)
    Scan.LabelsBalanced lines 5 ∧ ∃ record, (Scan.run .default lines).1[4]? = some record ∧
      record.state.cases.map CaseFrame.endLine = [5, 7] ∧
        Scan.Housed lines 4 record.state.cases := by
  intro lines
  have balanced : Scan.LabelsBalanced lines 5 := by decide +kernel
  have scanned : ((Scan.run .default lines).1[4]?.map fun record =>
      record.state.cases.map CaseFrame.endLine) = some [5, 7] := by
    decide +kernel
  obtain ⟨record, found, ends⟩ := Option.map_eq_some_iff.mp scanned
  exact ⟨balanced, record, found, ends, (cases_run .default found balanced).1⟩

end HouseStyle
