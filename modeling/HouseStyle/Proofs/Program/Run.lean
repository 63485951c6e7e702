import HouseStyle.Proofs.Program.Statement

/-!
Contract: functions that are laid out well are scanned without a complaint about layout.

Owns: what a scan does on the rows of statements, and the scan of a whole function.
Does not own: what a single row does, which `Proofs.Program.Row` says.

A statement leaves the frames and the open cases of a scan as it finds them, whatever is nested in
it. This follows by induction on the tree. The cases that are open around a statement end behind it,
so that none of them is closed inside.

Main statements: `kept_rows` and `records_text`.
-/

namespace HouseStyle.Program

variable {style : Style} {limit : Int}

/-! ## Single rows -/

/-- Cases that end at an index or behind it. -/
def OpenUntil (index : Nat) (cases : List CaseFrame) : Prop :=
  ∀ frame ∈ cases, index ≤ frame.endLine

theorem OpenUntil.mono {index earlier : Nat} {cases : List CaseFrame}
    (beyond : OpenUntil index cases) (before : earlier ≤ index) : OpenUntil earlier cases :=
  fun frame member => Nat.le_trans before (beyond frame member)

/-- Cases that end behind a line stay open there. -/
theorem closeFrames_of_openUntil {index : Nat} {cases : List CaseFrame}
    (beyond : OpenUntil (index + 1) cases) (frames : List Nat) :
    CaseBlock.closeFrames index frames cases = (frames, cases) := by
  cases cases with
  | nil => rfl
  | cons frame rest =>
    have behind : frame.endLine ≠ index := by
      have later := beyond frame List.mem_cons_self
      omega
    rw [CaseBlock.closeFrames, if_neg behind]

theorem closeFinished_nested {index : Nat} {frames inner : List Nat} {cases left : List CaseFrame}
    (closed : CaseBlock.closeFrames index frames cases = (inner, left)) (nextIndent : Option Int) :
    CaseBlock.closeFinished index (nested frames nextIndent cases) =
      nested inner nextIndent left := by
  have outcome : CaseBlock.closeFinished index (nested frames nextIndent cases) =
      nested (CaseBlock.closeFrames index frames cases).1 nextIndent
        (CaseBlock.closeFrames index frames cases).2 := rfl
  rw [outcome, closed]

theorem closeFinished_of_openUntil {index : Nat} {cases : List CaseFrame}
    (beyond : OpenUntil (index + 1) cases) (frames : List Nat) (nextIndent : Option Int) :
    CaseBlock.closeFinished index (nested frames nextIndent cases) =
      nested frames nextIndent cases :=
  closeFinished_nested (closeFrames_of_openUntil beyond frames) nextIndent

/-- A scan of rows between lines before and after, from one state to another, under a limit that can
be written: under any other limit the first row already fails. -/
def Passes (style : Style) (limit : Int) (index : Nat) (before : List Line) (state : ScanState)
    (rows : List Placed) (after : List Line) (next : ScanState) : Prop :=
  (Settings.of style limit).Writable →
    Scan.Course (.of style limit) index before state (rows.map Placed.line) after next

variable {index : Nat} {before after : List Line} {state next : ScanState} {frames : List Nat}
  {nextIndent : Option Int} {cases : List CaseFrame} {level : Nat}

theorem Passes.append {first second : List Placed} {middle : ScanState}
    (earlier : Passes style limit index before state first (second.map Placed.line ++ after) middle)
    (later : Passes style limit (index + first.length) ((first.map Placed.line).reverse ++ before)
      middle second after next) :
    Passes style limit index before state (first ++ second) after next := by
  intro writable
  rw [List.map_append]
  apply Scan.Course.append (earlier writable)
  rw [List.length_map]
  exact later writable

theorem Passes.cons {placed : Placed} {rows : List Placed} {middle : ScanState}
    (first : Passes style limit index before state [placed] (rows.map Placed.line ++ after) middle)
    (later : Passes style limit (index + 1) (placed.line :: before) middle rows after next) :
    Passes style limit index before state (placed :: rows) after next :=
  Passes.append first later

/-- A row at the level where it is expected passes. -/
theorem passes_row (placed : Placed)
    (place : placed.row.expected frames nextIndent = (indentUnit * placed.level : Nat))
    (fits : placed.row.Fits style before)
    (broken : placed.row = .label → Row.Broken ⟨index, before, placed.line, after⟩) :
    Passes style limit index before (nested frames nextIndent cases) [placed] after
      (CaseBlock.closeFinished index
        (placed.row.settled ⟨index, before, placed.line, after⟩ frames nextIndent cases)) := by
  intro writable
  have width : (Source.indentWidth placed.line.raw : Int) =
      placed.row.expected frames nextIndent := by
    rw [place]
    exact congrArg Nat.cast placed.indentWidth_raw
  have course := Scan.Course.one
    (Row.fault?_eq_none placed.written frames nextIndent cases style writable)
    (Row.laidOut placed.written limit width fits broken)
  rwa [Row.advance_eq placed.written] at course

/-- A row that is no label passes and leaves the open cases open. -/
theorem passes_plain (placed : Placed) {inner : List Nat} {waiting : Option Int}
    (place : placed.row.expected frames nextIndent = (indentUnit * placed.level : Nat))
    (fits : placed.row.Fits style before) (noLabel : placed.row ≠ .label)
    (settled : placed.row.settled ⟨index, before, placed.line, after⟩ frames nextIndent cases =
      nested inner waiting cases)
    (beyond : OpenUntil (index + 1) cases) :
    Passes style limit index before (nested frames nextIndent cases) [placed] after
      (nested inner waiting cases) := by
  have passed : Passes style limit index before (nested frames nextIndent cases) [placed] after _ :=
    passes_row placed place fits fun label => absurd label noLabel
  rwa [settled, closeFinished_of_openUntil beyond] at passed

/-- The next line with code does not close the block that comes before it. -/
def StaysOpen (after : List Line) : Prop :=
  ((after.find? Line.hasCode).any fun next => next.stripped == ['}']) = false

theorem staysOpen_cons {first : Placed} (noClose : first.row ≠ .close) (rest : List Placed)
    (more : List Line) : StaysOpen ((first :: rest).map Placed.line ++ more) := by
  unfold StaysOpen
  rw [Placed.find?_hasCode_map_line, Option.any_some, first.stripped_line, first.row.reading.isClose]
  exact beq_eq_false_iff_ne.mpr noClose

theorem staysOpen_bodyRows {statements : List Statement}
    (some : bodyRows style level statements ≠ []) (more : List Placed) (after : List Line) :
    StaysOpen ((bodyRows style level statements ++ more).map Placed.line ++ after) := by
  obtain ⟨first, rest, written, noClose, -, -⟩ := startsPlain_bodyRows style level some
  rw [written]
  exact staysOpen_cons noClose (rest ++ more) after

/-- The frame of a block, which is one step deeper unless the block is empty. -/
def innerFrame (index : Nat) (before : List Line) (line : Line) (after : List Line)
    (frames : List Nat) : Nat :=
  (Indent.blockIndent ⟨index, before, line, after⟩ (frames.headD 0 : Nat)).toNat

theorem innerFrame_of_staysOpen (top : frames.headD 0 = indentUnit * level) {line : Line}
    (opened : StaysOpen after) :
    innerFrame index before line after frames = indentUnit * (level + 1) := by
  have deeper : Indent.blockIndent ⟨index, before, line, after⟩ (frames.headD 0 : Nat) =
      (frames.headD 0 : Nat) + indentUnit := if_neg (Bool.eq_false_iff.mp opened)
  rw [innerFrame, deeper, top, ← Int.natCast_add, Int.toNat_natCast, Nat.mul_succ]

/-- The second style has no rule on braces that stand alone. -/
theorem Row.fits_brace_allman (before : List Line) : Row.Fits .allman before .brace :=
  nofun

section Rows

variable (top : frames.headD 0 = indentUnit * level) (beyond : OpenUntil (index + 1) cases)

include beyond in
theorem passes_assign
    (place : nextIndent.getD (frames.headD 0) = (indentUnit * level : Nat)) :
    Passes style limit index before (nested frames nextIndent cases) [⟨level, .assign⟩] after
      (nested frames none cases) :=
  passes_plain ⟨level, .assign⟩ place trivial nofun rfl beyond

include top beyond

theorem passes_name :
    Passes style limit index before (nested frames none cases) [⟨level, .function⟩] after
      (nested frames none cases) :=
  passes_plain ⟨level, .function⟩ (congrArg Nat.cast top) trivial nofun rfl beyond

theorem passes_head (header : Header) :
    Passes style limit index before (nested frames none cases) [⟨level, .head header⟩] after
      (nested frames (some ((frames.headD 0 : Nat) + indentUnit)) cases) :=
  passes_plain ⟨level, .head header⟩ (congrArg Nat.cast top) trivial nofun rfl beyond

theorem passes_otherwise (inForce : style = .allman) :
    Passes style limit index before (nested frames none cases) [⟨level, .otherwise⟩] after
      (nested frames (some ((frames.headD 0 : Nat) + indentUnit)) cases) :=
  passes_plain ⟨level, .otherwise⟩ (congrArg Nat.cast top) inForce nofun rfl beyond

theorem passes_brace (fits : Row.Fits style before .brace) :
    Passes style limit index before (nested frames nextIndent cases) [⟨level, .brace⟩] after
      (nested (innerFrame index before (Placed.line ⟨level, .brace⟩) after frames :: frames) none
        cases) :=
  passes_plain ⟨level, .brace⟩ (congrArg Nat.cast top) fits nofun rfl beyond

theorem passes_headBrace (header : Header) (inForce : style = .kr) :
    Passes style limit index before (nested frames none cases) [⟨level, .headBrace header⟩] after
      (nested (innerFrame index before (Placed.line ⟨level, .headBrace header⟩) after frames ::
        frames) none cases) :=
  passes_plain ⟨level, .headBrace header⟩ (congrArg Nat.cast top) inForce nofun rfl beyond

theorem passes_close (inner : Nat) :
    Passes style limit index before (nested (inner :: frames) none cases) [⟨level, .close⟩] after
      (nested frames none cases) :=
  passes_plain ⟨level, .close⟩ (congrArg Nat.cast top) trivial nofun rfl beyond

theorem passes_closeOtherwise (inner : Nat) (inForce : style = .kr) :
    Passes style limit index before (nested (inner :: frames) none cases) [⟨level, .closeOtherwise⟩]
      after (nested (innerFrame index before (Placed.line ⟨level, .closeOtherwise⟩) after frames ::
        frames) none cases) :=
  passes_plain ⟨level, .closeOtherwise⟩ (congrArg Nat.cast top) inForce nofun rfl beyond

end Rows

/-! ## Blocks -/

section Blocks

variable {rows : List Placed} (top : frames.headD 0 = indentUnit * level)
include top

/-- A block is opened with a frame that is one step deeper, unless the block is empty. -/
theorem Passes.opening (header : Header)
    (beyond : OpenUntil (index + (opening style level header).length) cases)
    (later : ∀ inner, (StaysOpen (rows.map Placed.line ++ after) → inner = indentUnit * (level + 1)) →
      Passes style limit (index + (opening style level header).length)
        (((opening style level header).map Placed.line).reverse ++ before)
        (nested (inner :: frames) none cases) rows after next) :
    Passes style limit index before (nested frames none cases)
      (opening style level header ++ rows) after next := by
  cases style with
  | kr =>
    exact Passes.cons (passes_headBrace top beyond header rfl) (later _ (innerFrame_of_staysOpen top))
  | allman =>
    have beyondHead : OpenUntil (index + 1) cases := beyond.mono (Nat.le_succ (index + 1))
    exact Passes.cons (passes_head top beyondHead header)
      (Passes.cons (passes_brace top beyond (Row.fits_brace_allman _))
        (later _ (innerFrame_of_staysOpen top)))

/-- Between two branches the frame of the first is left and one for the second is entered. -/
theorem Passes.turning (inner : Nat)
    (beyond : OpenUntil (index + (turning style level).length) cases)
    (later : ∀ other, (StaysOpen (rows.map Placed.line ++ after) → other = indentUnit * (level + 1)) →
      Passes style limit (index + (turning style level).length)
        (((turning style level).map Placed.line).reverse ++ before)
        (nested (other :: frames) none cases) rows after next) :
    Passes style limit index before (nested (inner :: frames) none cases)
      (turning style level ++ rows) after next := by
  cases style with
  | kr =>
    exact Passes.cons (passes_closeOtherwise top beyond inner rfl)
      (later _ (innerFrame_of_staysOpen top))
  | allman =>
    have beyondClose : OpenUntil (index + 1) cases := beyond.mono (Nat.le_add_right (index + 1) 2)
    have beyondElse : OpenUntil (index + 1 + 1) cases := beyond.mono (Nat.le_succ (index + 2))
    exact Passes.cons (passes_close top beyondClose inner)
      (Passes.cons (passes_otherwise top beyondElse rfl)
        (Passes.cons (passes_brace top beyond (Row.fits_brace_allman _))
          (later _ (innerFrame_of_staysOpen top))))

end Blocks

/-- Rows that a scan passes wherever their level is expected, and that leave the frames and the open
cases as they were. -/
def Kept (style : Style) (limit : Int) (level : Nat) (rows : List Placed) : Prop :=
  ∀ (index : Nat) (before : List Line) (frames : List Nat) (cases : List CaseFrame)
    (after : List Line), (rows ≠ [] → frames.headD 0 = indentUnit * level) →
    OpenUntil (index + rows.length) cases →
    Passes style limit index before (nested frames none cases) rows after (nested frames none cases)

namespace Kept

variable {first second body : List Placed}

theorem nil : Kept style limit level [] :=
  fun _ _ _ _ _ _ _ _ => .nil

theorem append (earlier : Kept style limit level first) (later : Kept style limit level second) :
    Kept style limit level (first ++ second) := by
  intro index before frames cases after top beyond
  rw [List.length_append, ← Nat.add_assoc] at beyond
  apply Passes.append
  · exact earlier _ _ _ _ _ (fun some => top (List.append_ne_nil_of_left_ne_nil some second))
      (beyond.mono (Nat.le_add_right _ _))
  · exact later _ _ _ _ _ (fun some => top (List.append_ne_nil_of_right_ne_nil first some)) beyond

theorem assign (style : Style) (limit : Int) (level : Nat) :
    Kept style limit level [⟨level, .assign⟩] := by
  intro index before frames cases after top beyond
  exact passes_assign beyond (congrArg Nat.cast (top (List.cons_ne_nil _ _)))

/-- The one statement after a test without braces stands one step deeper. -/
theorem guarded (style : Style) (limit : Int) (level : Nat) :
    Kept style limit level [⟨level, .head .test⟩, ⟨level + 1, .assign⟩] := by
  intro index before frames cases after top beyond
  have place := top (List.cons_ne_nil _ _)
  refine Passes.cons (passes_head place (beyond.mono (Nat.le_succ (index + 1))) .test)
    (passes_assign beyond ?_)
  rw [Option.getD_some, place, Nat.mul_succ, Int.natCast_add]

/-- The end of a block, whose frame is as deep as the rows in it. -/
theorem closing {inner : Nat} (kept : Kept style limit (level + 1) body)
    (top : frames.headD 0 = indentUnit * level)
    (deeper : body ≠ [] → inner = indentUnit * (level + 1))
    (beyond : OpenUntil (index + body.length + 1) cases) :
    Passes style limit index before (nested (inner :: frames) none cases)
      (body ++ [⟨level, .close⟩]) after (nested frames none cases) :=
  Passes.append (kept _ _ _ _ _ deeper (beyond.mono (Nat.le_succ _))) (passes_close top beyond inner)

theorem block (header : Header) (kept : Kept style limit (level + 1) body)
    (stays : body ≠ [] → ∀ more after, StaysOpen ((body ++ more).map Placed.line ++ after)) :
    Kept style limit level (block style level header body) := by
  intro index before frames cases after top beyond
  have place := top (List.append_ne_nil_of_right_ne_nil _ (List.concat_ne_nil _ _))
  simp only [Program.block, List.length_append, ← Nat.add_assoc] at beyond
  refine Passes.opening place header (beyond.mono (by omega)) fun inner deeper => ?_
  exact kept.closing place (fun some => deeper (stays some _ _)) beyond

theorem branch {yes no : List Placed} (keptYes : Kept style limit (level + 1) yes)
    (keptNo : Kept style limit (level + 1) no)
    (staysYes : yes ≠ [] → ∀ more after, StaysOpen ((yes ++ more).map Placed.line ++ after))
    (staysNo : no ≠ [] → ∀ more after, StaysOpen ((no ++ more).map Placed.line ++ after)) :
    Kept style limit level (opening style level .test ++ (yes ++ (turning style level ++
      (no ++ [⟨level, .close⟩])))) := by
  intro index before frames cases after top beyond
  have place := top (List.append_ne_nil_of_right_ne_nil _ (List.append_ne_nil_of_right_ne_nil _
    (List.append_ne_nil_of_right_ne_nil _ (List.concat_ne_nil _ _))))
  simp only [List.length_append, ← Nat.add_assoc] at beyond
  refine Passes.opening place .test (beyond.mono (by omega)) fun inner deeper => ?_
  refine Passes.append
    (keptYes _ _ _ _ _ (fun some => deeper (staysYes some _ _)) (beyond.mono (by omega))) ?_
  refine Passes.turning place inner (beyond.mono (by omega)) fun other deeper => ?_
  exact keptNo.closing place (fun some => deeper (staysNo some _ _)) beyond

end Kept

/-! ## Cases -/

section Cases

variable (top : frames.headD 0 = indentUnit * level)
include top

/-- A label opens its case, which ends with the last line of its body. -/
theorem passes_label {last : Nat}
    (broken : Row.Broken ⟨index, before, Placed.line ⟨level, .label⟩, after⟩)
    (ends : (CaseBlock.body ⟨index, before, Placed.line ⟨level, .label⟩, after⟩).last = some last)
    (behind : index < last) (beyond : OpenUntil (index + 1) cases) :
    Passes style limit index before (nested frames none cases) [⟨level, .label⟩] after
      (nested (indentUnit * (level + 1) :: frames) none
        (⟨last, (indentUnit * (level + 1) : Nat)⟩ :: cases)) := by
  have deeper : ((frames.headD 0 : Nat) + indentUnit : Int) = (indentUnit * (level + 1) : Nat) := by
    rw [top, Nat.mul_succ, Int.natCast_add]
  have settled : Row.label.settled ⟨index, before, Placed.line ⟨level, .label⟩, after⟩ frames none
      cases = nested (indentUnit * (level + 1) :: frames) none
        (⟨last, (indentUnit * (level + 1) : Nat)⟩ :: cases) := by
    show CaseBlock.enter (CaseBlock.frameEnd? _) (frames.headD 0 : Nat) (nested frames none cases) = _
    rw [Row.frameEnd?_label (Placed.written ⟨level, .label⟩) broken, ends]
    simp only [CaseBlock.enter, deeper]
    rfl
  have stillOpen : OpenUntil (index + 1) (⟨last, (indentUnit * (level + 1) : Nat)⟩ :: cases) :=
    List.forall_mem_cons.mpr ⟨behind, beyond⟩
  have passed : Passes style limit index before (nested frames none cases) [⟨level, .label⟩] after _ :=
    passes_row ⟨level, .label⟩ (congrArg Nat.cast top) trivial fun _ => broken
  rwa [settled, closeFinished_of_openUntil stillOpen] at passed

end Cases

/-- The break that ends a case leaves its frame. -/
theorem passes_leave (beyond : OpenUntil (index + 1) cases) (indent : Int) :
    Passes style limit index before
      (nested (indentUnit * (level + 1) :: frames) none (⟨index, indent⟩ :: cases))
      [⟨level + 1, .leave⟩] after (nested frames none cases) := by
  have passed : Passes style limit index before
      (nested (indentUnit * (level + 1) :: frames) none (⟨index, indent⟩ :: cases))
      [⟨level + 1, .leave⟩] after _ :=
    passes_row ⟨level + 1, .leave⟩ rfl trivial nofun
  have closed : CaseBlock.closeFrames index (indentUnit * (level + 1) :: frames)
      (⟨index, indent⟩ :: cases) = (frames, cases) := by
    rw [CaseBlock.closeFrames, if_pos rfl]
    exact closeFrames_of_openUntil beyond frames
  have settled : Row.leave.settled ⟨index, before, Placed.line ⟨level + 1, .leave⟩, after⟩
      (indentUnit * (level + 1) :: frames) none (⟨index, indent⟩ :: cases) =
        nested (indentUnit * (level + 1) :: frames) none (⟨index, indent⟩ :: cases) := rfl
  rwa [settled, closeFinished_nested closed] at passed

namespace Kept

variable {body : List Placed}

/-- A case is left as it was entered, for the break at its end is the first that a reading of its
body stops at. -/
theorem labelled (kept : Kept style limit (level + 1) body) (passed : PassedOver 0 0 body)
    (plain : StartsPlain (body ++ [⟨level + 1, .leave⟩])) :
    Kept style limit level (caseRows level body) := by
  intro index before frames cases after top beyond
  have place := top (List.cons_ne_nil _ _)
  have last := congrArg CaseBlock.Body.last (body_caseSite passed index before level after)
  have broken := broken_caseSite passed plain index before after
  rw [caseRows, List.length_cons, List.length_append, List.length_singleton] at beyond
  have beyondLabel : OpenUntil (index + 1) cases := beyond.mono (by omega)
  have beyondBody : OpenUntil (index + 1 + body.length) cases := beyond.mono (by omega)
  have beyondLeave : OpenUntil (index + 1 + body.length + 1) cases := beyond.mono (by omega)
  refine Passes.cons (passes_label place broken last (by omega) beyondLabel) (Passes.append
    (kept _ _ _ _ _ (fun _ => rfl) ?_) (passes_leave beyondLeave _))
  exact List.forall_mem_cons.mpr ⟨Nat.le_refl _, beyondBody⟩

end Kept

/-! ## Whole programs -/

theorem kept_bodyRows {statements : List Statement}
    (each : ∀ statement ∈ statements, ∀ level, Kept style limit level (rows style level statement))
    (level : Nat) : Kept style limit level (bodyRows style level statements) := by
  induction statements with
  | nil => exact .nil
  | cons statement rest inductionHypothesis =>
    obtain ⟨first, others⟩ := List.forall_mem_cons.mp each
    exact (first level).append (inductionHypothesis others)

theorem kept_caseRows {statements : List Statement}
    (each : ∀ statement ∈ statements, ∀ level, Kept style limit level (rows style level statement))
    (level : Nat) :
    Kept style limit level (caseRows level (bodyRows style (level + 1) statements)) :=
  Kept.labelled (kept_bodyRows each (level + 1))
    (passedOver_bodyRows (fun statement _ => passedOver_rows style statement) (level + 1))
    (startsPlain_leave style (level + 1) statements)

theorem kept_otherRows {bodies : List (List Statement)}
    (each : ∀ body ∈ bodies, ∀ statement ∈ body, ∀ level,
      Kept style limit level (rows style level statement))
    (level : Nat) : Kept style limit level (otherRows style level bodies) := by
  induction bodies with
  | nil => exact .nil
  | cons body rest inductionHypothesis =>
    obtain ⟨first, others⟩ := List.forall_mem_cons.mp each
    exact (kept_caseRows first level).append (inductionHypothesis others)

/-- A statement is passed wherever its level is expected. -/
theorem kept_rows (style : Style) (limit : Int) (statement : Statement) :
    ∀ level, Kept style limit level (rows style level statement) := by
  induction statement using Statement.induction with
  | assign => exact Kept.assign style limit
  | guarded => exact Kept.guarded style limit
  | loop body each =>
    exact fun level => Kept.block .loop (kept_bodyRows each (level + 1)) staysOpen_bodyRows
  | branch yes no eachYes eachNo =>
    exact fun level => Kept.branch (kept_bodyRows eachYes (level + 1))
      (kept_bodyRows eachNo (level + 1)) staysOpen_bodyRows staysOpen_bodyRows
  | choice first others eachFirst eachOthers =>
    intro level
    refine Kept.block .choice
      ((kept_caseRows eachFirst (level + 1)).append (kept_otherRows eachOthers (level + 1))) ?_
    have noClose : (Placed.mk (level + 1) .label).row ≠ .close := nofun
    exact fun _ more after => staysOpen_cons noClose _ after

/-- The brace after the head of a function follows no control statement. -/
theorem fits_brace_function (style : Style) (level : Nat) :
    Row.Fits style [Placed.line ⟨level, .function⟩] .brace := by
  intro _ previous found
  rw [List.find?_cons_of_pos (Placed.hasCode_line _), Option.some.injEq] at found
  have noControl : Brace.controlWord? Row.function.text = none := by decide +kernel
  rwa [← found, Placed.stripped_line]

/-- The body of a function stands in the one block of the file. -/
theorem passes_functionRows (style : Style) (limit : Int) (statements : List Statement) :
    Passes style limit 0 [] .initial (functionRows style statements) [] .initial := by
  have beyond : ∀ index, OpenUntil index [] := fun _ _ member => absurd member List.not_mem_nil
  have top : ([] : List Nat).headD 0 = indentUnit * 0 := rfl
  refine Passes.cons (passes_name top (beyond 1)) (Passes.cons
    (passes_brace top (beyond 2) (fits_brace_function style 0)) ?_)
  refine Kept.closing (kept_bodyRows (fun statement _ => kept_rows style limit statement) 1) top ?_
    (beyond _)
  exact fun some => innerFrame_of_staysOpen top (staysOpen_bodyRows some _ _)

/-- A function that is laid out in a style gets no complaint about its layout in that style, whatever
statements it has and however they are nested. The scan of it gets through if its limit can be
written, and ends where it started: outside all frames, cases and types, with no indentation that it
waits for. -/
theorem records_text (style : Style) (limit : Int) (statements : List Statement)
    (writable : (Settings.of style limit).Writable) :
    ∃ records last,
      Scan.records (.of style limit) (Line.ofRaws (Source.splitLines (text style statements))) =
        .ok records ∧
      (∀ record ∈ records, ∀ diagnostic ∈ record.diagnostics,
        diagnostic.kind ∉ Kind.layout.map Kind.name) ∧
      records.getLast? = some last ∧ last.state.indents = [0] ∧ last.state.cases = [] ∧
        last.state.nextIndent = none ∧ last.state.types = [] := by
  have lines : Line.ofRaws (Source.splitLines (text style statements)) =
      (functionRows style statements).map Placed.line := by
    rw [splitLines_text]
    exact Placed.ofRawsFrom_map_raw _
  obtain ⟨records, scanned, length, reported, ends⟩ :=
    (passes_functionRows style limit statements writable).run
  have answered : Scan.records (.of style limit)
      (Line.ofRaws (Source.splitLines (text style statements))) = .ok records := by
    rw [lines, Scan.records, Scan.recordsFrom_eq_runFrom, scanned]
  have some : records ≠ [] := by
    intro none
    rw [none] at length
    cases length
  have there : records.getLast? = .some (records.getLast some) := List.getLast?_eq_some_getLast some
  rw [there, Option.map_some, Option.getD_some] at ends
  refine ⟨records, records.getLast some, answered, ?_, there, ?_⟩
  · exact fun record member _ inside => (reported record member).not_layout inside
  · rw [ends]
    exact ⟨rfl, rfl, rfl, rfl⟩

/-- A choice in a loop, in the second style and with a limit that every row exceeds. -/
theorem records_text_choice :
    let statements : List Statement := [.loop [.choice [.branch [] [.assign]] [[.guarded], []]]]
    let settings := Settings.of .allman (-1)
    settings.Writable ∧
      ∃ records last,
        Scan.records settings (Line.ofRaws (Source.splitLines (text .allman statements))) =
          .ok records ∧
        (∀ record ∈ records, ∀ diagnostic ∈ record.diagnostics,
          diagnostic.kind ∉ Kind.layout.map Kind.name) ∧
        records.getLast? = some last ∧ last.state.indents = [0] ∧ last.state.cases = [] ∧
          last.state.nextIndent = none ∧ last.state.types = [] := by
  intro statements settings
  have writable : settings.Writable := by decide +kernel
  exact ⟨writable, records_text .allman (-1) statements writable⟩

end HouseStyle.Program
