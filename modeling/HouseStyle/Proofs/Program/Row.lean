import HouseStyle.Proofs.Scan.Layout
import HouseStyle.Proofs.Scan.Parallel

/-!
Contract: the lines that functions of either brace style are written in.

Owns: the rows of such functions, what a scan reads off them wherever they are indented, and what
they do to the state of a scan.
Does not own: the order of rows in a function.

There are finitely many rows, so what is read off a row without its indentation is found by going
through all of them. Indentation does not change it.

Main statements: `advance_eq`, `fault?_eq_none` and `laidOut`.
-/

namespace HouseStyle.Program

/-! ## Rows -/

/-- The statements with a condition. -/
inductive Header where
  | loop
  | test
  | choice
deriving DecidableEq, Repr

def Header.word : Header → String
  | loop => "while"
  | test => "if"
  | choice => "switch"

/-- The lines of a function, without their indentation. -/
inductive Row where
  | function
  | assign
  | leave
  | label
  | head (header : Header)
  | headBrace (header : Header)
  | brace
  | close
  | otherwise
  | closeOtherwise
deriving DecidableEq, Repr

namespace Row

def written : Row → String
  | function => "void test_run(void)"
  | assign => "x = 0;"
  | leave => "break;"
  | label => "case 0:"
  | head header => header.word ++ " (x)"
  | headBrace header => header.word ++ " (x) \x7b"
  | brace => "\x7b"
  | close => "\x7d"
  | otherwise => "else"
  | closeOtherwise => "\x7d else \x7b"

def text (row : Row) : List Char :=
  row.written.toList

/-- The row as a line of its own, at the margin. -/
def flush (row : Row) : Line :=
  .ofRaw .code row.text

def all : List Row :=
  [function, assign, leave, label, head .loop, head .test, head .choice, headBrace .loop,
    headBrace .test, headBrace .choice, brace, close, otherwise, closeOtherwise]

theorem mem_all (row : Row) : row ∈ all := by
  cases row with
  | head header => cases header <;> decide
  | headBrace header => cases header <;> decide
  | _ => decide

/-- What holds of the listed rows holds of every row. -/
theorem forall_of_all {Holds : Row → Prop} (each : ∀ row ∈ all, Holds row) (row : Row) :
    Holds row :=
  each row row.mem_all

/-- The row leaves a block. -/
def closes : Row → Bool
  | close | closeOtherwise => true
  | _ => false

/-- The row enters a block. -/
def opens : Row → Bool
  | headBrace _ | brace | closeOtherwise => true
  | _ => false

/-- The blocks that the row enters beyond those that it leaves. -/
def net (row : Row) : Int :=
  (if row.opens then 1 else 0) - (if row.closes then 1 else 0)

/-- The row waits for its block or its statement on the next line. -/
def awaits : Row → Bool
  | head _ | otherwise => true
  | _ => false

/-- The row starts with a brace. -/
def startsWithBrace : Row → Bool
  | brace | close | closeOtherwise => true
  | _ => false

/-! ## Readings -/

/-- What a scan reads off a row at the margin. -/
structure Reading (row : Row) : Prop where
  stripped : row.flush.stripped = row.text
  code : row.flush.code = row.text
  masked : row.flush.masked = row.text
  noMark : CaseBlock.isMarked row.flush = false
  after : row.flush.after = .code
  hasCode : row.flush.hasCode = true
  isBlank : row.flush.isBlank = false
  indentWidth : Source.indentWidth row.text = 0
  oneLine : '\n' ∉ row.text
  last : (row.text.getLast?.map fun c => c == '\r') = some false
  noDirective : (row.text.head? == some '#') = false
  noJumpLabel : (Scan.labelFindings? row.text).isSome = false
  noInline : InlineControl.isInline row.text = false
  noChain : InlineControl.chained? row.text = none
  noList : ParamBlock.opens row.text = false
  noBareType : (Member.bareStart.matchStart? row.text).isSome = false
  noBracedType : (Member.braceStart.matchStart? row.text).isSome = false
  numbers : ∀ found ∈ Call.number.findAll row.text, found.whole.length ≤ 1
  isLabel : CaseBlock.isLabel row.text = (row == label)
  labelStart : CaseBlock.labelStart.fits row.text = (row == label)
  breakStatement : CaseBlock.breakStatement.fits row.text = (row == leave)
  closes : (row.text.head? == some '}') = row.closes
  startsWithBrace :
    (row.text.head? == some '{' || row.text.head? == some '}') = row.startsWithBrace
  startsWithOpener : (row.text.head? == some '{') = (row == brace)
  isClose : (row.text == ['}']) = (row == close)
  /-- A row enters one block at most, behind the one that it leaves. -/
  excess : Text.excess '{' '}' (if row.closes then row.text.tail else row.text) =
    if row.opens then 1 else 0
  net : Text.excess '{' '}' row.text = row.net
  awaits : row.opens = false → Indent.opensBracelessBody row.text row.text = row.awaits
  startsWithElse : Brace.elseWord.fits row.text = (row == otherwise)
  noAttachedBrace : (Brace.attachedBrace.findAll row.text).isEmpty = true
  isBrace : (row.text == ['{']) = (row == brace)
  endsInBrace : (row.text.getLast? == some '{') = row.opens

theorem reading (row : Row) : row.Reading := by
  constructor
  -- each reading is computed for every row
  all_goals
    revert row
    exact forall_of_all (by decide +kernel)

end Row

/-! ## States -/

/-- The state of a scan inside a function without types and lists of parameters: its frames, the
indentation that it waits for, and its open cases. -/
def nested (frames : List Nat) (nextIndent : Option Int) (cases : List CaseFrame) : ScanState :=
  { ScanState.initial with frames, nextIndent, cases }

theorem eq_nested_of_parallel {state : ScanState} {frames : List Nat} {nextIndent : Option Int}
    {cases : List CaseFrame} (parallel : state.Parallel (nested frames nextIndent cases)) :
    state = nested frames nextIndent cases := by
  obtain ⟨framesEq, nextIndentEq, types, pendingType, casesEq, paramBlock, comment, blankRun,
    inDefinition⟩ := parallel
  have noTypes : state.types = [] := List.map_eq_nil_iff.mp types
  have noPendingType : state.pendingType = none := Option.map_eq_none_iff.mp pendingType
  have noParamBlock : state.paramBlock = none := Option.map_eq_none_iff.mp paramBlock
  cases state
  simp_all [nested, ScanState.initial]

namespace Row

/-- The frames outside the brace that a row starts with, if it leaves a block. -/
def outside (row : Row) (frames : List Nat) : List Nat :=
  if row.closes then frames.tail else frames

/-- The indentation at which a row is expected. -/
def expected (row : Row) (frames : List Nat) (nextIndent : Option Int) : Int :=
  if row.startsWithBrace then (row.outside frames).headD 0
  else nextIndent.getD ((row.outside frames).headD 0)

/-- The state after a row, before the cases that end with it are closed. -/
def settled (row : Row) (site : Site) (frames : List Nat) (nextIndent : Option Int)
    (cases : List CaseFrame) : ScanState :=
  let expected := row.expected frames nextIndent
  let inside := nested (row.outside frames) none cases
  if row.opens then inside.push (Indent.blockIndent site expected)
  else if row.awaits then { inside with nextIndent := some (expected + indentUnit) }
  else if row = label then CaseBlock.enter (CaseBlock.frameEnd? site) expected inside
  else inside

theorem exists_settled_eq (row : Row) (site : Site) (frames : List Nat) (nextIndent : Option Int)
    (cases : List CaseFrame) :
    ∃ inner waiting entered,
      row.settled site frames nextIndent cases = nested inner waiting entered := by
  unfold settled CaseBlock.enter
  simp only
  split
  · exact ⟨_, _, _, rfl⟩
  · split
    · exact ⟨_, _, _, rfl⟩
    · split
      · split
        · exact ⟨_, _, _, rfl⟩
        · exact ⟨_, _, _, rfl⟩
      · exact ⟨_, _, _, rfl⟩

section Flush

variable {site : Site} {row : Row} (there : site.line = row.flush) (frames : List Nat)
  (nextIndent : Option Int) (cases : List CaseFrame)
include there

theorem outside_flush :
    Indent.outside site.line (nested frames nextIndent cases) =
      nested (row.outside frames) nextIndent cases := by
  unfold Indent.outside outside
  rw [there, row.reading.stripped, row.reading.closes]
  split <;> rfl

theorem expectedAt_flush :
    Indent.expectedAt site.line (nested frames nextIndent cases) =
      row.expected frames nextIndent := by
  unfold Indent.expectedAt
  rw [outside_flush there]
  unfold Indent.expected expected
  rw [there, row.reading.stripped, row.reading.startsWithBrace]
  cases nextIndent with
  | none =>
    simp only [Option.getD_none, ite_self]
    rfl
  | some indent => rfl

theorem labelled_flush :
    Indent.labelled site (nested frames nextIndent cases) =
      if row = label then
        CaseBlock.enter (CaseBlock.frameEnd? site) (row.expected frames nextIndent)
          (nested (row.outside frames) none cases)
      else nested (row.outside frames) none cases := by
  unfold Indent.labelled
  rw [expectedAt_flush there, outside_flush there, there, row.reading.code, row.reading.isLabel]
  simp only [beq_iff_eq]
  rfl

theorem settled_flush :
    Indent.settled site (nested frames nextIndent cases) =
      row.settled site frames nextIndent cases := by
  have net : Text.excess '{' '}' (if row.closes then row.text.tail else row.text) =
      if row.opens then 1 else 0 := row.reading.excess
  unfold Indent.settled
  simp only [expectedAt_flush there, labelled_flush there]
  rw [there, row.reading.code, row.reading.stripped, row.reading.noInline, row.reading.noList,
    row.reading.closes]
  unfold Indent.followBraces
  simp only [there, row.reading.code, row.reading.stripped, net]
  have awaits := row.reading.awaits
  cases row with
  | headBrace | brace | closeOtherwise => rfl
  | function | assign | leave | label | head | close | otherwise =>
    rw [awaits rfl]
    rfl

/-- A row opens and closes no type. -/
theorem typeSettled_flush (index : Nat) (frames : List Nat) (nextIndent : Option Int)
    (cases : List CaseFrame) :
    TypeScope.settled index site.line.code (nested frames nextIndent cases) =
      nested frames nextIndent cases := by
  have bare : Member.bareStart.matchStart? row.text = none :=
    Option.isSome_eq_false_iff.mp row.reading.noBareType |> Option.isNone_iff_eq_none.mp
  have braced : Member.braceStart.matchStart? row.text = none :=
    Option.isSome_eq_false_iff.mp row.reading.noBracedType |> Option.isNone_iff_eq_none.mp
  rw [there, row.reading.code]
  show TypeScope.openedOrClosed index row.text _ = _
  unfold TypeScope.openedOrClosed
  rw [bare, braced]
  rfl

theorem lineNext_flush :
    Scan.lineNext site (nested frames nextIndent cases) =
      row.settled site frames nextIndent cases := by
  have kept : TypeScope.settled site.index site.line.code
      (row.settled site frames nextIndent cases) = row.settled site frames nextIndent cases := by
    obtain ⟨inner, waiting, entered, same⟩ := row.exists_settled_eq site frames nextIndent cases
    rw [same, typeSettled_flush there]
  have statement : Scan.statementNext site (nested frames nextIndent cases) =
      row.settled site frames nextIndent cases := by
    unfold Scan.statementNext
    simp only [settled_flush there, kept, ite_self]
  have code : Scan.codeNext site (nested frames nextIndent cases) =
      Scan.statementNext site (nested frames nextIndent cases) := by
    show (if (site.line.stripped.head? == some '#' || false) = true then _
      else if (Scan.labelFindings? site.line.code).isSome = true then _ else _) = _
    rw [there, row.reading.stripped, row.reading.code, row.reading.noDirective,
      row.reading.noJumpLabel]
    rfl
  have inked : site.line.isSkipped = false := by
    rw [Line.isSkipped, there, row.reading.isBlank, row.reading.hasCode]
    rfl
  unfold Scan.lineNext
  rw [inked, there, row.reading.isBlank]
  exact code.trans statement

theorem advance_flush :
    Scan.advance site (nested frames nextIndent cases) =
      CaseBlock.closeFinished site.index (row.settled site frames nextIndent cases) := by
  obtain ⟨inner, waiting, entered, same⟩ := row.exists_settled_eq site frames nextIndent cases
  unfold Scan.advance
  rw [lineNext_flush there, same, there, row.reading.after]
  rfl

end Flush

theorem stripped_eq {line : Line} {row : Row} (written : line.Indents row.flush) :
    line.stripped = row.text := by
  rw [written.stripped_eq, row.reading.stripped]

section Indented

variable {site : Site} {row : Row} (written : site.line.Indents row.flush)
include written

/-- The site with the row moved to the margin reads alike. -/
theorem indents_flush : site.Indents { site with line := row.flush } :=
  ⟨rfl, written, rfl, rfl, rfl⟩

variable (frames : List Nat) (nextIndent : Option Int) (cases : List CaseFrame)

/-- What a row does to the state of a scan, wherever it is indented. -/
theorem advance_eq :
    Scan.advance site (nested frames nextIndent cases) =
      CaseBlock.closeFinished site.index (row.settled site frames nextIndent cases) := by
  let base : Site := { site with line := row.flush }
  have there : base.line = row.flush := rfl
  have settled : row.settled base frames nextIndent cases =
      row.settled site frames nextIndent cases := by
    unfold Row.settled
    rw [(indents_flush written).frameEnd?_eq]
    rfl
  have parallel := (ScanState.Parallel.refl (nested frames nextIndent cases)).advance
    (indents_flush written)
  rw [advance_flush there, settled] at parallel
  obtain ⟨inner, waiting, entered, same⟩ := row.exists_settled_eq site frames nextIndent cases
  rw [same] at parallel ⊢
  exact eq_nested_of_parallel parallel

theorem expectedAt_eq :
    Indent.expectedAt site.line (nested frames nextIndent cases) =
      row.expected frames nextIndent := by
  let base : Site := { site with line := row.flush }
  have there : base.line = row.flush := rfl
  rw [(ScanState.Parallel.refl (nested frames nextIndent cases)).expectedAt_eq written]
  exact expectedAt_flush there frames nextIndent cases

/-- No row fails under a limit that can be written. -/
theorem fault?_eq_none (style : Style) {limit : Int}
    (writable : (Settings.of style limit).Writable) :
    Scan.fault? (.of style limit) site (nested frames nextIndent cases) = none := by
  have base := (ScanState.Parallel.refl (nested frames nextIndent cases)).fault?_eq
    (indents_flush written) (.of style limit)
  have content : ∀ view : View, view.line = row.flush → Rule.fault? .content view = none := by
    intro view same
    have short : ((Call.numbers view).find? fun number => Text.digitLimit < number.length) =
        none := by
      rw [List.find?_eq_none]
      intro number member
      rw [Call.numbers, View.masked, same, row.reading.masked] at member
      obtain ⟨found, among, rfl⟩ := List.mem_map.mp member
      have digits := row.reading.numbers found among
      have limit : 1 ≤ Text.digitLimit := by decide
      simp only [decide_eq_true_eq]
      omega
    show (Call.longNumber? view).map _ = none
    rw [Call.longNumber?, short, ite_self]
    rfl
  have chain : InlineControl.chainsMoreThan Settings.defaultChainLimit row.text = false := by
    show InlineControl.chainsMoreThan (986 + 1) row.text = false
    rw [InlineControl.chainsMoreThan, row.reading.noChain]
  have contentNone : Scan.contentFault? (.of style limit) { site with line := row.flush }
      (nested frames nextIndent cases) = none := by
    have rules := content (Site.view { site with line := row.flush } (.of style limit)
      (nested frames nextIndent cases)) rfl
    rw [Scan.contentFault?, rules, ite_self]
  have chainNone : Scan.chainFault? (.of style limit) row.flush
      (nested frames nextIndent cases) = none := by
    have short : ((Settings.of style limit).chainLimit.any fun count =>
        InlineControl.chainsMoreThan count row.flush.code) = false := by
      rw [row.reading.code]
      exact chain
    rw [Scan.chainFault?, short, Bool.and_false]
    rfl
  have lengthNone : Scan.lengthFault? (.of style limit) row.flush = none :=
    Scan.lengthFault?_eq_none_iff.mpr (.inr writable)
  rw [base, Scan.fault?, lengthNone, contentNone, chainNone]
  rfl

/-! ## Layout -/

/-- A style accepts the row after the lines before it: it has rows of its own for blocks, and a brace
on a line of its own does not follow a control statement in the first style. -/
def Fits (style : Style) (before : List Line) : Row → Prop
  | headBrace _ | closeOtherwise => style = .kr
  | otherwise => style = .allman
  | brace => style = .kr → ∀ previous, before.find? Line.hasCode = some previous →
      Brace.controlWord? previous.stripped = none
  | _ => True

theorem krElse_eq (style : Style) (limit : Int) (fits : row.Fits style site.before)
    (state : ScanState) : Brace.krElse (site.view (.of style limit) state) = .ok [] := by
  unfold Brace.krElse
  show (if (style != .kr || !Brace.elseWord.fits site.line.stripped) = true then _ else _) = _
  rw [stripped_eq written, row.reading.startsWithElse]
  cases row with
  | otherwise =>
    rw [show style = .allman from fits]
    rfl
  | _ => cases style <;> rfl

/-- No row has a brace that touches what is before it. -/
theorem krAttachedFindings_eq (settings : Settings) (state : ScanState) :
    Brace.krAttachedFindings (site.view settings state) = [] := by
  have steady : Brace.attachedBrace.Steady := by simp [Brace.attachedBrace]
  have refuses : Brace.attachedBrace.Refuses isMargin := by
    have paren : (Pattern.char ')').Refuses isMargin := Pattern.refuses_char (by decide)
    have word : (Pattern.word "else").Refuses isMargin := Pattern.refuses_word rfl (by decide)
    exact (paren.orElse (word.look_append _)).append _
  obtain ⟨indentation, all, same⟩ := written.code
  have nothing : Brace.attachedBrace.findAll site.line.code = [] := by
    rw [same, row.reading.code,
      Pattern.findAll_margin steady refuses (isMargin_of_indentation all),
      List.isEmpty_iff.mp row.reading.noAttachedBrace, List.map_nil]
  unfold Brace.krAttachedFindings
  rw [View.code, show (site.view settings state).line = site.line from rfl, nothing, List.map_nil,
    ite_self]

theorem krBrace_eq (style : Style) (limit : Int) (fits : row.Fits style site.before)
    (state : ScanState) : Brace.krBrace (site.view (.of style limit) state) = .ok [] := by
  have apart : style = .kr → Brace.krApartFindings (site.view (.of style limit) state) = .ok [] := by
    intro inForce
    unfold Brace.krApartFindings
    rw [View.stripped, show (site.view (.of style limit) state).line = site.line from rfl,
      stripped_eq written, bne, row.reading.isBrace]
    cases row with
    | brace =>
      rw [if_neg (by decide), show (site.view (.of style limit) state).previousCode? =
        site.before.find? Line.hasCode from rfl]
      cases found : site.before.find? Line.hasCode with
      | none => rfl
      | some previous =>
        simp only [fits inForce previous found]
        split <;> rfl
    | _ => rfl
  unfold Brace.krBrace
  rw [krAttachedFindings_eq written]
  cases style with
  | kr =>
    rw [apart rfl]
    rfl
  | allman => rfl

theorem allmanBrace_eq (style : Style) (limit : Int) (fits : row.Fits style site.before)
    (state : ScanState) : Brace.allmanBrace (site.view (.of style limit) state) = [] := by
  unfold Brace.allmanBrace
  rw [View.stripped, show (site.view (.of style limit) state).line = site.line from rfl,
    stripped_eq written, bne, bne, row.reading.endsInBrace]
  cases style with
  | kr => rfl
  | allman =>
    cases row with
    | headBrace => cases fits
    | closeOtherwise => cases fits
    | brace =>
      have none : Brace.controlWord? brace.text = none := by decide +kernel
      rw [none]
      rfl
    | _ => rfl

end Indented

/-- A label whose body ends in a break and does not start with a brace or with another label. -/
structure Broken (site : Site) : Prop where
  hasBreak : (CaseBlock.body site).hasBreak = true
  next : ∃ next : Row, site.nextCode?.map Line.stripped = some next.text ∧ next ≠ label ∧
    next ≠ brace

/-- Nothing about the next row keeps the label from having a body. -/
theorem Broken.next_starts {site : Site} (broken : Broken site) :
    CaseBlock.labelStart.fits ((site.nextCode?.map Line.stripped).getD []) = false ∧
      (((site.nextCode?.map Line.stripped).getD []).head? == some '{') = false := by
  obtain ⟨next, follows, noLabel, noBrace⟩ := broken.next
  rw [follows, Option.getD_some, next.reading.labelStart, next.reading.startsWithOpener]
  exact ⟨beq_eq_false_iff_ne.mpr noLabel, beq_eq_false_iff_ne.mpr noBrace⟩

section Label

variable {site : Site} (written : site.line.Indents label.flush) (broken : Broken site)
include written

theorem parts?_label :
    ∃ name gap rest, CaseBlock.parts? site.line.code = some (name, gap, rest) ∧
      gap.text = [] ∧ Text.trim rest.text = [] := by
  have closed : (CaseBlock.parts? label.text).map
      (fun parts => (parts.2.1.text, Text.trim parts.2.2.text)) = some ([], []) := by
    decide +kernel
  obtain ⟨⟨name, gap, rest⟩, found, texts⟩ := Option.map_eq_some_iff.mp closed
  obtain ⟨noGap, noRest⟩ := Prod.mk.inj texts
  obtain ⟨indentation, all, same⟩ := written.code
  refine ⟨name.moved indentation.length, gap.moved indentation.length,
    rest.moved indentation.length, ?_, noGap, noRest⟩
  rw [same, label.reading.code, CaseBlock.parts?_indented all, found]
  rfl

include broken

theorem frameEnd?_label : CaseBlock.frameEnd? site = (CaseBlock.body site).last := by
  obtain ⟨name, gap, rest, found, -, noRest⟩ := parts?_label written
  obtain ⟨noLabel, noBrace⟩ := broken.next_starts
  have goesOn : CaseBlock.endsInBreak [] = false := by decide +kernel
  have owns : CaseBlock.hasBody site [] = true := by
    simp [CaseBlock.hasBody, noLabel, noBrace, goesOn]
  unfold CaseBlock.frameEnd?
  rw [found]
  simp only [Option.bind_eq_bind, Option.bind_some, noRest, owns, if_true]

theorem findings_label (baseIndent : Int) (state : ScanState)
    {outcome : List Finding × ScanState}
    (passes : CaseBlock.analyze site baseIndent state = .ok outcome) : outcome.1 = [] := by
  obtain ⟨name, gap, rest, found, noGap, noRest⟩ := parts?_label written
  obtain ⟨noLabel, noBrace⟩ := broken.next_starts
  have goesOn : CaseBlock.endsInBreak [] = false := by decide +kernel
  have body : CaseBlock.analyzeRest site baseIndent (Text.squeeze name.text) gap.stop [] state =
      .ok (CaseBlock.openBody site baseIndent (Text.squeeze name.text) gap.stop state) := by
    simp [CaseBlock.analyzeRest, noLabel, noBrace, goesOn]
  have nothing : (CaseBlock.openBody site baseIndent (Text.squeeze name.text) gap.stop state).1 =
      [] := by
    simp only [CaseBlock.openBody, broken.hasBreak, Bool.true_or, if_true]
    split <;> rfl
  rw [CaseBlock.analyze_eq, found] at passes
  simp only [noGap, noRest, body, Answer.ok_bind] at passes
  cases passes
  rw [nothing]
  rfl

end Label

/-- A row at the indentation that it is expected at is laid out well in a style that accepts it. -/
theorem laidOut {site : Site} {row : Row} (written : site.line.Indents row.flush) {style : Style}
    (limit : Int) {frames : List Nat} {nextIndent : Option Int} {cases : List CaseFrame}
    (place : (Source.indentWidth site.line.raw : Int) = row.expected frames nextIndent)
    (fits : row.Fits style site.before) (broken : row = label → Broken site) :
    Scan.LaidOut (.of style limit) site (nested frames nextIndent cases) where
  place := by rw [place, expectedAt_eq written]
  label := by
    intro state outcome passes
    unfold Indent.labelOutcome at passes
    rw [written.isLabel_eq, row.reading.code, row.reading.isLabel] at passes
    by_cases labels : row = label
    · subst labels
      exact findings_label written (broken rfl) _ _ passes
    · rw [if_neg (by simpa using labels)] at passes
      cases passes
      rfl
  krElse := krElse_eq written style limit fits
  krBrace := krBrace_eq written style limit fits
  allmanBrace := allmanBrace_eq written style limit fits

end Row

/-! ## Rows in a file -/

/-- A row and the level of blocks at which it stands. -/
structure Placed where
  level : Nat
  row : Row
deriving DecidableEq, Repr

namespace Placed

def raw (placed : Placed) : List Char :=
  List.replicate (indentUnit * placed.level) ' ' ++ placed.row.text

def line (placed : Placed) : Line :=
  .ofRaw .code placed.raw

theorem written (placed : Placed) : placed.line.Indents placed.row.flush := by
  apply Line.indents_ofRaw_code
  intro c member
  rw [List.eq_of_mem_replicate member]
  rfl

theorem stripped_line (placed : Placed) : placed.line.stripped = placed.row.text :=
  Row.stripped_eq placed.written

theorem hasCode_line (placed : Placed) : placed.line.hasCode = true := by
  rw [placed.written.hasCode_eq, placed.row.reading.hasCode]

/-- Every row has code, so the next line with code is the next row. -/
theorem find?_hasCode_map_line (first : Placed) (rest : List Placed) (more : List Line) :
    ((first :: rest).map line ++ more).find? Line.hasCode = some first.line := by
  rw [List.map_cons, List.cons_append, List.find?_cons_of_pos first.hasCode_line]

theorem indentWidth_raw (placed : Placed) :
    Source.indentWidth placed.raw = indentUnit * placed.level := by
  rw [raw, Source.indentWidth_replicate, placed.row.reading.indentWidth, Nat.add_zero]

/-- A row is one line of a text. -/
theorem oneLine_raw (placed : Placed) :
    '\n' ∉ placed.raw ∧ Source.dropReturn placed.raw = placed.raw := by
  obtain ⟨last, ends, noReturn⟩ := Option.map_eq_some_iff.mp placed.row.reading.last
  have endsToo : placed.raw.getLast? = some last := by
    rw [raw, List.getLast?_append, ends, Option.some_or]
  constructor
  · intro member
    rcases List.mem_append.mp member with inIndentation | inText
    · exact absurd (List.eq_of_mem_replicate inIndentation) (by decide)
    · exact placed.row.reading.oneLine inText
  · rw [Source.dropReturn, endsToo, if_neg]
    exact fun same => beq_eq_false_iff_ne.mp noReturn (Option.some.inj same)

/-- Rows are read as lines one by one, for none of them has a comment. -/
theorem ofRawsFrom_map_raw (rows : List Placed) :
    Line.ofRawsFrom .code (rows.map raw) = rows.map line := by
  induction rows with
  | nil => rfl
  | cons placed rows inductionHypothesis =>
    have after : (Line.ofRaw .code placed.raw).after = .code :=
      placed.written.after.trans placed.row.reading.after
    rw [List.map_cons, List.map_cons, Line.ofRawsFrom, after, inductionHypothesis]
    rfl

end Placed

end HouseStyle.Program
