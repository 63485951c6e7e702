import HouseStyle.Proofs.Indentation
import HouseStyle.Proofs.Scan.Indented
import HouseStyle.Proofs.Scan.Outcome

/-!
Contract: two scans side by side, one of a file and one of the same file without its indentation.

Owns: which parts of the state remember columns, and the agreement of both scans on all others.
Does not own: the complaints about indentation, which compare a line with what the state expects.

A state remembers a column in two places only: the indentation that the lines of a list of
parameters need, and the column of the tag of a type. Neither decides what a later line does to the
state.

Main statements: parallel states stay parallel (`Parallel.advance`), raise the same fault
(`Parallel.fault?_eq`) and expect the same indentation (`Parallel.expected?_eq`).
-/

namespace HouseStyle

/-! ## Lines -/

namespace Line.Indents

variable {line base : Line} (indents : line.Indents base)
include indents

theorem stripped_eq : line.stripped = base.stripped := by
  obtain ⟨indentation, all, same⟩ := indents.code
  rw [stripped, stripped, same, Text.trim_indented all]

theorem hasCode_eq : line.hasCode = base.hasCode := by
  obtain ⟨indentation, all, same⟩ := indents.code
  have nothing : (indentation.any fun c => !Text.isBlank c && c != maskCharacter) = false := by
    rw [List.any_eq_false]
    intro c member
    rw [isBlank_of_indentation all c member]
    simp
  rw [hasCode, hasCode, same, List.any_append, nothing, Bool.false_or]

theorem isBlank_eq : line.isBlank = base.isBlank := by
  obtain ⟨indentation, all, same⟩ := indents.raw
  have blank : indentation.all Text.isBlank = true :=
    List.all_eq_true.mpr (isBlank_of_indentation all)
  rw [isBlank, isBlank, Text.isBlankText, Text.isBlankText, same, List.all_append, blank,
    Bool.true_and]

theorem isSkipped_eq : line.isSkipped = base.isSkipped := by
  rw [isSkipped, isSkipped, indents.isBlank_eq, indents.hasCode_eq]

theorem isMarked_eq : CaseBlock.isMarked line = CaseBlock.isMarked base := by
  obtain ⟨indentation, all, same⟩ := indents.commentText
  unfold CaseBlock.isMarked Text.hasWord
  rw [same, Bool.eq_iff_iff, Text.isSome_find?_iff, Text.isSome_find?_iff]
  exact infix_indented_iff all (show CaseBlock.fallThroughMarker.head? = some 'f' from rfl) rfl

/-- The last character of a line that is not blank. -/
theorem getLast?_trimRight_eq :
    (Text.trimRight line.raw).getLast? = (Text.trimRight base.raw).getLast? := by
  obtain ⟨indentation, all, same⟩ := indents.raw
  rw [same, Text.getLast?_trimRight_indented all]

/-- The parentheses that a line leaves open. -/
theorem parens_eq : Text.excess '(' ')' line.code = Text.excess '(' ')' base.code := by
  obtain ⟨indentation, all, same⟩ := indents.code
  rw [same, Text.excess_indented all rfl rfl]

theorem isInline_eq : InlineControl.isInline line.code = InlineControl.isInline base.code := by
  obtain ⟨indentation, all, same⟩ := indents.code
  rw [same, InlineControl.isInline_indented all]

theorem chainsMoreThan_eq (count : Nat) :
    InlineControl.chainsMoreThan count line.code =
      InlineControl.chainsMoreThan count base.code := by
  obtain ⟨indentation, all, same⟩ := indents.code
  rw [same, InlineControl.chainsMoreThan_indented all]

theorem opens_eq : ParamBlock.opens line.code = ParamBlock.opens base.code := by
  obtain ⟨indentation, all, same⟩ := indents.code
  rw [same, ParamBlock.opens_indented all]

theorem isLabel_eq : CaseBlock.isLabel line.code = CaseBlock.isLabel base.code := by
  obtain ⟨indentation, all, same⟩ := indents.code
  rw [same, CaseBlock.isLabel_indented all]

theorem isSome_labelFindings?_eq :
    (Scan.labelFindings? line.code).isSome = (Scan.labelFindings? base.code).isSome := by
  obtain ⟨indentation, all, same⟩ := indents.code
  rw [same, Scan.isSome_labelFindings?_indented all]

theorem opensBracelessBody_eq :
    Indent.opensBracelessBody line.stripped line.code =
      Indent.opensBracelessBody base.stripped base.code := by
  obtain ⟨indentation, all, same⟩ := indents.code
  rw [Indent.opensBracelessBody, Indent.opensBracelessBody, indents.stripped_eq, same,
    count_indented all rfl, count_indented all rfl]

theorem isInclusion_eq : Scan.isInclusion line = Scan.isInclusion base := by
  obtain ⟨indentation, all, same⟩ := indents.raw
  rw [Scan.isInclusion, Scan.isInclusion, same,
    Pattern.fits_indented all Pattern.indentable_inclusion]

end Line.Indents

/-! ## Sites -/

/-- A list declares a function if its line holds a head, or the name after a bare return type. -/
theorem ParamBlock.isDeclaration_opening (code previous : List Char) :
    (opening code previous).isDeclaration =
      ((Function.head? code).isSome ||
        (Function.isBareReturnType previous && (Function.leadingName? code).isSome)) := by
  -- the test for an empty line before is implied: nothing is no return type
  have nothing : Function.isBareReturnType [] = false := by decide +kernel
  unfold opening
  cases Function.head? code with
  | some head => rfl
  | none =>
    cases previous with
    | nil =>
      rw [nothing]
      rfl
    | cons c previous =>
      simp only [List.isEmpty_cons, Bool.not_false, Bool.true_and, Option.isSome_none,
        Bool.false_or]
      by_cases bare : Function.isBareReturnType (c :: previous)
      · rw [if_pos bare, bare, Bool.true_and]
        cases Function.leadingName? code <;> rfl
      · rw [if_neg bare, Bool.eq_false_iff.mpr bare, Bool.false_and]
        rfl

/-- Two sites that a scan reads alike: their lines differ in indentation, and so do the lines around
them. -/
structure Site.Indents (site base : Site) : Prop where
  index : site.index = base.index
  line : site.line.Indents base.line
  previous : (site.before.find? Line.hasCode).map Line.stripped =
    (base.before.find? Line.hasCode).map Line.stripped
  next : site.nextCode?.map Line.stripped = base.nextCode?.map Line.stripped
  body : CaseBlock.body site = CaseBlock.body base

section Files

variable {lines bases : List Line} (indents : List.Forall₂ Line.Indents lines bases)
include indents

theorem find?_hasCode_eq :
    (lines.find? Line.hasCode).map Line.stripped =
      (bases.find? Line.hasCode).map Line.stripped := by
  induction indents with
  | nil => rfl
  | @cons line base lines bases first _ inductionHypothesis =>
    rw [List.find?_cons, List.find?_cons, first.hasCode_eq]
    cases base.hasCode with
    | true => exact congrArg some first.stripped_eq
    | false => exact inductionHypothesis

theorem CaseBlock.scanBody_eq (index : Nat) (depth : Int) (last : Option Nat) (marked : Bool) :
    scanBody index depth last marked lines = scanBody index depth last marked bases := by
  induction indents generalizing index depth last marked with
  | nil => rfl
  | cons first _ inductionHypothesis =>
    simp only [scanBody, first.hasCode_eq, first.stripped_eq, first.isMarked_eq,
      inductionHypothesis]

theorem Site.indents_of_forall₂ {before others : List Line}
    (earlier : List.Forall₂ Line.Indents before others) {line base : Line}
    (here : line.Indents base) (index : Nat) :
    Site.Indents ⟨index, before, line, lines⟩ ⟨index, others, base, bases⟩ where
  index := rfl
  line := here
  previous := find?_hasCode_eq earlier
  next := find?_hasCode_eq indents
  body := CaseBlock.scanBody_eq indents _ _ _ _

end Files

namespace Site.Indents

variable {site base : Site} (indents : site.Indents base)
include indents

theorem trim_previousCode_eq : Text.trim site.previousCode = Text.trim base.previousCode := by
  have trimmed : ∀ found : Option Line,
      Text.trim ((found.map Line.code).getD []) = (found.map Line.stripped).getD [] := by
    intro found
    cases found <;> rfl
  rw [previousCode, previousCode, trimmed, trimmed, indents.previous]

theorem isSome_nextCode?_eq : site.nextCode?.isSome = base.nextCode?.isSome := by
  have same := congrArg Option.isSome indents.next
  rwa [Option.isSome_map, Option.isSome_map] at same

theorem frameEnd?_eq : CaseBlock.frameEnd? site = CaseBlock.frameEnd? base := by
  obtain ⟨indentation, all, same⟩ := indents.line.code
  unfold CaseBlock.frameEnd? CaseBlock.hasBody
  rw [same, CaseBlock.parts?_indented all, indents.next, indents.isSome_nextCode?_eq, indents.body]
  cases CaseBlock.parts? base.line.code <;> rfl

theorem blockIndent_eq (indent : Int) :
    Indent.blockIndent site indent = Indent.blockIndent base indent := by
  have closes : ∀ site : Site, (site.nextCode?.any fun next => next.stripped == ['}']) =
      (site.nextCode?.map Line.stripped).any (· == ['}']) := by
    intro site
    cases site.nextCode? <;> rfl
  rw [Indent.blockIndent, Indent.blockIndent, closes, closes, indents.next]

/-- Both lines declare a function, or neither does. -/
theorem isDeclaration_opening_eq :
    (ParamBlock.opening site.line.code site.previousCode).isDeclaration =
      (ParamBlock.opening base.line.code base.previousCode).isDeclaration := by
  obtain ⟨indentation, all, same⟩ := indents.line.code
  rw [ParamBlock.isDeclaration_opening, ParamBlock.isDeclaration_opening, same,
    Function.isSome_head?_indented all, Function.isSome_leadingName?_indented all]
  unfold Function.isBareReturnType
  rw [indents.trim_previousCode_eq]

end Site.Indents

/-! ## States -/

/-- A type's head without the column of its tag. -/
def TypeHead.columnless (head : TypeHead) : TypeHead :=
  { head with tagColumn := 0 }

/-- An open type without the column of its tag. -/
def TypeScope.columnless (scope : TypeScope) : TypeScope :=
  { scope with head := scope.head.columnless }

/-- A type that waits for its brace, without the column of its tag. -/
def PendingType.columnless (pending : PendingType) : PendingType :=
  { pending with head := pending.head.columnless }

/-- A list of parameters without the indentation that its lines need. -/
def ParamBlock.columnless (block : ParamBlock) : ParamBlock :=
  { block with requiredIndent := 0 }

/-- Two values that are the same after a function are both missing or both there. -/
theorem missing_or_there {α β : Type} {f : α → β} {first second : Option α}
    (same : first.map f = second.map f) :
    (first = none ∧ second = none) ∨
      ∃ item other, first = some item ∧ second = some other ∧ f item = f other := by
  cases first with
  | none =>
    have none : second = none := by simpa using same.symm
    exact .inl ⟨rfl, none⟩
  | some item =>
    rcases Option.map_eq_some_iff.mp same.symm with ⟨other, there, equal⟩
    exact .inr ⟨item, other, rfl, there, equal.symm⟩

namespace TypeScope

theorem headOf?_indented (index : Nat) (indentation : List Char) (found : Match) :
    (headOf? index (found.indented indentation)).map TypeHead.columnless =
      (headOf? index found).map TypeHead.columnless := by
  unfold headOf?
  rw [Match.part?_indented, Match.part?_indented, Match.part?_indented]
  cases found.part? .keyword with
  | none => rfl
  | some word =>
    simp only [Option.map_some, Option.bind_eq_bind, Option.bind_some, Excerpt.moved]
    cases TypeKind.ofWord? word.text with
    | none => rfl
    | some kind => cases found.part? .tag <;> cases found.part? .typedefWord <;> rfl

theorem bareHead?_indented {indentation : List Char}
    (all : ∀ c ∈ indentation, Source.isIndentation c) (index : Nat) (code : List Char) :
    ((Member.bareStart.matchStart? (indentation ++ code)).bind (headOf? index)).map
        TypeHead.columnless =
      ((Member.bareStart.matchStart? code).bind (headOf? index)).map TypeHead.columnless := by
  have indentable : Member.bareStart.Indentable :=
    Pattern.indentable_typeStart.append Pattern.steady_atEnd
  rw [Pattern.matchStart?_indented all indentable]
  cases Member.bareStart.matchStart? code with
  | none => rfl
  | some found => exact headOf?_indented index indentation found

end TypeScope

namespace ScanState

/-- Two states that are equal field by field, but for the columns that they remember. -/
structure Parallel (state other : ScanState) : Prop where
  frames : state.frames = other.frames
  nextIndent : state.nextIndent = other.nextIndent
  types : state.types.map TypeScope.columnless = other.types.map TypeScope.columnless
  pendingType : state.pendingType.map PendingType.columnless =
    other.pendingType.map PendingType.columnless
  cases : state.cases = other.cases
  paramBlock : state.paramBlock.map ParamBlock.columnless =
    other.paramBlock.map ParamBlock.columnless
  comment : state.comment = other.comment
  blankRun : state.blankRun = other.blankRun
  inDefinition : state.inDefinition = other.inDefinition

theorem Parallel.refl (state : ScanState) : state.Parallel state :=
  ⟨rfl, rfl, rfl, rfl, rfl, rfl, rfl, rfl, rfl⟩

variable {state other : ScanState}

theorem Parallel.symm (parallel : state.Parallel other) : other.Parallel state where
  frames := parallel.frames.symm
  nextIndent := parallel.nextIndent.symm
  types := parallel.types.symm
  pendingType := parallel.pendingType.symm
  cases := parallel.cases.symm
  paramBlock := parallel.paramBlock.symm
  comment := parallel.comment.symm
  blankRun := parallel.blankRun.symm
  inDefinition := parallel.inDefinition.symm

theorem Parallel.trans {third : ScanState} (parallel : state.Parallel other)
    (further : other.Parallel third) : state.Parallel third where
  frames := parallel.frames.trans further.frames
  nextIndent := parallel.nextIndent.trans further.nextIndent
  types := parallel.types.trans further.types
  pendingType := parallel.pendingType.trans further.pendingType
  cases := parallel.cases.trans further.cases
  paramBlock := parallel.paramBlock.trans further.paramBlock
  comment := parallel.comment.trans further.comment
  blankRun := parallel.blankRun.trans further.blankRun
  inDefinition := parallel.inDefinition.trans further.inDefinition

theorem Parallel.ite {test : Prop} [Decidable test] {yes no otherYes otherNo : ScanState}
    (first : yes.Parallel otherYes) (second : no.Parallel otherNo) :
    (if test then yes else no).Parallel (if test then otherYes else otherNo) := by
  by_cases holds : test
  · rw [if_pos holds, if_pos holds]
    exact first
  · rw [if_neg holds, if_neg holds]
    exact second

namespace Parallel

variable (parallel : state.Parallel other)
include parallel

theorem top_eq : state.top = other.top := by
  rw [top, top, parallel.frames]

theorem depth_eq : state.depth = other.depth := by
  rw [depth, depth, parallel.frames]

theorem scope_eq : state.scope = other.scope := by
  have kinds : ∀ state : ScanState, state.scope =
      (state.types.map TypeScope.columnless).head?.map fun scope => scope.head.kind := by
    intro state
    rw [scope, List.head?_map, Option.map_map]
    rfl
  rw [kinds, kinds, parallel.types]

theorem push (indent : Int) : (state.push indent).Parallel (other.push indent) :=
  { parallel with frames := congrArg (List.cons indent.toNat) parallel.frames }

theorem pop : state.pop.Parallel other.pop :=
  { parallel with frames := congrArg List.tail parallel.frames }

theorem popMany (count : Nat) : (state.popMany count).Parallel (other.popMany count) :=
  { parallel with frames := congrArg (List.drop count) parallel.frames }

theorem expecting (indent : Option Int) :
    Parallel { state with nextIndent := indent } { other with nextIndent := indent } :=
  { parallel with nextIndent := rfl }

theorem closeFinished (index : Nat) :
    (CaseBlock.closeFinished index state).Parallel (CaseBlock.closeFinished index other) := by
  unfold CaseBlock.closeFinished
  rw [parallel.frames, parallel.cases]
  exact { parallel with frames := rfl, cases := rfl }

theorem enter (endLine? : Option Nat) (baseIndent : Int) :
    (CaseBlock.enter endLine? baseIndent state).Parallel
      (CaseBlock.enter endLine? baseIndent other) := by
  cases endLine? with
  | none => exact parallel
  | some endLine =>
    exact { parallel.push (baseIndent + indentUnit) with
      cases := congrArg (List.cons _) parallel.cases }

theorem openType {head otherHead : TypeHead} (same : head.columnless = otherHead.columnless) :
    (state.openType head).Parallel (other.openType otherHead) := by
  have scopes : TypeScope.columnless ⟨head, state.depth⟩ =
      TypeScope.columnless ⟨otherHead, other.depth⟩ := by
    rw [TypeScope.columnless, TypeScope.columnless, same, parallel.depth_eq]
  refine { parallel with types := ?_ }
  show TypeScope.columnless _ :: _ = TypeScope.columnless _ :: _
  rw [scopes]
  exact congrArg (List.cons _) parallel.types

theorem outside {line base : Line} (indents : line.Indents base) :
    (Indent.outside line state).Parallel (Indent.outside base other) := by
  unfold Indent.outside
  rw [indents.stripped_eq]
  exact parallel.pop.ite parallel

/-- Both states expect a line at the same indentation. -/
theorem expectedAt_eq {line base : Line} (indents : line.Indents base) :
    Indent.expectedAt line state = Indent.expectedAt base other := by
  have level := parallel.outside indents
  unfold Indent.expectedAt Indent.expected
  rw [indents.stripped_eq, level.nextIndent, level.top_eq]

variable {site base : Site}

theorem labelled (indents : site.Indents base) :
    (Indent.labelled site state).Parallel (Indent.labelled base other) := by
  have settled := (parallel.outside indents.line).expecting none
  unfold Indent.labelled
  rw [indents.line.isLabel_eq, indents.frameEnd?_eq, parallel.expectedAt_eq indents.line]
  exact (settled.enter _ _).ite settled

theorem opened (indents : site.Indents base) (baseIndent : Int) :
    (ParamBlock.opened site.line.code baseIndent site.previousCode state).Parallel
      (ParamBlock.opened base.line.code baseIndent base.previousCode other) := by
  have declares := indents.isDeclaration_opening_eq
  have trimmed : Text.trim site.line.code = Text.trim base.line.code := indents.line.stripped_eq
  refine { parallel with paramBlock := ?_ }
  simp only [ParamBlock.opened, Option.map_some, ParamBlock.columnless, declares, trimmed,
    indents.line.parens_eq, parallel.depth_eq]

theorem followBraces (indents : site.Indents base) (expected : Int) (startsWithClose : Bool) :
    (Indent.followBraces site expected startsWithClose state).Parallel
      (Indent.followBraces base expected startsWithClose other) := by
  have braceless := indents.line.opensBracelessBody_eq
  rw [indents.line.stripped_eq] at braceless
  simp only [Indent.followBraces, indents.line.stripped_eq, braceless, indents.blockIndent_eq]
  apply Parallel.ite
  · exact parallel.push _
  · apply Parallel.ite
    · exact parallel.popMany _
    · apply Parallel.ite
      · exact parallel.expecting _
      · exact parallel

theorem indentSettled (indents : site.Indents base) :
    (Indent.settled site state).Parallel (Indent.settled base other) := by
  have labelled := parallel.labelled indents
  unfold Indent.settled
  simp only [indents.line.isInline_eq, indents.line.opens_eq, parallel.expectedAt_eq indents.line,
    indents.line.stripped_eq]
  apply Parallel.ite
  · exact labelled
  · apply Parallel.ite
    · exact labelled.opened indents _
    · exact labelled.followBraces indents _ _

theorem continued {line baseLine : Line} (indents : line.Indents baseLine)
    {block otherBlock : ParamBlock} (same : block.columnless = otherBlock.columnless) :
    (ParamBlock.continued block line.code state).Parallel
      (ParamBlock.continued otherBlock baseLine.code other) := by
  have trimmed : Text.trim line.code = Text.trim baseLine.code := indents.stripped_eq
  rcases block with ⟨_, baseIndent, depth, isDefinition, isControl⟩
  rcases otherBlock with ⟨_, _, _, _, _⟩
  simp only [ParamBlock.columnless, ParamBlock.mk.injEq, true_and] at same
  rcases same with ⟨rfl, rfl, rfl, rfl⟩
  have outside : Parallel { state with paramBlock := none } { other with paramBlock := none } :=
    { parallel with paramBlock := rfl }
  unfold ParamBlock.continued
  simp only [indents.parens_eq, trimmed]
  apply Parallel.ite
  · exact { parallel with paramBlock := rfl }
  · apply Parallel.ite
    · exact outside.push _
    · apply Parallel.ite
      · exact outside.expecting _
      · exact outside

theorem closed {line baseLine : Line} (indents : line.Indents baseLine) :
    (TypeScope.closed line.code state).Parallel (TypeScope.closed baseLine.code other) := by
  have trimmed : Text.trim line.code = Text.trim baseLine.code := indents.stripped_eq
  have types := parallel.types
  unfold TypeScope.closed
  cases open' : state.types with
  | nil =>
    have none : other.types = [] := by simpa [open'] using types.symm
    simp only [none]
    exact parallel
  | cons scope inner =>
    rw [open'] at types
    obtain ⟨otherScope, otherInner, openToo, sameScope, sameInner⟩ :=
      List.map_eq_cons_iff.mp types.symm
    have depth : scope.depth = otherScope.depth := (congrArg TypeScope.depth sameScope).symm
    simp only [openToo, trimmed, parallel.depth_eq, depth]
    apply Parallel.ite
    · exact { parallel with types := sameInner.symm }
    · exact parallel

theorem openedOrClosed {line baseLine : Line} (indents : line.Indents baseLine) (index : Nat) :
    (TypeScope.openedOrClosed index line.code state).Parallel
      (TypeScope.openedOrClosed index baseLine.code other) := by
  have closed := parallel.closed indents
  obtain ⟨indentation, all, same⟩ := indents.code
  have bare := TypeScope.bareHead?_indented all index baseLine.code
  have braced := Pattern.matchStart?_indented all
    (Pattern.indentable_typeStart.append (Pattern.steady_char (c := '{'))) baseLine.code
  rw [← same] at bare braced
  unfold TypeScope.openedOrClosed
  rcases missing_or_there bare with
    ⟨missing, missingToo⟩ | ⟨head, otherHead, there, thereToo, equal⟩
  · rw [missing, missingToo]
    change Member.braceStart.matchStart? line.code =
      (Member.braceStart.matchStart? baseLine.code).map (Match.indented indentation) at braced
    rw [braced]
    cases Member.braceStart.matchStart? baseLine.code with
    | none => exact closed
    | some found =>
      have heads := TypeScope.headOf?_indented index indentation found
      simp only [Option.map_some]
      rcases missing_or_there heads with
        ⟨missing, missingToo⟩ | ⟨head, otherHead, there, thereToo, equal⟩
      · rw [missing, missingToo]
        exact closed
      · rw [there, thereToo]
        simp only [Match.stop_indented, same, TypeScope.staysOpen_indented all]
        exact (parallel.openType equal).ite parallel
  · rw [there, thereToo]
    refine { parallel with pendingType := ?_ }
    simp only [Option.map_some, PendingType.columnless, equal]

theorem typesSettled {line baseLine : Line} (indents : line.Indents baseLine) (index : Nat) :
    (TypeScope.settled index line.code state).Parallel
      (TypeScope.settled index baseLine.code other) := by
  have trimmed : Text.trim line.code = Text.trim baseLine.code := indents.stripped_eq
  have given : Parallel { state with pendingType := none } { other with pendingType := none } :=
    { parallel with pendingType := rfl }
  unfold TypeScope.settled
  rcases missing_or_there parallel.pendingType with
    ⟨missing, missingToo⟩ | ⟨pending, otherPending, there, thereToo, equal⟩
  · rw [missing, missingToo]
    exact parallel.openedOrClosed indents index
  · have lineEq : pending.line = otherPending.line := by
      show pending.columnless.line = otherPending.columnless.line
      rw [equal]
    have headEq : pending.head.columnless = otherPending.head.columnless := by
      show pending.columnless.head = otherPending.columnless.head
      rw [equal]
    rw [there, thereToo]
    simp only [lineEq, trimmed]
    apply Parallel.ite
    · exact parallel.openedOrClosed indents index
    · apply Parallel.ite
      · exact given.openType headEq
      · exact given.openedOrClosed indents index

theorem statementNext (indents : site.Indents base) :
    (Scan.statementNext site state).Parallel (Scan.statementNext base other) := by
  have settled := parallel.indentSettled indents
  unfold Scan.statementNext
  simp only [indents.line.isInline_eq, indents.line.opens_eq, indents.index]
  exact settled.ite (settled.typesSettled indents.line base.index)

theorem codeNext (indents : site.Indents base) :
    (Scan.codeNext site state).Parallel (Scan.codeNext base other) := by
  unfold Scan.codeNext
  rcases missing_or_there parallel.paramBlock with
    ⟨missing, missingToo⟩ | ⟨block, otherBlock, there, thereToo, equal⟩
  · rw [missing, missingToo]
    simp only [indents.line.stripped_eq, parallel.inDefinition,
      indents.line.isSome_labelFindings?_eq, indents.line.getLast?_trimRight_eq]
    apply Parallel.ite
    · exact { parallel with inDefinition := rfl, paramBlock := rfl }
    · exact parallel.ite (parallel.statementNext indents)
  · rw [there, thereToo]
    exact parallel.continued indents.line equal

theorem lineNext (indents : site.Indents base) :
    (Scan.lineNext site state).Parallel (Scan.lineNext base other) := by
  have inked : Parallel { state with blankRun := 0 } { other with blankRun := 0 } :=
    { parallel with blankRun := rfl }
  unfold Scan.lineNext
  simp only [indents.line.isBlank_eq, indents.line.before, indents.line.isSkipped_eq]
  apply Parallel.ite
  · apply Parallel.ite
    · exact parallel
    · exact { parallel with blankRun := congrArg (· + 1) parallel.blankRun }
  · apply Parallel.ite
    · exact inked
    · exact inked.codeNext indents

/-- Parallel states stay parallel. -/
theorem advance (indents : site.Indents base) :
    (Scan.advance site state).Parallel (Scan.advance base other) := by
  unfold Scan.advance
  rw [indents.index, indents.line.after]
  exact { (parallel.lineNext indents).closeFinished base.index with comment := rfl }

/-! ## Faults and expectations -/

theorem isStatement_eq {line baseLine : Line} (indents : line.Indents baseLine) :
    Scan.isStatement line state = Scan.isStatement baseLine other := by
  have noBlock : state.paramBlock.isNone = other.paramBlock.isNone := by
    have same := congrArg Option.isNone parallel.paramBlock
    rwa [Option.isNone_map, Option.isNone_map] at same
  have noLabel : (Scan.labelFindings? line.code).isNone =
      (Scan.labelFindings? baseLine.code).isNone := by
    rw [← Option.not_isSome, ← Option.not_isSome, indents.isSome_labelFindings?_eq]
  rw [Scan.isStatement, Scan.isStatement, indents.isBlank_eq, indents.hasCode_eq, noBlock,
    indents.stripped_eq, parallel.inDefinition, noLabel]

/-- Both scans expect a line at the same indentation, if it is a statement. -/
theorem expected?_eq {line baseLine : Line} (indents : line.Indents baseLine) :
    Scan.expected? line state = Scan.expected? baseLine other := by
  rw [Scan.expected?, Scan.expected?, parallel.isStatement_eq indents,
    parallel.expectedAt_eq indents]

theorem contentFault?_eq (indents : site.Indents base) (settings : Settings) :
    Rule.fault? .content (site.view settings state) =
      Rule.fault? .content (base.view settings other) := by
  obtain ⟨indentation, all, same⟩ := indents.line.code
  obtain ⟨margin, allMargin, sameMasked⟩ := indents.line.masked
  have constants : Call.definesConstants (site.view settings state) =
      Call.definesConstants (base.view settings other) := by
    show (Lexicon.definition.fits site.line.code || state.scope == some .enum ||
      Call.enumWord.occurs site.line.code) = _
    rw [same, Pattern.fits_indented all Pattern.indentable_definition, parallel.scope_eq,
      Call.occurs_enumWord_indented all]
    rfl
  have numbers : Call.numbers (site.view settings state) =
      (Call.numbers (base.view settings other)).map (Excerpt.moved margin.length) := by
    show (Call.number.findAll site.line.masked).map Match.whole = _
    rw [sameMasked, Call.numbers_margin allMargin]
    rfl
  unfold Rule.fault? Call.longNumber?
  simp only [constants, numbers, List.find?_map]
  split
  · rfl
  · rw [Option.map_map]
    rfl

/-- Both scans fail with the same fault, or neither fails. -/
theorem fault?_eq (indents : site.Indents base) (settings : Settings) :
    Scan.fault? settings site state = Scan.fault? settings base other := by
  have chains : Scan.chainFault? settings site.line state =
      Scan.chainFault? settings base.line other := by
    simp only [Scan.chainFault?, parallel.isStatement_eq indents.line,
      indents.line.chainsMoreThan_eq]
  have length : Scan.lengthFault? settings site.line = Scan.lengthFault? settings base.line := by
    rw [Scan.lengthFault?, Scan.lengthFault?, indents.line.isBlank_eq]
  unfold Scan.fault? Scan.contentFault?
  rw [chains, length, parallel.contentFault?_eq indents settings, indents.line.isBlank_eq,
    indents.line.hasCode_eq, indents.line.isInclusion_eq]

end Parallel

end ScanState

end HouseStyle
