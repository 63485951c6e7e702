import HouseStyle.Rule.Table
import HouseStyle.Scan.CaseBlock
import Mathlib.Data.List.Forall2

/-!
Contract: lines that look alike to every rule but the two on single characters.

Owns: what the checks read of a line, and the agreement of the rules on lines that read the same.
Does not own: why two lines read the same.

Besides the views of a line, the checks read little of it as it is written: how long it is and the
blanks that it starts with. Trailing white space and characters beyond ASCII are the exceptions, and
directives, which have rules on files and a state of the scan of their own.

Main statement: `check_eq_of_alike`.
-/

namespace HouseStyle

/-- The findings about pending work in some comments. -/
def Spacing.pending (comments : List Excerpt) : List Finding :=
  comments.filterMap fun comment =>
    (todoMarker.search? comment.text).map fun found =>
      (Kind.todoComment.on found.whole).shift comment.start

/-- Two lines with the same views, the same blanks at the start and the same length, whose comments
mark the same. -/
structure Line.Alike (line other : Line) : Prop where
  masked : line.masked = other.masked
  code : line.code = other.code
  before : line.before = other.before
  after : line.after = other.after
  length : line.raw.length = other.raw.length
  margin : line.raw.takeWhile Text.isBlank = other.raw.takeWhile Text.isBlank
  isMarked : CaseBlock.isMarked line = CaseBlock.isMarked other
  pending : Spacing.pending line.comments = Spacing.pending other.comments

/-- Two lines on which the rules on single characters find the same. -/
structure Line.SameCharacters (line other : Line) : Prop where
  trailing : Spacing.matchFindings .trailingWhitespace Spacing.trailingSpaces line.raw =
    Spacing.matchFindings .trailingWhitespace Spacing.trailingSpaces other.raw
  foreign : Call.firstForeign? 0 line.raw line.code = Call.firstForeign? 0 other.raw other.code

theorem Line.SameCharacters.refl (line : Line) : line.SameCharacters line :=
  ⟨rfl, rfl⟩

/-! ## What the blanks at the start decide -/

theorem isBlank_of_isIndentation {c : Char} (indentation : Source.isIndentation c) :
    Text.isBlank c = true := by
  rcases Bool.or_eq_true_iff.mp indentation with space | tab
  · rw [beq_iff_eq.mp space]
    decide
  · rw [beq_iff_eq.mp tab]
    decide

/-- A text is blank if the blanks at its start are all of it. -/
theorem Text.isBlankText_eq (text : List Char) :
    isBlankText text = ((text.takeWhile isBlank).length == text.length) := by
  induction text with
  | nil => rfl
  | cons c text inductionHypothesis =>
    rw [isBlankText, List.all_cons, ← isBlankText, inductionHypothesis, List.takeWhile_cons]
    cases isBlank c <;> simp

theorem Source.leadingLength_margin (raw : List Char) :
    leadingLength (raw.takeWhile Text.isBlank) = leadingLength raw := by
  unfold leadingLength
  induction raw with
  | nil => rfl
  | cons c raw inductionHypothesis =>
    rw [List.takeWhile_cons (p := isIndentation)]
    by_cases indentation : isIndentation c
    · rw [List.takeWhile_cons_of_pos (isBlank_of_isIndentation indentation),
        List.takeWhile_cons_of_pos indentation, if_pos indentation, List.length_cons,
        List.length_cons, inductionHypothesis]
    · rw [if_neg indentation, List.takeWhile_cons]
      split
      · rw [List.takeWhile_cons_of_neg indentation]
      · rfl

theorem Source.indentWidth_margin (raw : List Char) :
    indentWidth (raw.takeWhile Text.isBlank) = indentWidth raw := by
  fun_induction indentWidth raw with
  | case1 rest inductionHypothesis =>
    rw [List.takeWhile_cons_of_pos (by decide), indentWidth, inductionHypothesis]
  | case2 rest inductionHypothesis =>
    rw [List.takeWhile_cons_of_pos (by decide), indentWidth, inductionHypothesis]
  | case3 raw noSpace noTab =>
    cases raw with
    | nil => rfl
    | cons c rest =>
      rw [List.takeWhile_cons]
      split
      · rw [indentWidth]
        · intro others same
          exact noSpace rest (by rw [(List.cons.inj same).1])
        · intro others same
          exact noTab rest (by rw [(List.cons.inj same).1])
      · rfl

namespace Line.Alike

variable {line other : Line} (alike : line.Alike other)
include alike

theorem stripped_eq : line.stripped = other.stripped := by
  rw [stripped, stripped, alike.code]

theorem hasCode_eq : line.hasCode = other.hasCode := by
  rw [hasCode, hasCode, alike.code]

theorem isBlank_eq : line.isBlank = other.isBlank := by
  rw [isBlank, isBlank, Text.isBlankText_eq, Text.isBlankText_eq, alike.margin, alike.length]

theorem isSkipped_eq : line.isSkipped = other.isSkipped := by
  rw [isSkipped, isSkipped, alike.isBlank_eq, alike.hasCode_eq]

theorem leadingLength_eq : Source.leadingLength line.raw = Source.leadingLength other.raw := by
  rw [← Source.leadingLength_margin, alike.margin, Source.leadingLength_margin]

theorem indentWidth_eq : Source.indentWidth line.raw = Source.indentWidth other.raw := by
  rw [← Source.indentWidth_margin, alike.margin, Source.indentWidth_margin]

end Line.Alike

theorem find?_hasCode_of_alike {lines others : List Line}
    (alike : List.Forall₂ Line.Alike lines others) :
    (lines.find? Line.hasCode).map Line.code = (others.find? Line.hasCode).map Line.code := by
  induction alike with
  | nil => rfl
  | @cons line other lines others first _ inductionHypothesis =>
    rw [List.find?_cons, List.find?_cons, first.hasCode_eq]
    cases other.hasCode with
    | true => exact congrArg some first.code
    | false => exact inductionHypothesis

/-! ## Rules -/

/-- Two views that only a rule on single characters can tell apart. -/
structure View.Alike (view other : View) : Prop where
  settings : view.settings = other.settings
  scope : view.scope = other.scope
  line : view.line.Alike other.line
  previous : view.previousCode?.map Line.code = other.previousCode?.map Line.code
  next : view.nextCode?.map Line.code = other.nextCode?.map Line.code

namespace Rule

variable {view other : View} (alike : view.Alike other)
include alike

theorem krElse_eq_of_alike : Brace.krElse view = Brace.krElse other := by
  have closes : ∀ view : View, (view.previousCode?.any fun line => line.stripped == ['}']) =
      (view.previousCode?.map Line.code).any fun code => Text.trim code == ['}'] := by
    intro view
    cases view.previousCode? <;> rfl
  unfold Brace.krElse View.stripped View.code
  rw [closes, closes, alike.previous, alike.settings, alike.line.stripped_eq, alike.line.code]

theorem krApartFindings_eq_of_alike : Brace.krApartFindings view = Brace.krApartFindings other := by
  have previous := alike.previous
  unfold Brace.krApartFindings View.stripped View.code
  rw [alike.line.stripped_eq, alike.line.code]
  cases first : view.previousCode? with
  | none =>
    have none : other.previousCode? = none := by simpa [first] using previous.symm
    rw [none]
  | some line =>
    rw [first] at previous
    obtain ⟨line', second, same⟩ := Option.map_eq_some_iff.mp previous.symm
    have stripped : line.stripped = line'.stripped := congrArg Text.trim same.symm
    simp only [second, stripped]

theorem krBrace_eq_of_alike : Brace.krBrace view = Brace.krBrace other := by
  have apart := krApartFindings_eq_of_alike alike
  unfold Brace.krBrace Brace.krAttachedFindings
  rw [apart]
  unfold View.stripped View.code
  rw [alike.settings, alike.line.stripped_eq, alike.line.code]

theorem functionDeclaration_eq_of_alike :
    FunctionHead.functionDeclaration view = FunctionHead.functionDeclaration other := by
  unfold FunctionHead.functionDeclaration FunctionHead.splitFindings View.previousCode View.stripped
    View.code
  rw [alike.previous, alike.line.stripped_eq, alike.line.code]

theorem returnTypeLine_eq_of_alike :
    FunctionHead.returnTypeLine view = FunctionHead.returnTypeLine other := by
  have names : ∀ view : View,
      (view.nextCode?.any fun next => (Function.leadingName? next.code).isSome) =
        (view.nextCode?.map Line.code).any fun code => (Function.leadingName? code).isSome := by
    intro view
    cases view.nextCode? <;> rfl
  unfold FunctionHead.returnTypeLine View.stripped View.code
  rw [names, names, alike.next, alike.line.stripped_eq, alike.line.code,
    alike.line.leadingLength_eq]

theorem lineLength_eq_of_alike : Spacing.lineLength view = Spacing.lineLength other := by
  unfold Spacing.lineLength
  rw [alike.settings, alike.line.length]

omit alike in
theorem nonAscii_eq_of_sameCharacters (same : view.line.SameCharacters other.line) :
    Call.nonAscii view = Call.nonAscii other := by
  unfold Call.nonAscii View.code
  rw [same.foreign]

theorem todoComment_eq_of_alike : Spacing.todoComment view = Spacing.todoComment other :=
  alike.line.pending

/-- Whether a rule looks at single characters as they are written. -/
def readsCharacters (rule : Rule) : Bool :=
  rule.name == "trailing_whitespace" || rule.name == "non_ascii"

/-- The rules agree on lines that look alike, those on single characters if these are the same. -/
theorem check_eq_of_alike :
    ∀ rule ∈ all, (readsCharacters rule → view.line.SameCharacters other.line) →
      rule.check view = rule.check other := by
  have length := lineLength_eq_of_alike alike
  have trailing : view.line.SameCharacters other.line →
      Spacing.trailingWhitespace view = Spacing.trailingWhitespace other :=
    Line.SameCharacters.trailing
  have foreign : view.line.SameCharacters other.line → Call.nonAscii view = Call.nonAscii other :=
    nonAscii_eq_of_sameCharacters
  have pending := todoComment_eq_of_alike alike
  have returnType := returnTypeLine_eq_of_alike alike
  have declaration := functionDeclaration_eq_of_alike alike
  have elses := krElse_eq_of_alike alike
  have braces := krBrace_eq_of_alike alike
  obtain ⟨settings, scope, before, ⟨raw, masked, code, comments, start, stop⟩, after⟩ := view
  obtain ⟨settings', scope', before', ⟨raw', masked', code', comments', start', stop'⟩, after'⟩ :=
    other
  obtain ⟨sameSettings, sameScope, sameLine, -, -⟩ := alike
  cases sameSettings
  cases sameScope
  cases (show masked = masked' from sameLine.masked)
  cases (show code = code' from sameLine.code)
  -- every other rule sees nothing but the two views of its own line
  simp only [all, rawRules, contentRules, statementRules, List.cons_append, List.nil_append,
    List.forall_mem_cons]
  refine ⟨fun _ => congrArg Except.ok length,
    fun same => congrArg Except.ok (trailing (same rfl)), fun _ => congrArg Except.ok pending,
    fun _ => rfl, fun _ => rfl, fun _ => rfl, fun _ => rfl, fun _ => rfl, fun _ => rfl,
    fun _ => rfl, fun _ => rfl, fun _ => rfl, fun _ => rfl, fun _ => rfl, fun _ => rfl,
    fun _ => rfl, fun same => congrArg Except.ok (foreign (same rfl)), fun _ => rfl,
    fun _ => declaration,
    fun _ => congrArg Except.ok returnType, fun _ => elses, fun _ => braces, fun _ => rfl,
    fun _ => rfl, fun _ => rfl, fun _ => rfl, fun _ => rfl, fun _ => rfl, fun _ => rfl, ?_⟩
  intro rule member
  exact absurd member List.not_mem_nil

end Rule

end HouseStyle
