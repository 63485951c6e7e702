import HouseStyle.Proofs.Answer
import HouseStyle.Proofs.Pattern.Reach
import HouseStyle.Proofs.Text
import HouseStyle.Proofs.Written
import HouseStyle.Rule.Table

/-!
Contract: every rule answers, with findings that it declares and that can be printed.

Owns: the kinds and the arguments of the findings of each rule, and the searches that a rule relies
on.
Does not own: the places that findings name.

One rule can fail: a number with too many digits has no value. The findings of one rule cannot always
be printed: the limit that a line exceeds may have too many digits. Every other search, look-up and
message succeeds on every line.

Main statements: `check_answers` for the rules that cannot fail, `magicNumber_answers` for the one
that can.
-/

namespace HouseStyle

/-- A finding whose arguments fit its message. -/
def Finding.Printable (finding : Finding) : Prop :=
  ∃ message, finding.kind.template.format finding.arguments = .ok message

/-- Findings of the given kinds. -/
def OfKinds (kinds : List Kind) (findings : List Finding) : Prop :=
  ∀ finding ∈ findings, finding.kind ∈ kinds

/-- Printable findings of the given kinds. -/
def Declared (kinds : List Kind) (findings : List Finding) : Prop :=
  ∀ finding ∈ findings, finding.kind ∈ kinds ∧ finding.Printable

namespace Declared

variable {kinds others : List Kind} {findings more : List Finding} {finding : Finding}

@[simp] theorem nil : Declared kinds [] := by
  intro finding member
  exact absurd member List.not_mem_nil

@[simp] theorem append :
    Declared kinds (findings ++ more) ↔ Declared kinds findings ∧ Declared kinds more :=
  List.forall_mem_append

@[simp] theorem singleton : Declared kinds [finding] ↔ finding.kind ∈ kinds ∧ finding.Printable := by
  unfold Declared
  rw [List.forall_mem_singleton]

theorem one {kind : Kind} {column length : Int} {arguments : List Argument}
    (member : kind ∈ kinds) (printable : ∃ message, kind.template.format arguments = .ok message) :
    Declared kinds [⟨kind, column, length, arguments⟩] :=
  singleton.mpr ⟨member, printable⟩

theorem ofKinds (declared : Declared kinds findings) : OfKinds kinds findings :=
  fun finding member => (declared finding member).1

theorem mono (declared : Declared kinds findings) (sub : kinds ⊆ others) :
    Declared others findings :=
  fun finding member => ⟨sub (declared finding member).1, (declared finding member).2⟩

@[simp] theorem map {α : Type} {items : List α} {make : α → Finding} :
    Declared kinds (items.map make) ↔
      ∀ item ∈ items, (make item).kind ∈ kinds ∧ (make item).Printable :=
  List.forall_mem_map

theorem shift (declared : Declared kinds findings) (offset : Int) :
    Declared kinds (findings.map fun finding => finding.shift offset) :=
  map.mpr declared

@[simp] theorem flatMap {α : Type} {items : List α} {make : α → List Finding} :
    Declared kinds (items.flatMap make) ↔ ∀ item ∈ items, Declared kinds (make item) := by
  unfold Declared
  simp only [List.mem_flatMap]
  constructor
  · intro all item member finding found
    exact all finding ⟨item, member, found⟩
  · intro all finding found
    rcases found with ⟨item, member, found⟩
    exact all item member finding found

@[simp] theorem filterMap {α : Type} {items : List α} {make : α → Option Finding} :
    Declared kinds (items.filterMap make) ↔
      ∀ item ∈ items, ∀ finding, make item = some finding →
        finding.kind ∈ kinds ∧ finding.Printable := by
  unfold Declared
  simp only [List.mem_filterMap]
  constructor
  · intro all item member finding found
    exact all finding ⟨item, member, found⟩
  · intro all finding found
    rcases found with ⟨item, member, found⟩
    exact all item member finding found

theorem ite {condition : Prop} [Decidable condition] (yes : condition → Declared kinds findings)
    (no : ¬ condition → Declared kinds more) :
    Declared kinds (if condition then findings else more) := by
  split
  next holds => exact yes holds
  next fails => exact no fails

end Declared

/-- A message without arguments is its own template. -/
theorem Finding.printable_of_no_arguments {finding : Finding} (none : finding.arguments = []) :
    finding.Printable := by
  refine ⟨finding.kind.template.written, ?_⟩
  rw [none]
  rfl

@[simp] theorem Kind.printable_on (kind : Kind) (excerpt : Excerpt) : (kind.on excerpt).Printable :=
  Finding.printable_of_no_arguments rfl

@[simp] theorem Kind.printable_atColumn (kind : Kind) (column : Nat) :
    (kind.atColumn column).Printable :=
  Finding.printable_of_no_arguments rfl

/-! ## Lines and spaces -/

namespace Spacing

theorem ofKinds_lineLength (view : View) : OfKinds [.lineTooLong] (lineLength view) := by
  intro finding member
  obtain ⟨-, same⟩ := List.mem_ite_nil_right.mp member
  rw [List.mem_singleton.mp same]
  exact List.mem_singleton_self _

theorem declared_lineLength {view : View} (writable : view.settings.Writable) :
    Declared [.lineTooLong] (lineLength view) := by
  refine Declared.ite ?_ (fun _ => Declared.nil)
  intro _
  exact Declared.one (by decide) ⟨_, (Kind.lineTooLong_format _ _).trans (if_pos writable)⟩

/-- Every line exceeds a limit that cannot be written, and cannot be complained about for it. -/
theorem lineLength_eq_of_not_writable {view : View} (unwritable : ¬ view.settings.Writable) :
    ∃ finding, lineLength view = [finding] ∧
      ∀ number, finding.onLine number = .error (.numeralTooLong none) := by
  have below : view.settings.limit < 0 := (Classical.not_imp.mp unwritable).1
  have exceeds : view.settings.limit < (view.line.raw.length : Int) :=
    Int.lt_of_lt_of_le below (Int.natCast_nonneg _)
  refine ⟨_, if_pos exceeds, fun number => ?_⟩
  rw [Finding.onLine, Kind.diagnostic, Kind.lineTooLong_format, if_neg unwritable,
    Answer.error_bind]

theorem declared_matchFindings (kind : Kind) (pattern : Pattern) (text : List Char) :
    Declared [kind] (matchFindings kind pattern text) := by
  apply Declared.map.mpr
  intro found _
  exact ⟨List.mem_singleton_self _, kind.printable_on _⟩

theorem declared_todoComment (view : View) : Declared [.todoComment] (todoComment view) := by
  apply Declared.filterMap.mpr
  intro comment _ finding found
  rcases Option.map_eq_some_iff.mp found with ⟨marker, -, rfl⟩
  exact ⟨List.mem_singleton_self _, Finding.printable_of_no_arguments rfl⟩

theorem declared_isolated (target : Char) (before after : Kind) (text : List Char) :
    Declared [before, after] (isolated target before after text) := by
  apply Declared.flatMap.mpr
  intro place _
  refine Declared.append.mpr ⟨?_, ?_⟩
  · refine Declared.ite (fun _ => ?_) (fun _ => Declared.nil)
    exact Declared.singleton.mpr ⟨List.mem_cons_self, before.printable_atColumn _⟩
  · refine Declared.ite (fun _ => ?_) (fun _ => Declared.nil)
    exact Declared.singleton.mpr ⟨List.mem_cons_of_mem _ List.mem_cons_self,
      after.printable_atColumn _⟩

theorem declared_ternarySpacing (view : View) :
    Declared [.ternaryQuestionSpaceBefore, .ternaryQuestionSpaceAfter, .ternaryColonSpaceBefore,
      .ternaryColonSpaceAfter] (ternarySpacing view) := by
  refine Declared.append.mpr ⟨?_, ?_⟩
  · exact (declared_isolated _ _ _ _).mono (by decide)
  · refine Declared.ite (fun _ => Declared.nil) (fun _ => ?_)
    exact (declared_isolated _ _ _ _).mono (by decide)

theorem declared_keywordSpaceBeforeParen (view : View) :
    Declared [.keywordSpaceBeforeParen] (keywordSpaceBeforeParen view) := by
  apply Declared.filterMap.mpr
  intro comment _ finding found
  rcases Option.map_eq_some_iff.mp found with ⟨keyword, -, rfl⟩
  exact ⟨List.mem_singleton_self _, Kind.printable_on _ _⟩

end Spacing

/-! ## Pointers, operators and calls -/

theorem Pointer.declared_pointerFormat (view : View) :
    Declared [.pointerFormat, .pointerCastDetached] (pointerFormat view) := by
  refine Declared.append.mpr ⟨?_, ?_⟩
  · apply Declared.flatMap.mpr
    intro pattern _
    apply Declared.map.mpr
    intro found _
    exact ⟨List.mem_cons_self, Kind.printable_on _ _⟩
  · apply Declared.map.mpr
    intro found _
    exact ⟨List.mem_cons_of_mem _ List.mem_cons_self, Kind.printable_on _ _⟩

theorem Operator.declared_operatorSpacing (view : View) :
    Declared [.operatorSpaceBefore, .operatorSpaceAfter] (operatorSpacing view) := by
  apply Declared.flatMap.mpr
  intro operator _
  refine Declared.append.mpr ⟨?_, ?_⟩
  · refine Declared.ite (fun _ => ?_) (fun _ => Declared.nil)
    exact Declared.one (by decide) ⟨_, rfl⟩
  · refine Declared.ite (fun _ => ?_) (fun _ => Declared.nil)
    exact Declared.one (by decide) ⟨_, rfl⟩

namespace Call

theorem declared_insecureFunction (view : View) :
    Declared [.insecureFunction] (insecureFunction view) := by
  apply Declared.filterMap.mpr
  intro call _ finding found
  rcases Option.bind_eq_some_iff.mp found with ⟨name, -, found⟩
  rcases Option.bind_eq_some_iff.mp found with ⟨advice, -, found⟩
  cases found
  exact ⟨List.mem_singleton_self _, _, rfl⟩

theorem declared_allocCast (view : View) : Declared [.allocNotCast] (allocCast view) := by
  apply Declared.filterMap.mpr
  intro call _ finding found
  rcases Option.bind_eq_some_iff.mp found with ⟨name, -, found⟩
  rcases Option.ite_none_left_eq_some.mp found with ⟨-, found⟩
  cases found
  exact ⟨List.mem_singleton_self _, _, rfl⟩

theorem declared_callSpace (view : View) : Declared [.spaceBeforeCallParen] (callSpace view) := by
  refine Declared.ite (fun _ => Declared.nil) (fun _ => ?_)
  apply Declared.filterMap.mpr
  intro call _ finding found
  rcases Option.bind_eq_some_iff.mp found with ⟨name, -, found⟩
  rcases Option.ite_none_left_eq_some.mp found with ⟨-, found⟩
  cases found
  exact ⟨List.mem_singleton_self _, Kind.printable_on _ _⟩

theorem declared_nonAscii (view : View) : Declared [.nonAsciiCharacter] (nonAscii view) := by
  unfold nonAscii
  split
  · exact Declared.one (by decide) ⟨_, rfl⟩
  · exact Declared.nil

end Call

/-! ## Names with a parenthesis -/

/-- A name at the start of a line has its parenthesis after it. -/
theorem Function.paren_after_leadingName? {code : List Char} {name : Excerpt}
    (found : Function.leadingName? code = some name) : '(' ∈ code.drop name.stop := by
  rcases Option.bind_eq_some_iff.mp found with ⟨matched, fits, part⟩
  rcases Pattern.exists_of_matchAt? fits with ⟨stop, reached, rfl⟩
  simp only [Function.nameOnly, Pattern.mem_outcomes_append, Pattern.mem_outcomes_capture,
    Pattern.mem_outcomes_char, Pattern.blanks, Pattern.mem_outcomes_many] at reached
  obtain ⟨_, ⟨_, ⟨first, ⟨start, atStart, blanks⟩, inside, ident, rfl⟩, gap, others, split, -, rfl⟩,
    rest, paren, rfl⟩ := reached
  have early : (Cursor.atStart code).Reaches first := by
    rcases blanks with ⟨consumed, rest, blank, -, rfl⟩
    exact (Pattern.reaches_of_mem_outcomes atStart).trans (Cursor.reaches_after blank)
  have late := Pattern.reaches_of_mem_outcomes ident
  simp only [Cursor.part?_matched, Cursor.advance, Cursor.after, Cursor.record,
    List.lookup_cons_self, Option.map_some, Option.some.injEq] at part split paren
  rw [← part, early.stop_excerpt late, (early.trans late).rest_eq_drop, split, paren]
  simp

namespace FunctionHead

theorem declared_nameFindings (name : Excerpt) (gap : List Char) :
    Declared [.functionNameNotModuleCamel, .functionNameSpaceBeforeParen]
      (Function.nameFindings name gap) := by
  refine Declared.append.mpr ⟨?_, ?_⟩
  · refine Declared.ite (fun _ => Declared.nil) (fun _ => ?_)
    exact Declared.one (by decide) ⟨_, rfl⟩
  · refine Declared.ite (fun _ => Declared.nil) (fun _ => ?_)
    exact Declared.one (by decide) ⟨_, rfl⟩

theorem declared_parameters (code : List Char) (start stop : Int) :
    Declared [.paramNameNotSnake] (Parameter.findingsBetween code start stop) := by
  refine Declared.shift ?_ start
  apply Declared.filterMap.mpr
  intro piece _ finding found
  unfold Parameter.finding? at found
  split at found
  · rcases Option.bind_eq_some_iff.mp found with ⟨name, -, found⟩
    rcases Option.ite_none_left_eq_some.mp found with ⟨-, found⟩
    cases found
    exact ⟨List.mem_singleton_self _, _, rfl⟩
  · cases found

/-- The kinds of findings about the head of a function. -/
def kinds : List Kind :=
  [.functionNameNotModuleCamel, .functionNameSpaceBeforeParen, .paramNameNotSnake,
    .functionBraceOwnLine]

theorem declared_prototypeFindings (code : List Char) (prototype : Function.Prototype) :
    Declared kinds (prototypeFindings code prototype) := by
  refine Declared.append.mpr ⟨Declared.append.mpr ⟨?_, ?_⟩, ?_⟩
  · exact (declared_nameFindings _ _).mono (by decide)
  · exact (declared_parameters _ _ _).mono (by decide)
  · split
    · refine Declared.ite (fun _ => ?_) (fun _ => Declared.nil)
      exact Declared.one (by decide) ⟨_, rfl⟩
    · exact Declared.nil

theorem splitFindings_answers {view : View} {name : Excerpt}
    (found : Function.leadingName? view.code = some name) :
    ∃ findings, splitFindings view name = .ok findings ∧ Declared kinds findings := by
  rcases Text.exists_index_character (Function.paren_after_leadingName? found) with ⟨paren, here⟩
  simp only [splitFindings, here, Answer.ok_bind]
  refine ⟨_, rfl, Declared.append.mpr ⟨Declared.append.mpr ⟨?_, ?_⟩, ?_⟩⟩
  · exact (declared_nameFindings _ _).mono (by decide)
  · split
    · refine Declared.ite (fun _ => ?_) (fun _ => Declared.nil)
      exact (declared_parameters _ _ _).mono (by decide)
    · exact Declared.nil
  · refine Declared.ite (fun _ => ?_) (fun _ => Declared.nil)
    split
    · exact Declared.one (by decide) ⟨_, rfl⟩
    · exact Declared.nil

theorem functionDeclaration_answers (view : View) :
    ∃ findings, functionDeclaration view = .ok findings ∧ Declared kinds findings := by
  unfold functionDeclaration
  split
  · exact ⟨_, rfl, declared_prototypeFindings _ _⟩
  · split
    next name found =>
      split
      · exact splitFindings_answers found
      · exact ⟨_, rfl, Declared.nil⟩
    next => exact ⟨_, rfl, Declared.nil⟩

theorem declared_returnTypeLine (view : View) :
    Declared [.returnTypeSeparateLine] (returnTypeLine view) := by
  refine Declared.ite (fun _ => ?_) (fun _ => Declared.nil)
  exact Declared.one (by decide) ⟨_, rfl⟩

end FunctionHead

/-! ## Braces -/

namespace Brace

theorem krElse_answers (view : View) :
    ∃ findings, krElse view = .ok findings ∧ Declared [.krElseSameLine] findings := by
  unfold krElse
  split
  · exact ⟨_, rfl, Declared.nil⟩
  next late =>
    split
    · have written : "else".toList <:+: view.code.drop 0 := by
        have fits : elseWord.fits view.stripped := by
          simp only [Bool.or_eq_true, not_or, Bool.not_eq_true', Bool.not_eq_false] at late
          exact late.2
        rcases Pattern.fits_iff.mp fits with ⟨stop, reached⟩
        simp only [elseWord, Pattern.mem_outcomes_append, Pattern.mem_outcomes_word] at reached
        rcases reached with ⟨_, ⟨rest, split, -⟩, -⟩
        have here : view.stripped = "else".toList ++ rest := split
        refine List.IsInfix.trans ?_ (Text.isInfix_trim view.code)
        exact ⟨[], rest, here.symm⟩
      rcases Text.exists_index written with ⟨column, found⟩
      rw [found, Answer.ok_bind]
      exact ⟨_, rfl, Declared.one (by decide) ⟨_, rfl⟩⟩
    · exact ⟨_, rfl, Declared.nil⟩

theorem exists_index_of_mem_stripped {view : View} {c : Char} (member : c ∈ view.stripped) :
    ∃ column, Text.index [c] 0 view.code = .ok column :=
  Text.exists_index_character ((Text.isInfix_trim view.code).subset member)

theorem krApartFindings_answers (view : View) :
    ∃ findings, krApartFindings view = .ok findings ∧ Declared [.krBraceSameLine] findings := by
  unfold krApartFindings
  split
  · exact ⟨_, rfl, Declared.nil⟩
  next alone =>
    split
    · split
      · exact ⟨_, rfl, Declared.nil⟩
      · split
        · have member : '{' ∈ view.stripped := by
            simp only [bne_iff_ne, ne_eq, Decidable.not_not] at alone
            rw [alone]
            exact List.mem_singleton_self _
          rcases exists_index_of_mem_stripped member with ⟨column, found⟩
          rw [found, Answer.ok_bind]
          exact ⟨_, rfl, Declared.one (by decide) ⟨_, rfl⟩⟩
        · exact ⟨_, rfl, Declared.nil⟩
    · exact ⟨_, rfl, Declared.nil⟩

theorem krBrace_answers (view : View) :
    ∃ findings, krBrace view = .ok findings ∧
      Declared [.krSpaceBeforeBrace, .krBraceSameLine] findings := by
  rcases krApartFindings_answers view with ⟨apart, answers, declared⟩
  unfold krBrace
  split
  · exact ⟨_, rfl, Declared.nil⟩
  · rw [answers, Answer.ok_bind]
    refine ⟨_, rfl, Declared.append.mpr ⟨?_, declared.mono (by decide)⟩⟩
    refine Declared.ite (fun _ => ?_) (fun _ => Declared.nil)
    apply Declared.map.mpr
    intro found _
    exact ⟨List.mem_cons_self, Kind.printable_atColumn _ _⟩

theorem declared_allmanBrace (view : View) : Declared [.allmanBraceOwnLine] (allmanBrace view) := by
  refine Declared.ite (fun _ => Declared.nil) (fun _ => ?_)
  split
  · exact Declared.one (by decide) ⟨_, rfl⟩
  · exact Declared.nil

theorem closingBraceOwnLine_answers (view : View) :
    ∃ findings, closingBraceOwnLine view = .ok findings ∧
      Declared [.closingBraceOwnLine] findings := by
  unfold closingBraceOwnLine
  simp only
  split
  · exact ⟨_, rfl, Declared.nil⟩
  next more =>
    have member : '}' ∈ view.stripped := by
      rw [Bool.or_eq_true, not_or, decide_eq_true_eq, Text.excess] at more
      rw [← List.count_pos_iff]
      omega
    rcases exists_index_of_mem_stripped member with ⟨column, found⟩
    rw [found, Answer.ok_bind]
    exact ⟨_, rfl, Declared.one (by decide) ⟨_, rfl⟩⟩

end Brace

/-! ## Variables, members and aliases -/

namespace Variable

theorem declared_uninitializedDeclaration (view : View) :
    Declared [.uninitializedDeclaration] (uninitializedDeclaration view) := by
  refine Declared.ite (fun _ => Declared.nil) (fun _ => ?_)
  split
  · exact Declared.one (by decide) ⟨_, rfl⟩
  · exact Declared.nil

theorem declared_variableNaming (view : View) :
    Declared [.variableEndsWithT, .variableNotSnake] (variableNaming view) := by
  refine Declared.ite (fun _ => Declared.nil) (fun _ => ?_)
  split
  · exact Declared.nil
  · refine Declared.ite (fun _ => ?_) (fun _ => Declared.ite (fun _ => Declared.nil) (fun _ => ?_))
    · exact Declared.one (by decide) ⟨_, rfl⟩
    · exact Declared.one (by decide) ⟨_, rfl⟩

theorem declared_multipleDeclarations (view : View) :
    Declared [.multipleDeclarations] (multipleDeclarations view) := by
  refine Declared.ite (fun _ => Declared.nil) (fun _ => ?_)
  split
  · exact Declared.nil
  · refine Declared.ite (fun _ => Declared.nil) (fun _ => ?_)
    exact Declared.one (by decide) ⟨_, rfl⟩

theorem declared_typedefNames (view : View) :
    Declared [.typedefFuncPtrName, .typedefAliasName] (typedefNames view) := by
  refine Declared.ite (fun _ => Declared.nil) (fun _ => ?_)
  unfold aliasName?
  split
  next => exact Declared.nil
  next kind name found =>
    refine Declared.ite (fun _ => Declared.nil) (fun _ => ?_)
    split at found
    · rcases Option.map_eq_some_iff.mp found with ⟨_, -, same⟩
      cases same
      exact Declared.one (by decide) ⟨_, rfl⟩
    · rcases Option.bind_eq_some_iff.mp found with ⟨_, -, found⟩
      rcases Option.bind_eq_some_iff.mp found with ⟨_, -, same⟩
      cases same
      exact Declared.one (by decide) ⟨_, rfl⟩

end Variable

namespace Member

theorem declared_findings (kind : TypeKind) (code : List Char) :
    Declared [.enumElementNotScreaming, .fieldNameNotSnake] (findings kind code) := by
  unfold findings
  split
  · split
    · refine Declared.ite (fun _ => Declared.nil) (fun _ => ?_)
      exact Declared.one (by decide) ⟨_, rfl⟩
    · exact Declared.nil
  · split
    · refine Declared.ite (fun _ => Declared.nil) (fun _ => ?_)
      exact Declared.one (by decide) ⟨_, rfl⟩
    · exact Declared.nil

theorem declared_typeMembers (view : View) :
    Declared [.enumElementNotScreaming, .fieldNameNotSnake] (typeMembers view) := by
  unfold typeMembers
  split
  · exact Declared.nil
  · refine Declared.ite (fun _ => Declared.nil) (fun _ => ?_)
    exact declared_findings _ _

end Member

/-! ## Definitions -/

namespace Definition

/-- The kinds of findings about a definition. -/
def kinds : List Kind :=
  [.macroNameNotScreaming, .macroParamNotSnake, .macroBodyNoSpace, .macroBodyNotParenthesized,
    .macroBodyIdentNotSnake]

theorem declared_parameterFindings (list : Excerpt) : Declared kinds (parameterFindings list) := by
  apply Declared.filterMap.mpr
  intro parameter _ finding found
  rcases Option.ite_none_left_eq_some.mp found with ⟨-, found⟩
  cases found
  exact Declared.singleton.mp (Declared.one (by decide) ⟨_, rfl⟩)

theorem declared_identifierFindings (name list rest : Excerpt) :
    Declared kinds (identifierFindings name list rest) := by
  apply Declared.filterMap.mpr
  intro identifier _ finding found
  rcases Option.ite_none_left_eq_some.mp found with ⟨-, found⟩
  cases found
  have quoted : Declared kinds [Kind.macroBodyIdentNotSnake.quoting identifier] :=
    Declared.one (by decide) ⟨_, rfl⟩
  exact Declared.singleton.mp (quoted.shift _)

theorem bodyFindings_answers {code : List Char} {rest : Excerpt}
    (inside : rest.text <:+: code.drop rest.start) :
    ∃ findings, bodyFindings code rest = .ok findings ∧ Declared kinds findings := by
  simp only [bodyFindings]
  split
  · exact ⟨_, rfl, Declared.nil⟩
  · rcases Text.exists_index ((Text.isInfix_trim rest.text).trans inside) with ⟨position, found⟩
    rw [found, Answer.ok_bind]
    exact ⟨_, rfl, Declared.one (by decide) ⟨_, rfl⟩⟩

theorem bodyAndParameterFindings_answers {code : List Char} {rest : Excerpt}
    (inside : rest.text <:+: code.drop rest.start) (name list : Excerpt) :
    ∃ findings, bodyAndParameterFindings code name list rest = .ok findings ∧
      Declared kinds findings := by
  rcases bodyFindings_answers inside with ⟨enclosing, answers, declared⟩
  simp only [bodyAndParameterFindings, answers, Answer.ok_bind]
  refine ⟨_, rfl, ?_⟩
  simp only [Declared.append]
  refine ⟨⟨⟨declared_parameterFindings list, ?_⟩, declared⟩,
    declared_identifierFindings name list rest⟩
  refine Declared.ite (fun _ => ?_) (fun _ => Declared.nil)
  exact Declared.one (by decide) ⟨_, rfl⟩

theorem definitionLine_answers (view : View) :
    ∃ findings, definitionLine view = .ok findings ∧ Declared kinds findings := by
  have named : ∀ name : Excerpt, Declared kinds
      (if Naming.isScreaming name.text then [] else [Kind.macroNameNotScreaming.quoting name]) := by
    intro name
    refine Declared.ite (fun _ => Declared.nil) (fun _ => ?_)
    exact Declared.one (by decide) ⟨_, rfl⟩
  simp only [definitionLine]
  split
  next name _ =>
    split
    next found fits =>
      split
      next list _ =>
        split
        next rest recorded =>
          obtain ⟨others, answers, declared⟩ := bodyAndParameterFindings_answers
            (Pattern.infix_of_part? fits recorded) name list
          rw [answers, Answer.ok_bind]
          exact ⟨_, rfl, Declared.append.mpr ⟨named name, declared⟩⟩
        next => exact ⟨_, rfl, named name⟩
      next => exact ⟨_, rfl, named name⟩
    next => exact ⟨_, rfl, named name⟩
  next => exact ⟨_, rfl, Declared.nil⟩

end Definition

/-! ## Numbers -/

namespace Call

/-- The numbers of a line. -/
def numbers (view : View) : List Excerpt :=
  (number.findAll view.masked).map Match.whole

/-- The first number of a line that is too long to have a value, unless numbers on the line are
constants by nature. -/
def longNumber? (view : View) : Option Excerpt :=
  if definesConstants view then none
  else (numbers view).find? fun number => Text.digitLimit < number.length

theorem numberFinding?_eq_error {number : Excerpt} (long : Text.digitLimit < number.length) :
    numberFinding? number = .error (.numeralTooLong (some number.length)) := by
  rw [numberFinding?, numberValue, if_neg (by omega)]
  rfl

theorem numberFinding?_answers {number : Excerpt} (short : number.length ≤ Text.digitLimit) :
    ∃ finding?, numberFinding? number = .ok finding? ∧ Declared [.magicNumber] finding?.toList := by
  rw [numberFinding?, numberValue, if_pos short, Answer.ok_bind]
  refine ⟨_, rfl, ?_⟩
  split
  · exact Declared.one (by decide) ⟨_, rfl⟩
  · exact Declared.nil

theorem magicNumber_eq {view : View} (plain : definesConstants view = false) :
    magicNumber view = (do
      let findings ← (numbers view).mapM numberFinding?
      return findings.filterMap id) := by
  simp only [magicNumber, plain, numbers, List.mapM_map]
  rfl

theorem magicNumber_eq_error {view : View} {long : Excerpt} (found : longNumber? view = some long) :
    magicNumber view = .error (.numeralTooLong (some long.length)) := by
  rcases Option.ite_none_left_eq_some.mp found with ⟨plain, first⟩
  rcases List.find?_eq_some_iff_append.mp first with ⟨exceeds, before, after, split, others⟩
  have fails := numberFinding?_eq_error (of_decide_eq_true exceeds)
  have passed : ∀ other ∈ before, ∃ finding?, numberFinding? other = .ok finding? := by
    intro other member
    have short : other.length ≤ Text.digitLimit := by simpa using others other member
    rcases numberFinding?_answers short with ⟨finding?, answers, -⟩
    exact ⟨finding?, answers⟩
  rw [magicNumber_eq (by simpa using plain), split, Answer.mapM_eq_error passed fails]
  rfl

theorem magicNumber_answers {view : View} (none : longNumber? view = none) :
    ∃ findings, magicNumber view = .ok findings ∧ Declared [.magicNumber] findings := by
  by_cases constants : definesConstants view
  · simp only [magicNumber, constants, if_true]
    exact ⟨_, rfl, Declared.nil⟩
  · rw [longNumber?, if_neg constants, List.find?_eq_none] at none
    have answers : ∀ number ∈ numbers view, ∃ finding?, numberFinding? number = .ok finding? ∧
        Declared [.magicNumber] finding?.toList := by
      intro number member
      exact numberFinding?_answers (by simpa using none number member)
    rcases Answer.mapM_answers answers with ⟨findings, given, declared⟩
    rw [magicNumber_eq (by simpa using constants), given, Answer.ok_bind]
    refine ⟨_, rfl, Declared.filterMap.mpr ?_⟩
    intro item member finding same
    rcases declared item member with ⟨-, -, each⟩
    exact each finding (Option.mem_toList.mpr same)

end Call

/-! ## All rules of a phase -/

namespace Rule

/-- The rule answers with findings of the kinds that it declares. -/
def Finds (rule : Rule) (view : View) : Prop :=
  ∃ findings, rule.check view = .ok findings ∧ OfKinds rule.kinds findings

/-- The rule answers with findings that it declares and that can be printed. -/
def Answers (rule : Rule) (view : View) : Prop :=
  ∃ findings, rule.check view = .ok findings ∧ Declared rule.kinds findings

theorem Answers.finds {rule : Rule} {view : View} (answers : rule.Answers view) :
    rule.Finds view := by
  obtain ⟨findings, given, declared⟩ := answers
  exact ⟨findings, given, declared.ofKinds⟩

/-- Every rule but the one on numbers answers on every line. What it finds can be printed, unless it
reads raw lines and the limit cannot be written. -/
theorem check_answers (view : View) :
    ∀ rule ∈ all, rule.name ≠ "magic_number" →
      rule.Finds view ∧ ((rule.phase = .raw → view.settings.Writable) → rule.Answers view) := by
  have always : ∀ {rule : Rule}, rule.Answers view →
      rule.Finds view ∧ ((rule.phase = .raw → view.settings.Writable) → rule.Answers view) :=
    fun answers => ⟨answers.finds, fun _ => answers⟩
  have total : ∀ {name phase kinds} {check : View → List Finding},
      Declared kinds (check view) →
        (total name phase kinds check).Finds view ∧
          (((total name phase kinds check).phase = .raw → view.settings.Writable) →
            (total name phase kinds check).Answers view) :=
    fun declared => always ⟨_, rfl, declared⟩
  simp only [all, rawRules, contentRules, statementRules, List.cons_append, List.nil_append,
    List.forall_mem_cons]
  refine ⟨?_, ?_, ?_, ?_, ?_, ?_, ?_, ?_, ?_, ?_, ?_, ?_, ?_, ?_, ?_, ?_, ?_, ?_, ?_, ?_, ?_, ?_, ?_,
    ?_, ?_, ?_, ?_, ?_, ?_, ?_⟩ <;> intro other
  · exact ⟨⟨_, rfl, Spacing.ofKinds_lineLength view⟩, fun writable =>
      ⟨_, rfl, Spacing.declared_lineLength (writable rfl)⟩⟩
  · exact total (Spacing.declared_matchFindings _ _ _)
  · exact total (Spacing.declared_todoComment view)
  · exact total (Spacing.declared_matchFindings _ _ _)
  · exact total (Spacing.declared_matchFindings _ _ _)
  · exact total (Spacing.declared_matchFindings _ _ _)
  · exact total (Spacing.declared_matchFindings _ _ _)
  · exact total (Spacing.declared_matchFindings _ _ _)
  · exact total (Pointer.declared_pointerFormat view)
  · exact total (Operator.declared_operatorSpacing view)
  · exact total (Spacing.declared_ternarySpacing view)
  · exact total (Spacing.declared_keywordSpaceBeforeParen view)
  · exact absurd rfl other
  · exact total (Call.declared_insecureFunction view)
  · exact total (Call.declared_allocCast view)
  · exact total (Call.declared_callSpace view)
  · exact total (Call.declared_nonAscii view)
  · exact always (Definition.definitionLine_answers view)
  · exact always (FunctionHead.functionDeclaration_answers view)
  · exact total (FunctionHead.declared_returnTypeLine view)
  · exact always (Brace.krElse_answers view)
  · exact always (Brace.krBrace_answers view)
  · exact total (Brace.declared_allmanBrace view)
  · exact always (Brace.closingBraceOwnLine_answers view)
  · exact total (Variable.declared_uninitializedDeclaration view)
  · exact total (Variable.declared_variableNaming view)
  · exact total (Variable.declared_multipleDeclarations view)
  · exact total (Variable.declared_typedefNames view)
  · exact total (Member.declared_typeMembers view)
  · intro member
    exact absurd member List.not_mem_nil

/-- The fault of the rules of a phase, or of the report of what they find: a limit that cannot be
written, or a number that is too long to be read, on a line with code. -/
def fault? (phase : Phase) (view : View) : Option Fault :=
  match phase with
  | .raw => if view.settings.Writable then none else some (.numeralTooLong none)
  | .content => (Call.longNumber? view).map fun number => .numeralTooLong (some number.length)
  | .statement => none

/-- The kinds that the rules of a phase declare. -/
def kindsOf (phase : Phase) : List Kind :=
  (ofPhase phase).flatMap Rule.kinds

theorem mem_all_of_mem_ofPhase {phase : Phase} {rule : Rule} (member : rule ∈ ofPhase phase) :
    rule ∈ all := by
  unfold all
  rw [List.mem_append, List.mem_append]
  cases phase with
  | raw => exact .inl (.inl member)
  | content => exact .inl (.inr member)
  | statement => exact .inr member

theorem phase_of_mem_ofPhase {phase : Phase} : ∀ rule ∈ ofPhase phase, rule.phase = phase := by
  cases phase <;> decide

theorem check_answers_of_fault?_eq_none {phase : Phase} {view : View}
    (none : fault? phase view = none) : ∀ rule ∈ ofPhase phase, rule.Answers view := by
  intro rule member
  by_cases onNumbers : rule.name = "magic_number"
  · cases phase with
    | content =>
      -- the only rule of that name
      have only : rule = ⟨"magic_number", .content, [.magicNumber], Call.magicNumber⟩ := by
        simp only [ofPhase, contentRules, List.mem_cons, List.not_mem_nil, or_false] at member
        rcases member with rfl | rfl | rfl | rfl | rfl | rfl | rfl | rfl | rfl | rfl | rfl | rfl |
          rfl | rfl | rfl <;> first | rfl | exact absurd onNumbers (by decide)
      rw [only]
      exact Call.magicNumber_answers (Option.map_eq_none_iff.mp none)
    | raw =>
      have others : ∀ rule ∈ rawRules, rule.name ≠ "magic_number" := by decide
      exact absurd onNumbers (others rule member)
    | statement =>
      have others : ∀ rule ∈ statementRules, rule.name ≠ "magic_number" := by decide
      exact absurd onNumbers (others rule member)
  · refine (check_answers view rule (mem_all_of_mem_ofPhase member) onNumbers).2 ?_
    intro raw
    rw [phase_of_mem_ofPhase rule member] at raw
    cases raw
    exact Classical.not_not.mp fun unwritable => by simp [fault?, unwritable] at none

/-- Without a fault the rules of a phase answer, and what they find can be printed. -/
theorem runPhase_answers {phase : Phase} {view : View} (none : fault? phase view = none) :
    ∃ findings, runPhase phase view = .ok findings ∧ Declared (kindsOf phase) findings := by
  rcases Answer.mapM_answers (check_answers_of_fault?_eq_none none) with ⟨findings, given, each⟩
  unfold runPhase
  rw [given, Answer.ok_bind]
  refine ⟨_, rfl, ?_⟩
  intro finding member
  rcases List.mem_flatten.mp member with ⟨some, among, inside⟩
  rcases each some among with ⟨rule, asked, declared⟩
  rcases declared finding inside with ⟨kind, printable⟩
  exact ⟨List.mem_flatMap.mpr ⟨rule, asked, kind⟩, printable⟩

/-- The rules on raw lines answer whatever the limit is. -/
theorem runPhase_raw (view : View) :
    runPhase .raw view = .ok (Spacing.lineLength view ++
      (Spacing.trailingWhitespace view ++ (Spacing.todoComment view ++ []))) :=
  rfl

/-- A number that is too long is the fault of its phase: no rule before it fails. -/
theorem runPhase_eq_error {view : View} {fault : Fault}
    (found : fault? .content view = some fault) : runPhase .content view = .error fault := by
  rcases Option.map_eq_some_iff.mp found with ⟨long, first, rfl⟩
  have others : ∀ rule ∈ contentRules.take 9, rule.name ≠ "magic_number" := by decide
  have passed : ∀ rule ∈ contentRules.take 9, ∃ findings, rule.check view = .ok findings := by
    intro rule member
    have among : rule ∈ ofPhase .content := List.mem_of_mem_take member
    obtain ⟨findings, answers, -⟩ :=
      (check_answers view rule (mem_all_of_mem_ofPhase among) (others rule member)).1
    exact ⟨findings, answers⟩
  have split : contentRules = contentRules.take 9 ++
      ⟨"magic_number", .content, [.magicNumber], Call.magicNumber⟩ :: contentRules.drop 10 := rfl
  unfold runPhase
  rw [show ofPhase .content = contentRules from rfl, split,
    Answer.mapM_eq_error passed (Call.magicNumber_eq_error first)]
  rfl

/-- Rules of a phase that answer have no number that is too long before them. -/
theorem fault?_of_runPhase {phase : Phase} {view : View} {findings : List Finding}
    (answers : runPhase phase view = .ok findings)
    (writable : phase = .raw → view.settings.Writable) : fault? phase view = none := by
  cases phase with
  | raw => exact if_pos (writable rfl)
  | statement => rfl
  | content =>
    cases fails : fault? .content view with
    | none => rfl
    | some fault =>
      rw [runPhase_eq_error fails] at answers
      cases answers

theorem declared_of_runPhase {phase : Phase} {view : View} {findings : List Finding}
    (answers : runPhase phase view = .ok findings)
    (writable : phase = .raw → view.settings.Writable) : Declared (kindsOf phase) findings := by
  obtain ⟨findingsToo, answersToo, declared⟩ :=
    runPhase_answers (fault?_of_runPhase answers writable)
  rw [answers] at answersToo
  cases answersToo
  exact declared

theorem finds_of_runPhase {phase : Phase} {view : View} {findings : List Finding}
    (answers : runPhase phase view = .ok findings) : ∀ rule ∈ ofPhase phase, rule.Finds view := by
  intro rule member
  cases phase with
  | raw =>
    have others : ∀ rule ∈ rawRules, rule.name ≠ "magic_number" := by decide
    exact (check_answers view rule (mem_all_of_mem_ofPhase member) (others rule member)).1
  | content =>
    exact (check_answers_of_fault?_eq_none (fault?_of_runPhase answers nofun) rule member).finds
  | statement => exact (check_answers_of_fault?_eq_none rfl rule member).finds

/-- Every finding of a phase is one that a rule of the phase declares and answers with. -/
theorem exists_of_mem_runPhase {phase : Phase} {view : View} {findings : List Finding}
    (answers : runPhase phase view = .ok findings) {finding : Finding} (member : finding ∈ findings) :
    ∃ rule ∈ ofPhase phase, finding.kind ∈ rule.kinds ∧
      ∃ found, rule.check view = .ok found ∧ finding ∈ found := by
  obtain ⟨lists, asked, passes⟩ := Answer.bind_eq_ok.mp answers
  cases passes
  obtain ⟨found, among, inside⟩ := List.mem_flatten.mp member
  obtain ⟨rule, inPhase, answered⟩ := Answer.exists_of_mem_mapM asked found among
  obtain ⟨foundToo, answeredToo, declared⟩ := finds_of_runPhase answers rule inPhase
  rw [answered] at answeredToo
  cases answeredToo
  exact ⟨rule, inPhase, declared finding inside, found, answered, inside⟩

theorem ofKinds_of_runPhase {phase : Phase} {view : View} {findings : List Finding}
    (answers : runPhase phase view = .ok findings) : OfKinds (kindsOf phase) findings := by
  intro finding member
  obtain ⟨rule, inPhase, declared, -⟩ := exists_of_mem_runPhase answers member
  exact List.mem_flatMap.mpr ⟨rule, inPhase, declared⟩

end Rule

end HouseStyle
