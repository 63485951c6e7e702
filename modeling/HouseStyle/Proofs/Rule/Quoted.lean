import HouseStyle.Proofs.Pattern.Captured
import HouseStyle.Proofs.Quoted
import HouseStyle.Proofs.Rule.Spans
import HouseStyle.Proofs.Shown

/-!
Contract: the findings of rules that name what they are about.

Owns: findings whose place holds the text that they name, in a view of the line or in a part of it,
and which rules find them.
Does not own: the messages of findings.

Every such finding is about an excerpt that a pattern has recorded, in a view of the line or in a
piece that is cut out of one. What a pattern records as a name is never hidden. The parameters of a
macro are the exception: they are whatever stands between commas, comments and literals included.

Main statement: `Rule.exists_quotes_of_runPhase`.
-/

namespace HouseStyle

/-! ## Findings that name an excerpt -/

/-- An excerpt that a view of a line shows in full. -/
structure Excerpt.ShownIn (view : List Char) (excerpt : Excerpt) : Prop where
  stands : excerpt.StandsIn view
  legible : excerpt.Legible

/-- A finding that is placed at an excerpt of a view and names its text, which nothing is hidden in
but perhaps in the parameter of a macro. -/
structure Finding.Quotes (view : List Char) (finding : Finding) (excerpt : Excerpt) : Prop where
  column : finding.column = excerpt.start
  length : finding.length = excerpt.length
  names : finding.kind.Names excerpt.text finding.arguments
  stands : excerpt.StandsIn view
  legible : finding.kind ≠ .macroParamNotSnake → excerpt.Legible

/-- Findings that name the excerpt at their place, if their kind names any. -/
def Quoting (view : List Char) (findings : List Finding) : Prop :=
  ∀ finding ∈ findings, finding.kind ∈ Kind.naming → ∃ excerpt, finding.Quotes view excerpt

namespace Quoting

variable {view : List Char} {findings more : List Finding} {finding : Finding}

theorem nil : Quoting view [] := by
  intro finding member
  exact absurd member List.not_mem_nil

theorem append (first : Quoting view findings) (second : Quoting view more) :
    Quoting view (findings ++ more) :=
  List.forall_mem_append.mpr ⟨first, second⟩

theorem singleton {excerpt : Excerpt} (quotes : finding.Quotes view excerpt) :
    Quoting view [finding] := by
  intro other member _
  rw [List.mem_singleton.mp member]
  exact ⟨excerpt, quotes⟩

theorem flatMap {α : Type} {items : List α} {make : α → List Finding}
    (each : ∀ item ∈ items, Quoting view (make item)) : Quoting view (items.flatMap make) := by
  intro finding member
  obtain ⟨item, among, found⟩ := List.mem_flatMap.mp member
  exact each item among finding found

theorem filterMap {α : Type} {items : List α} {make : α → Option Finding}
    (each : ∀ item ∈ items, ∀ finding, make item = some finding →
      ∃ excerpt, finding.Quotes view excerpt) : Quoting view (items.filterMap make) := by
  intro finding member _
  obtain ⟨item, among, found⟩ := List.mem_filterMap.mp member
  exact each item among finding found

theorem ite {condition : Prop} [Decidable condition] (yes : condition → Quoting view findings)
    (no : ¬ condition → Quoting view more) : Quoting view (if condition then findings else more) := by
  split
  next holds => exact yes holds
  next fails => exact no fails

/-- Findings of kinds that name nothing. -/
theorem of_declared {kinds : List Kind} (declared : Declared kinds findings)
    (silent : ∀ kind ∈ kinds, kind ∉ Kind.naming) : Quoting view findings := by
  intro finding member naming
  exact absurd naming (silent _ (declared finding member).1)

theorem one {kind : Kind} (silent : kind ∉ Kind.naming) {column length : Int}
    {arguments : List Argument} : Quoting view [⟨kind, column, length, arguments⟩] := by
  intro finding member naming
  rw [List.mem_singleton.mp member] at naming
  exact absurd naming silent

/-- Findings about a part of a view, moved to the place of the part. -/
theorem shift {part : Excerpt} (quoting : Quoting part.text findings) (stands : part.StandsIn view) :
    Quoting view (findings.map fun finding => finding.shift part.start) := by
  intro finding member naming
  obtain ⟨unmoved, among, rfl⟩ := List.mem_map.mp member
  obtain ⟨excerpt, quotes⟩ := quoting unmoved among naming
  refine ⟨⟨part.start + excerpt.start, excerpt.text⟩, ?_, quotes.length, quotes.names,
    stands.within quotes.stands, quotes.legible⟩
  simp only [Finding.shift, quotes.column, Nat.cast_add]

end Quoting

namespace Kind

variable {kind : Kind} {view : List Char} {excerpt : Excerpt}

theorem quotes_quoting (plain : kind.startsWithWord = false) (shown : excerpt.ShownIn view) :
    (kind.quoting excerpt).Quotes view excerpt where
  column := rfl
  length := rfl
  names := by
    show Names kind excerpt.text [.word excerpt.toString]
    rw [Names, if_neg (by simp [plain])]
    rfl
  stands := shown.stands
  legible := fun _ => shown.legible

/-- A finding that names an excerpt behind the word of a type. -/
theorem quotes_onWith (kind : Kind) (worded : kind.startsWithWord) (type : TypeKind)
    (shown : excerpt.ShownIn view) :
    (kind.onWith excerpt [.word type.word, .word excerpt.toString]).Quotes view excerpt where
  column := rfl
  length := rfl
  names := by
    show Names kind excerpt.text [.word type.word, .word excerpt.toString]
    rw [Names, if_pos worded]
    exact ⟨type, rfl⟩
  stands := shown.stands
  legible := fun _ => shown.legible

/-- A place that names an excerpt once, if at all. -/
theorem quoting_ite {condition : Prop} [Decidable condition] (plain : kind.startsWithWord = false)
    (shown : excerpt.ShownIn view) :
    Quoting view (if condition then [] else [kind.quoting excerpt]) :=
  Quoting.ite (fun _ => Quoting.nil) fun _ => Quoting.singleton (quotes_quoting plain shown)

end Kind

/-! ## Patterns of names -/

/-- The patterns that record a name. -/
def namedPatterns : List Pattern :=
  [Call.insecureCall, Call.allocation, Parameter.nameAtEnd, Function.headPattern,
    Function.prototypePattern, Function.nameOnly, Variable.uninitialized, Variable.single,
    Variable.functionAlias, Variable.plainAlias, Member.element, Member.field,
    Member.functionPointer, Lexicon.definition, Spacing.gotoLabel]

/-- The patterns whose matches are names. -/
def wordPatterns : List Pattern := [Operator.operator, Call.number, Lexicon.ident]

theorem clears_name :
    ∀ pattern ∈ namedPatterns, Source.veils.all fun c => pattern.clears .name c := by
  decide +kernel

theorem avoids_veils : ∀ pattern ∈ wordPatterns, Source.veils.all fun c => pattern.avoids c := by
  decide +kernel

namespace Pattern.Matched

variable {pattern : Pattern} {text : List Char} {found : Match} {part : Part}
  {excerpt name : Excerpt}

theorem shownIn_part (matched : pattern.Matched text found)
    (recorded : found.part? part = some excerpt)
    (clears : ∀ c ∈ Source.veils, pattern.clears part c) : excerpt.ShownIn text :=
  ⟨matched.standsIn_part recorded, fun c veiled => matched.not_mem_part recorded (clears c veiled)⟩

/-- What a match records as a name is shown in the text. -/
theorem shownIn_name (matched : pattern.Matched text found) (recorded : found.part? .name = some name)
    (named : pattern ∈ namedPatterns) : name.ShownIn text :=
  matched.shownIn_part recorded (List.all_eq_true.mp (clears_name pattern named))

theorem shownIn_whole (matched : pattern.Matched text found) (word : pattern ∈ wordPatterns) :
    found.whole.ShownIn text :=
  ⟨matched.standsIn_whole, fun c veiled =>
    matched.not_mem_whole (List.all_eq_true.mp (avoids_veils pattern word) c veiled)⟩

end Pattern.Matched

theorem Excerpt.NamedBy.shownIn {patterns : List Pattern} {text : List Char} {name : Excerpt}
    (named : name.NamedBy patterns text) (known : patterns ⊆ namedPatterns) : name.ShownIn text := by
  obtain ⟨pattern, among, found, matched, recorded⟩ := named
  exact matched.shownIn_name recorded (known among)

/-- What is shown in a part of a view is shown in the view. -/
theorem Excerpt.ShownIn.within {view : List Char} {part excerpt : Excerpt}
    (shown : excerpt.ShownIn part.text) (stands : part.StandsIn view) :
    ShownIn view ⟨part.start + excerpt.start, excerpt.text⟩ :=
  ⟨stands.within shown.stands, shown.legible⟩

/-! ## Operators and calls -/

theorem Operator.quoting_operatorSpacing (view : View) :
    Quoting view.masked (operatorSpacing view) := by
  apply Quoting.flatMap
  intro operator member
  obtain ⟨found, among, rfl⟩ := List.mem_map.mp (List.mem_filter.mp member).1
  have shown := (Pattern.matched_of_mem_findAll among).shownIn_whole (by simp [wordPatterns])
  apply Quoting.append
  · exact Quoting.ite (fun _ => Quoting.singleton (Kind.quotes_quoting rfl shown)) fun _ =>
      Quoting.nil
  · exact Quoting.ite (fun _ => Quoting.singleton (Kind.quotes_quoting rfl shown)) fun _ =>
      Quoting.nil

namespace Call

theorem quoting_insecureFunction (view : View) : Quoting view.masked (insecureFunction view) := by
  apply Quoting.filterMap
  intro call member finding made
  obtain ⟨name, recorded, made⟩ := Option.bind_eq_some_iff.mp made
  obtain ⟨advice, -, made⟩ := Option.bind_eq_some_iff.mp made
  cases made
  have shown := (Pattern.matched_of_mem_findAll member).shownIn_name recorded (by simp [namedPatterns])
  exact ⟨name, rfl, rfl, rfl, shown.stands, fun _ => shown.legible⟩

theorem quoting_allocCast (view : View) : Quoting view.masked (allocCast view) := by
  apply Quoting.filterMap
  intro call member finding made
  obtain ⟨name, recorded, made⟩ := Option.bind_eq_some_iff.mp made
  obtain ⟨-, made⟩ := Option.ite_none_left_eq_some.mp made
  cases made
  have shown := (Pattern.matched_of_mem_findAll member).shownIn_name recorded (by simp [namedPatterns])
  exact ⟨name, Kind.quotes_quoting rfl shown⟩

theorem quoting_magicNumber {view : View} {findings : List Finding}
    (answers : magicNumber view = .ok findings) : Quoting view.masked findings := by
  unfold magicNumber at answers
  split at answers
  · cases answers
    exact Quoting.nil
  · obtain ⟨found?, asked, given⟩ := Answer.bind_eq_ok.mp answers
    cases given
    apply Quoting.filterMap
    intro finding? among finding same
    obtain ⟨number, member, answered⟩ := Answer.exists_of_mem_mapM asked finding? among
    obtain ⟨value, -, made⟩ := Answer.bind_eq_ok.mp answered
    cases made
    obtain ⟨-, same⟩ := Option.ite_none_right_eq_some.mp same
    cases same
    have shown := (Pattern.matched_of_mem_findAll member).shownIn_whole (by simp [wordPatterns])
    exact ⟨number.whole, Kind.quotes_quoting rfl shown⟩

end Call

/-! ## Names of functions and parameters -/

namespace Parameter

/-- The name that a parameter declares is shown where the parameter stands. -/
theorem shownIn_of_name? {text : List Char} {parameter name : Excerpt}
    (stands : parameter.StandsIn text) (declared : name? parameter = some name) :
    name.ShownIn text := by
  obtain ⟨inner, named, rfl⟩ := exists_of_name? declared
  exact (named.shownIn (by simp [namedPatterns])).within stands

theorem quoting_findings (text : List Char) : Quoting text (findings text) := by
  apply Quoting.filterMap
  intro piece member finding made
  have whole : Excerpt.StandsIn text ⟨0, text⟩ := List.prefix_refl text
  have stands := (whole.of_mem_splitOn member).trim
  unfold finding? at made
  split at made
  · obtain ⟨name, named, made⟩ := Option.bind_eq_some_iff.mp made
    obtain ⟨-, made⟩ := Option.ite_none_left_eq_some.mp made
    cases made
    exact ⟨name, Kind.quotes_quoting rfl (shownIn_of_name? stands named)⟩
  · cases made

theorem quoting_findingsBetween {code : List Char} {start : Nat} (within : start ≤ code.length)
    (stop : Int) : Quoting code (findingsBetween code start stop) := by
  have stands := Excerpt.standsIn_sliceBounds within stop
  exact Quoting.shift (quoting_findings _) stands

end Parameter

namespace Function

theorem quoting_nameFindings {name : Excerpt} {code : List Char} (shown : name.ShownIn code)
    (gap : List Char) : Quoting code (nameFindings name gap) := by
  apply Quoting.append
  · exact Quoting.ite (fun _ => Quoting.nil) fun _ => Quoting.one (by decide)
  · exact Kind.quoting_ite rfl shown

theorem shownIn_of_head? {code : List Char} {head : Head} (found : head? code = some head) :
    head.name.ShownIn code := by
  obtain ⟨matched, fits, named, -⟩ := exists_of_head? found
  exact (Pattern.matched_of_matchStart? fits).shownIn_name named (by simp [namedPatterns])

theorem shownIn_of_prototype? {code : List Char} {prototype : Prototype}
    (found : prototype? code = some prototype) : prototype.name.ShownIn code := by
  obtain ⟨matched, fits, named, -⟩ := exists_of_prototype? found
  exact (Pattern.matched_of_matchStart? fits).shownIn_name named (by simp [namedPatterns])

theorem shownIn_of_leadingName? {code : List Char} {name : Excerpt}
    (found : leadingName? code = some name) : name.ShownIn code :=
  (Excerpt.NamedBy.of_matchStart? found).shownIn (by simp [namedPatterns])

end Function

namespace FunctionHead

theorem quoting_prototypeFindings {code : List Char} {prototype : Function.Prototype}
    (found : Function.prototype? code = some prototype) :
    Quoting code (prototypeFindings code prototype) := by
  obtain ⟨-, parameters, -⟩ := Function.bounds_of_prototype? found
  refine Quoting.append (Quoting.append ?_ ?_) ?_
  · exact Function.quoting_nameFindings (Function.shownIn_of_prototype? found) _
  · exact Parameter.quoting_findingsBetween
      (Nat.le_trans (Nat.le_add_right _ _) parameters) _
  · split
    · exact Quoting.ite (fun _ => Quoting.one (by decide)) fun _ => Quoting.nil
    · exact Quoting.nil

theorem quoting_splitFindings {view : View} {name : Excerpt} {findings : List Finding}
    (shown : name.ShownIn view.code) (answers : splitFindings view name = .ok findings) :
    Quoting view.code findings := by
  obtain ⟨paren, found, given⟩ := Answer.bind_eq_ok.mp answers
  cases given
  refine Quoting.append (Quoting.append (Function.quoting_nameFindings shown _) ?_) ?_
  · split
    next close _ =>
      refine Quoting.ite (fun _ => ?_) fun _ => Quoting.nil
      have quoting : Quoting view.code
          (Parameter.findingsBetween view.code ((paren + 1 : Nat) : Int) close) :=
        Parameter.quoting_findingsBetween (Text.index_bounds found).2 _
      exact quoting
    next => exact Quoting.nil
  · refine Quoting.ite (fun _ => ?_) fun _ => Quoting.nil
    split
    · exact Quoting.one (by decide)
    · exact Quoting.nil

theorem quoting_functionDeclaration {view : View} {findings : List Finding}
    (answers : functionDeclaration view = .ok findings) : Quoting view.code findings := by
  unfold functionDeclaration at answers
  split at answers
  next prototype found =>
    cases answers
    exact quoting_prototypeFindings found
  next =>
    split at answers
    next name found =>
      split at answers
      · exact quoting_splitFindings (Function.shownIn_of_leadingName? found) answers
      · cases answers
        exact Quoting.nil
    · cases answers
      exact Quoting.nil

end FunctionHead

/-! ## Variables, members and aliases -/

namespace Variable

theorem quoting_uninitializedDeclaration (view : View) :
    Quoting view.code (uninitializedDeclaration view) := by
  refine Quoting.ite (fun _ => Quoting.nil) fun _ => ?_
  split
  next name found =>
    have shown := (Excerpt.NamedBy.of_matchStart? found).shownIn (by simp [namedPatterns])
    exact Quoting.singleton (Kind.quotes_quoting rfl shown)
  next => exact Quoting.nil

theorem quoting_variableNaming (view : View) : Quoting view.code (variableNaming view) := by
  refine Quoting.ite (fun _ => Quoting.nil) fun _ => ?_
  split
  · exact Quoting.nil
  next name found =>
    have shown := (namedBy_of_declaredName? found).shownIn (by simp [namedPatterns])
    refine Quoting.ite (fun _ => Quoting.singleton (Kind.quotes_quoting rfl shown)) fun _ => ?_
    exact Kind.quoting_ite rfl shown

theorem quoting_typedefNames (view : View) : Quoting view.code (typedefNames view) := by
  refine Quoting.ite (fun _ => Quoting.nil) fun _ => ?_
  split
  · exact Quoting.nil
  next kind name found =>
    obtain ⟨among, named⟩ := namedBy_of_aliasName? found
    have plain : ∀ kind ∈ [Kind.typedefFuncPtrName, .typedefAliasName],
        kind.startsWithWord = false := by decide
    exact Kind.quoting_ite (plain kind among) (named.shownIn (by simp [namedPatterns]))

end Variable

namespace Member

theorem shownIn_of_fieldName? {code : List Char} {name : Excerpt}
    (found : fieldName? code = some name) : name.ShownIn code :=
  (namedBy_of_fieldName? found).shownIn (by simp [namedPatterns])

theorem quoting_findings (kind : TypeKind) (code : List Char) :
    Quoting code (findings kind code) := by
  unfold findings
  split
  · split
    next name found =>
      have shown := (namedBy_of_elementName? found).shownIn (by simp [namedPatterns])
      exact Kind.quoting_ite rfl shown
    next => exact Quoting.nil
  · split
    next name found =>
      have quotes := Kind.quotes_onWith .fieldNameNotSnake rfl kind (shownIn_of_fieldName? found)
      exact Quoting.ite (fun _ => Quoting.nil) fun _ => Quoting.singleton quotes
    next => exact Quoting.nil

/-- The name of a field ends before the semicolon behind the member, wherever that comes from. -/
theorem quoting_memberFindings (kind : TypeKind) (text : List Char) :
    Quoting text (findings kind (if kind = .enum then text else text ++ [';'])) := by
  split
  · exact quoting_findings kind text
  next ordinary =>
    unfold findings
    split
    · exact absurd rfl ordinary
    · split
      next name found =>
        have early := stop_lt_of_fieldName? found
        obtain ⟨stands, legible⟩ := shownIn_of_fieldName? found
        rw [List.length_append, List.length_singleton] at early
        have shown : name.ShownIn text := ⟨stands.of_append (Nat.le_of_lt_succ early), legible⟩
        have quotes := Kind.quotes_onWith .fieldNameNotSnake rfl kind shown
        exact Quoting.ite (fun _ => Quoting.nil) fun _ => Quoting.singleton quotes
      next => exact Quoting.nil

theorem quoting_typeMembers (view : View) : Quoting view.code (typeMembers view) := by
  unfold typeMembers
  split
  · exact Quoting.nil
  · exact Quoting.ite (fun _ => Quoting.nil) fun _ => quoting_findings _ _

end Member

/-! ## Definitions -/

namespace Definition

theorem quoting_parameterFindings {code : List Char} {list : Excerpt} (stands : list.StandsIn code) :
    Quoting code (parameterFindings list) := by
  apply Quoting.filterMap
  intro parameter member finding made
  obtain ⟨-, made⟩ := Option.ite_none_left_eq_some.mp made
  cases made
  obtain ⟨piece, among, rfl⟩ := List.mem_map.mp (List.mem_filter.mp member).1
  exact ⟨piece.trim, rfl, rfl, rfl, (stands.of_mem_splitOn among).trim, fun other => absurd rfl other⟩

theorem quoting_identifierFindings {code : List Char} (name list : Excerpt) {rest : Excerpt}
    (stands : rest.StandsIn code) : Quoting code (identifierFindings name list rest) := by
  apply Quoting.filterMap
  intro identifier member finding made
  obtain ⟨-, made⟩ := Option.ite_none_left_eq_some.mp made
  cases made
  obtain ⟨found, among, rfl⟩ := List.mem_map.mp member
  have shown := (Pattern.matched_of_mem_findAll among).shownIn_whole (by simp [wordPatterns])
  have unmoved : Quoting rest.text [Kind.macroBodyIdentNotSnake.quoting found.whole] :=
    Quoting.singleton (Kind.quotes_quoting rfl shown)
  exact unmoved.shift stands _ List.mem_cons_self
    (show Kind.macroBodyIdentNotSnake ∈ Kind.naming by decide)

theorem quoting_bodyFindings {code : List Char} {rest : Excerpt} {findings : List Finding}
    (answers : bodyFindings code rest = .ok findings) : Quoting code findings := by
  unfold bodyFindings at answers
  simp only at answers
  split at answers
  · cases answers
    exact Quoting.nil
  · obtain ⟨position, -, given⟩ := Answer.bind_eq_ok.mp answers
    cases given
    exact Quoting.one (by decide)

theorem quoting_bodyAndParameterFindings {code : List Char} {name list rest : Excerpt}
    {findings : List Finding} (listed : list.StandsIn code) (remaining : rest.StandsIn code)
    (answers : bodyAndParameterFindings code name list rest = .ok findings) :
    Quoting code findings := by
  obtain ⟨enclosing, found, given⟩ := Answer.bind_eq_ok.mp answers
  cases given
  refine Quoting.append (Quoting.append (Quoting.append ?_ ?_) (quoting_bodyFindings found)) ?_
  · exact quoting_parameterFindings listed
  · exact Quoting.ite (fun _ => Quoting.one (by decide)) fun _ => Quoting.nil
  · exact quoting_identifierFindings name list remaining

theorem quoting_definitionLine {view : View} {findings : List Finding}
    (answers : definitionLine view = .ok findings) : Quoting view.code findings := by
  simp only [definitionLine] at answers
  split at answers
  next name found =>
    have named : Quoting view.code
        (if Naming.isScreaming name.text then [] else [Kind.macroNameNotScreaming.quoting name]) :=
      Kind.quoting_ite rfl
        ((Excerpt.NamedBy.of_matchStart? found).shownIn (by simp [namedPatterns]))
    split at answers
    next whole fitsWhole =>
      have matched := Pattern.matched_of_matchStart? fitsWhole
      split at answers
      next list listed =>
        split at answers
        next rest recordedRest =>
          obtain ⟨others, given, answers⟩ := Answer.bind_eq_ok.mp answers
          cases answers
          exact named.append (quoting_bodyAndParameterFindings (matched.standsIn_part listed)
            (matched.standsIn_part recordedRest) given)
        next =>
          cases answers
          exact named
      next =>
        cases answers
        exact named
    next =>
      cases answers
      exact named
  next =>
    cases answers
    exact Quoting.nil

end Definition

/-! ## Rules -/

namespace Rule

/-- The findings of a rule that names anything are about the code, or about the masked line and then
not about the parameters of a macro. -/
theorem quoting_check (view : View) :
    ∀ rule ∈ all, (rule.kinds.any fun kind => decide (kind ∈ Kind.naming)) →
      ∀ findings, rule.check view = .ok findings →
        Quoting view.code findings ∨
          Kind.macroParamNotSnake ∉ rule.kinds ∧ Quoting view.masked findings := by
  simp only [all, rawRules, contentRules, statementRules, List.cons_append, List.nil_append,
    List.forall_mem_cons]
  and_intros
  all_goals
    first
    | exact fun names => absurd names (by decide)
    | exact fun rule member => absurd member List.not_mem_nil
    | intro _ findings answers
  · cases answers
    exact .inr ⟨by decide, Operator.quoting_operatorSpacing view⟩
  · exact .inr ⟨by decide, Call.quoting_magicNumber answers⟩
  · cases answers
    exact .inr ⟨by decide, Call.quoting_insecureFunction view⟩
  · cases answers
    exact .inr ⟨by decide, Call.quoting_allocCast view⟩
  · exact .inl (Definition.quoting_definitionLine answers)
  · exact .inl (FunctionHead.quoting_functionDeclaration answers)
  · cases answers
    exact .inl (Variable.quoting_uninitializedDeclaration view)
  · cases answers
    exact .inl (Variable.quoting_variableNaming view)
  · cases answers
    exact .inl (Variable.quoting_typedefNames view)
  · cases answers
    exact .inl (Member.quoting_typeMembers view)

/-- What a phase finds and names stands in the code or in the masked line, at the place of the
finding. -/
theorem exists_quotes_of_runPhase {phase : Phase} {view : View} {findings : List Finding}
    (answers : runPhase phase view = .ok findings) {finding : Finding} (member : finding ∈ findings)
    (naming : finding.kind ∈ Kind.naming) :
    ∃ excerpt, finding.Quotes view.code excerpt ∨
      finding.kind ≠ .macroParamNotSnake ∧ finding.Quotes view.masked excerpt := by
  obtain ⟨rule, inPhase, declared, found, answered, inside⟩ := exists_of_mem_runPhase answers member
  have names : rule.kinds.any fun kind => decide (kind ∈ Kind.naming) :=
    List.any_eq_true.mpr ⟨finding.kind, declared, decide_eq_true naming⟩
  rcases quoting_check view rule (mem_all_of_mem_ofPhase inPhase) names found answered with
    inCode | ⟨other, inMasked⟩
  · obtain ⟨excerpt, quotes⟩ := inCode finding inside naming
    exact ⟨excerpt, .inl quotes⟩
  · obtain ⟨excerpt, quotes⟩ := inMasked finding inside naming
    exact ⟨excerpt, .inr ⟨fun same => other (same ▸ declared), quotes⟩⟩

end Rule

end HouseStyle
