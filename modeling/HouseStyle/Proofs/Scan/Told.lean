import HouseStyle.Proofs.Messages
import HouseStyle.Proofs.Rule.Quoted
import HouseStyle.Proofs.Scan.Origins
import HouseStyle.Proofs.Scan.TypeHeads

/-!
Contract: the complaints of a scan are told apart by their messages.

Owns: what a complaint brings along by which its message tells its kind, and that every complaint of
a scan does.
Does not own: the messages themselves, which `Proofs.Messages` reads.

Few kinds need anything: the word of a type has to come first where a message starts with it, the
operators have to be other than question marks and colons, and the two complaints about names that
`typedef` gives never arise on the same line, because the code of a line settles which of them is
due.

Main statement: `told_of_run`.
-/

namespace HouseStyle

variable {lines : List Line} {line : Line} {index : Nat}

/-! ## Findings and diagnostics -/

namespace Kind

variable {kind : Kind} {arguments : List Argument}

/-- The kinds whose messages may be those of other kinds. -/
def shared : List Kind :=
  [.operatorSpaceBefore, .operatorSpaceAfter] ++ aliasNames

/-- The kinds whose messages tell them whatever their arguments and places are. -/
def Plain (kind : Kind) : Prop :=
  kind.startsWithWord = false ∧ kind ∉ shared

instance : DecidablePred Plain :=
  fun _ => inferInstanceAs (Decidable (_ ∧ _))

theorem telling_of_not_mem_shared (own : kind ∉ shared)
    (worded : kind.startsWithWord → ∃ (type : TypeKind) (others : List Argument),
      arguments = .word type.word :: others) : kind.Telling arguments where
  worded := worded
  operator := fun among => absurd (List.mem_append_left _ among) own

theorem not_mem_aliasNames (own : kind ∉ shared) : kind ∉ aliasNames :=
  fun among => own (List.mem_append_right _ among)

theorem Plain.telling (plain : kind.Plain) (arguments : List Argument) : kind.Telling arguments :=
  telling_of_not_mem_shared plain.2 fun worded =>
    absurd (plain.1.symm.trans worded) Bool.false_ne_true

end Kind

/-- A finding on a line whose message tells its kind. -/
structure Finding.Tells (line : Line) (finding : Finding) : Prop where
  telling : finding.kind.Telling finding.arguments
  aliased : finding.kind ∈ Kind.aliasNames →
    ∃ name, Variable.aliasName? line.code = some (finding.kind, name)

theorem Finding.tells_of_plain {finding : Finding} (plain : finding.kind.Plain) :
    finding.Tells line :=
  ⟨plain.telling _, fun among => absurd among (Kind.not_mem_aliasNames plain.2)⟩

/-- A finding whose message starts with the word of a type. -/
theorem Finding.tells_of_word {finding : Finding} {type : TypeKind} {others : List Argument}
    (own : finding.kind ∉ Kind.shared) (words : finding.arguments = .word type.word :: others) :
    finding.Tells line :=
  ⟨Kind.telling_of_not_mem_shared own fun _ => ⟨type, others, words⟩,
    fun among => absurd among (Kind.not_mem_aliasNames own)⟩

theorem Finding.Tells.shift {finding : Finding} (tells : finding.Tells line) (offset : Int) :
    (finding.shift offset).Tells line :=
  ⟨tells.telling, tells.aliased⟩

theorem Declared.tells {kinds : List Kind} {findings : List Finding}
    (declared : Declared kinds findings) (plain : ∀ kind ∈ kinds, kind.Plain) :
    ∀ finding ∈ findings, finding.Tells line :=
  fun finding member => Finding.tells_of_plain (plain _ (declared finding member).1)

/-- A diagnostic of a kind whose message tells this kind among the diagnostics of its line. -/
structure Diagnostic.Told (lines : List Line) (kind : Kind) (diagnostic : Diagnostic) : Prop where
  name : diagnostic.kind = kind.name
  severity : diagnostic.severity = kind.severity
  message : ∃ arguments, kind.template.format arguments = .ok diagnostic.message ∧
    kind.Telling arguments
  aliased : kind ∈ Kind.aliasNames → ∃ index line name, lines[index]? = some line ∧
    diagnostic.line = ((index + 1 : Nat) : Int) ∧ Variable.aliasName? line.code = some (kind, name)

/-- Diagnostics each of which is told by its message. -/
def AllTold (lines : List Line) (diagnostics : List Diagnostic) : Prop :=
  ∀ diagnostic ∈ diagnostics, ∃ kind, diagnostic.Told lines kind

namespace AllTold

variable {diagnostics more : List Diagnostic}

theorem nil : AllTold lines [] := by
  intro diagnostic member
  exact absurd member List.not_mem_nil

theorem singleton {diagnostic : Diagnostic} {kind : Kind} (told : diagnostic.Told lines kind) :
    AllTold lines [diagnostic] :=
  List.forall_mem_singleton.mpr ⟨kind, told⟩

theorem append (first : AllTold lines diagnostics) (second : AllTold lines more) :
    AllTold lines (diagnostics ++ more) :=
  List.forall_mem_append.mpr ⟨first, second⟩

theorem flatten {found : List (List Diagnostic)}
    (each : ∀ diagnostics ∈ found, AllTold lines diagnostics) : AllTold lines found.flatten := by
  intro diagnostic member
  obtain ⟨diagnostics, among, inside⟩ := List.mem_flatten.mp member
  exact each diagnostics among diagnostic inside

end AllTold

namespace Diagnostic

variable {diagnostic : Diagnostic} {kind : Kind} {number column length : Int}
  {arguments : List Argument}

theorem told_of_diagnostic (telling : kind.Telling arguments)
    (aliased : kind ∈ Kind.aliasNames → ∃ index line name, lines[index]? = some line ∧
      number = ((index + 1 : Nat) : Int) ∧ Variable.aliasName? line.code = some (kind, name))
    (given : kind.diagnostic number column length arguments = .ok diagnostic) :
    diagnostic.Told lines kind := by
  obtain ⟨message, written, given⟩ := Answer.bind_eq_ok.mp given
  cases given
  exact ⟨rfl, rfl, ⟨arguments, written, telling⟩, aliased⟩

theorem told_of_plain (plain : kind.Plain)
    (given : kind.diagnostic number column length arguments = .ok diagnostic) :
    diagnostic.Told lines kind :=
  told_of_diagnostic (plain.telling _)
    (fun among => absurd among (Kind.not_mem_aliasNames plain.2)) given

theorem told_of_onLine {finding : Finding} (there : lines[index]? = some line)
    (tells : finding.Tells line)
    (given : finding.onLine ((index + 1 : Nat) : Int) = .ok diagnostic) :
    diagnostic.Told lines finding.kind := by
  refine told_of_diagnostic tells.telling (fun among => ?_) given
  obtain ⟨name, given⟩ := tells.aliased among
  exact ⟨index, line, name, there, rfl, given⟩

theorem told_of_onLines {findings : List Finding} {diagnostics : List Diagnostic}
    (there : lines[index]? = some line) (tell : ∀ finding ∈ findings, finding.Tells line)
    (answers : (findings.mapM fun finding => finding.onLine ((index + 1 : Nat) : Int)) =
      .ok diagnostics) : AllTold lines diagnostics := by
  intro diagnostic member
  obtain ⟨finding, among, given⟩ := Answer.exists_of_mem_mapM answers diagnostic member
  exact ⟨finding.kind, told_of_onLine there (tell finding among) given⟩

/-- Diagnostics on one line with one message are of one kind. -/
theorem Told.kind_eq {other : Diagnostic} {otherKind : Kind} (told : diagnostic.Told lines kind)
    (toldToo : other.Told lines otherKind) (sameLine : diagnostic.line = other.line)
    (sameMessage : diagnostic.message = other.message) : kind = otherKind := by
  obtain ⟨arguments, formatted, telling⟩ := told.message
  obtain ⟨others, formattedToo, tellingToo⟩ := toldToo.message
  rw [← sameMessage] at formattedToo
  rcases Kind.eq_of_message_eq formatted formattedToo telling tellingToo with
    same | ⟨among, amongToo⟩
  · exact same
  · obtain ⟨index, line, name, there, numbered, aliased⟩ := told.aliased among
    obtain ⟨indexToo, lineToo, nameToo, thereToo, numberedToo, aliasedToo⟩ :=
      toldToo.aliased amongToo
    have same : index = indexToo := by omega
    rw [same, thereToo] at there
    cases there
    rw [aliased] at aliasedToo
    exact congrArg Prod.fst (Option.some.inj aliasedToo)

end Diagnostic

/-! ## Rules -/

/-- The operators whose spaces count are not exempt. -/
theorem Operator.ne_of_isBinary {text : List Char} {ranges : List Excerpt} {operator : Excerpt}
    {mark : String} (binary : isBinary text ranges operator) (exempted : mark.toList ∈ exempt) :
    operator.toString ≠ mark := by
  rintro rfl
  rw [Excerpt.toString, String.toList_ofList] at exempted
  simp [isBinary, exempted] at binary

theorem Operator.tells_operatorSpacing (view : View) :
    ∀ finding ∈ operatorSpacing view, finding.Tells line := by
  intro finding member
  obtain ⟨operator, among, found⟩ := List.mem_flatMap.mp member
  have binary := (List.mem_filter.mp among).2
  have others : operator.toString ≠ "?" ∧ operator.toString ≠ ":" :=
    ⟨ne_of_isBinary binary (by decide), ne_of_isBinary binary (by decide)⟩
  have tells : ∀ kind ∈ [Kind.operatorSpaceBefore, .operatorSpaceAfter],
      (kind.quoting operator).Tells line := by
    intro kind spaced
    have plain : kind.startsWithWord = false ∧ kind ∉ Kind.aliasNames := by
      revert kind
      decide
    refine ⟨⟨fun worded => ?_, fun _ => ⟨_, rfl, others⟩⟩, fun among => absurd among plain.2⟩
    exact absurd (plain.1.symm.trans worded) Bool.false_ne_true
  rcases List.mem_append.mp found with before | after
  · obtain ⟨-, same⟩ := List.mem_ite_nil_right.mp before
    rw [List.mem_singleton.mp same]
    exact tells _ List.mem_cons_self
  · obtain ⟨-, same⟩ := List.mem_ite_nil_right.mp after
    rw [List.mem_singleton.mp same]
    exact tells _ (List.mem_cons_of_mem _ List.mem_cons_self)

theorem Variable.tells_typedefNames {view : View} (code : view.code = line.code) :
    ∀ finding ∈ typedefNames view, finding.Tells line := by
  intro finding member
  obtain ⟨-, member⟩ := List.mem_ite_nil_left.mp member
  split at member
  · exact absurd member List.not_mem_nil
  next kind name found =>
    obtain ⟨-, same⟩ := List.mem_ite_nil_left.mp member
    rw [List.mem_singleton.mp same]
    rw [code] at found
    have plain : ∀ kind ∈ Kind.aliasNames, kind.startsWithWord = false ∧
        kind ∉ [.operatorSpaceBefore, .operatorSpaceAfter] := by
      decide
    obtain ⟨wordless, spaceless⟩ := plain kind (namedBy_of_aliasName? found).1
    refine ⟨⟨fun worded => ?_, fun spaced => absurd spaced spaceless⟩, fun _ => ⟨name, found⟩⟩
    exact absurd (wordless.symm.trans worded) Bool.false_ne_true

namespace Member

theorem tells_findings (kind : TypeKind) (code : List Char) :
    ∀ finding ∈ findings kind code, finding.Tells line := by
  intro finding member
  have among := (declared_findings kind code finding member).1
  simp only [List.mem_cons, List.not_mem_nil, or_false] at among
  rcases among with element | field
  · apply Finding.tells_of_plain
    rw [element]
    decide
  · obtain ⟨excerpt, quotes⟩ := quoting_findings kind code finding member (by rw [field]; decide)
    have names := quotes.names
    rw [field] at names
    obtain ⟨type, words⟩ := names
    refine Finding.tells_of_word ?_ words
    rw [field]
    decide

theorem tells_typeMembers (view : View) : ∀ finding ∈ typeMembers view, finding.Tells line := by
  intro finding member
  unfold typeMembers at member
  split at member
  · exact absurd member List.not_mem_nil
  · exact tells_findings _ _ finding (List.mem_ite_nil_left.mp member).2

end Member

theorem Rule.tells_check {view : View} (code : view.code = line.code) :
    ∀ rule ∈ all, ∀ findings, rule.check view = .ok findings →
      ∀ finding ∈ findings, finding.kind ∈ rule.kinds → finding.Tells line := by
  -- three rules find kinds that are not plain
  have found : ∀ rule ∈ all, (∀ kind ∈ rule.kinds, kind.Plain) ∨
      ∀ findings, rule.check view = .ok findings → ∀ finding ∈ findings, finding.Tells line := by
    simp only [all, rawRules, contentRules, statementRules, List.cons_append, List.nil_append,
      List.forall_mem_cons]
    and_intros
    all_goals
      first
      | exact .inl (by decide)
      | exact fun rule member => absurd member List.not_mem_nil
      | refine .inr fun findings answers => ?_
        cases answers
    · exact Operator.tells_operatorSpacing view
    · exact Variable.tells_typedefNames code
    · exact Member.tells_typeMembers view
  intro rule member findings answers finding among declared
  rcases found rule member with plain | tells
  · exact Finding.tells_of_plain (plain _ declared)
  · exact tells findings answers finding among

/-! ## Types -/

namespace TypeScope

theorem told_of_nameDiagnostics {head : TypeHead} {brace : Nat} {name : Option Excerpt}
    {diagnostics : List Diagnostic} (there : lines[index]? = some line)
    (answers : nameDiagnostics head (index + 1) brace name = .ok diagnostics) :
    AllTold lines diagnostics := by
  unfold nameDiagnostics at answers
  split at answers
  · split at answers
    · refine Diagnostic.told_of_onLines there (List.forall_mem_singleton.mpr ?_) answers
      exact Finding.tells_of_word (show Kind.typedefNameMissing ∉ Kind.shared by decide) rfl
    · cases answers
      exact AllTold.nil
  next excerpt =>
    refine Diagnostic.told_of_onLines there ?_ answers
    have own : ∀ kind ∈ [Kind.typedefTypeName, .instanceNotSnake, .instanceEndsWithT],
        kind ∉ Kind.shared := by decide
    intro finding member
    have among : finding = Kind.spaceAfterClosingBrace.atColumn (brace + 1) ∨
        ∃ kind ∈ [Kind.typedefTypeName, .instanceNotSnake, .instanceEndsWithT],
          finding = kind.onWith excerpt [.word head.kind.word, .word excerpt.toString] := by
      grind
    rcases among with rfl | ⟨kind, named, rfl⟩
    · exact Finding.tells_of_plain (show Kind.spaceAfterClosingBrace.Plain by decide)
    · exact Finding.tells_of_word (own kind named) rfl

/-- The complaint about a tag stands on the line that opened the type. -/
theorem told_of_tagDiagnostics {head : TypeHead} {diagnostics : List Diagnostic}
    (answers : tagDiagnostics head = .ok diagnostics) :
    AllTold lines diagnostics := by
  unfold tagDiagnostics at answers
  split at answers
  · cases answers
    exact AllTold.nil
  · split at answers
    · cases answers
      exact AllTold.nil
    · obtain ⟨diagnostic, given, answers⟩ := Answer.bind_eq_ok.mp answers
      cases answers
      have own : Kind.typeTagNotCamel ∉ Kind.shared := by decide
      refine AllTold.singleton (Diagnostic.told_of_diagnostic ?_ ?_ given)
      · exact Kind.telling_of_not_mem_shared own fun _ => ⟨head.kind, _, rfl⟩
      · exact fun among => absurd among (Kind.not_mem_aliasNames own)

theorem origins_told (there : lines[index]? = some line) :
    Origins (fun diagnostic => ∃ kind, diagnostic.Told lines kind) lines index line.code where
  members := by
    intro kind bodyStart close diagnostics _ _ answers
    refine Diagnostic.told_of_onLines there ?_ answers
    intro finding member
    obtain ⟨text, _, moved⟩ := List.mem_flatMap.mp member
    obtain ⟨unmoved, found, rfl⟩ := List.mem_map.mp moved
    exact (Member.tells_findings _ _ unmoved found).shift _
  name := by
    intro head column found brace diagnostics _ _ _ answers
    exact told_of_nameDiagnostics there answers
  tag := by
    intro head diagnostics _ answers
    exact told_of_tagDiagnostics answers

end TypeScope

/-! ## Lines -/

namespace Scan

variable {settings : Settings} {site : Site} {state : ScanState}

theorem origins_told (there : lines[site.index]? = some site.line) (read : state.HeadsRead lines) :
    Origins (Finding.Tells site.line) (fun diagnostic => ∃ kind, diagnostic.Told lines kind)
      settings site state where
  reported := fun finding _ tells printed =>
    ⟨finding.kind, Diagnostic.told_of_onLine there tells printed⟩
  blankRun := fun _ _ given => ⟨.tooManyBlankLines, Diagnostic.told_of_plain (by decide) given⟩
  indentedBlank := Finding.tells_of_plain (show Kind.blankLineIndented.Plain by decide)
  rules := by
    intro phase seen findings _ ruled finding member
    obtain ⟨rule, inPhase, declared, found, answered, inside⟩ :=
      Rule.exists_of_mem_runPhase ruled member
    exact Rule.tells_check rfl rule (Rule.mem_all_of_mem_ofPhase inPhase) found answered finding
      inside declared
  list := fun _ block => (ParamBlock.declared_proceed block _ _ _).tells (by decide)
  directive := Finding.tells_of_plain (show Kind.includeIndented.Plain by decide)
  label := fun _ label => (declared_labelFindings? label).tells (by decide)
  indentation := fun _ passes => (declared_indentStep passes).tells (by decide)
  inline := fun _ => (InlineControl.declared_findings _).tells (by decide)
  types := fun _ _ answers =>
    (TypeScope.origins_told there).forall_of_step there (read.indented site) answers

/-- Every complaint of a scan is told by its message. -/
theorem told_of_run (settings : Settings) (raws : List (List Char)) :
    ∀ record ∈ (run settings (Line.ofRaws raws)).1,
      AllTold (Line.ofRaws raws) record.diagnostics := by
  apply forall_of_run
  intro site diagnostics next there passes
  have within := Nat.le_of_lt (Site.lt_length_of_at? there)
  exact (origins_told (Site.getElem?_of_at? there)
    (headsRead_stateBefore _ _ within)).forall_of_step passes

end Scan

end HouseStyle
