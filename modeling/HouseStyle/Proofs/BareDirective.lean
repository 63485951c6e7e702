import HouseStyle.Proofs.Check
import HouseStyle.Proofs.Directive
import HouseStyle.Proofs.LineEnds
import HouseStyle.Proofs.Masking
import HouseStyle.Proofs.Pattern.Alphabet

/-!
Contract: directives that consist of words.

Owns: lines over the letters of such directives, and what a scan makes of a directive of at most two
words.
Does not own: which names a definition may have, and directives with numbers, texts or operators.

Every rule on content but the one on definitions looks for a character that such a directive does not
have, or for spaces beside each other, or for a number.

Main statement: `BareDirective.step_initial`.
-/

namespace HouseStyle

/-- A character of a directive that consists of words: a letter, a digit, an underscore, the hash or a
space. -/
def isDirectiveLetter (c : Char) : Bool :=
  Lexicon.isIdentRest c || c == '#' || c == ' '

/-- The letters of directives are ASCII characters. -/
theorem toNat_of_isDirectiveLetter {c : Char} (letter : isDirectiveLetter c) : c.toNat ≤ 127 := by
  simp only [isDirectiveLetter, Bool.or_eq_true, beq_iff_eq] at letter
  rcases letter with (rest | rfl) | rfl
  · have code := toNat_of_isIdentRest rest
    omega
  · decide
  · decide

theorem not_mem_of_letters {raw : List Char} (letters : ∀ c ∈ raw, isDirectiveLetter c) {c : Char}
    (other : isDirectiveLetter c = false) : c ∉ raw := by
  intro member
  rw [letters c member] at other
  cases other

/-- A line of the letters of directives holds neither comments nor literals. -/
theorem Line.ofRaw_of_letters {raw : List Char} (letters : ∀ c ∈ raw, isDirectiveLetter c) :
    ofRaw .code raw = ⟨raw, raw, raw, [], .code, .code⟩ := by
  have absent := @not_mem_of_letters raw letters
  exact (allCode_of_markFree (Source.markFree_of_not_mem (absent (by decide))
    (absent (by decide)) (absent (by decide)))).unchanged

/-- What is found nowhere draws no complaint. -/
theorem Spacing.matchFindings_eq_nil {pattern : Pattern} {text : List Char}
    (nowhere : pattern.findAll text = []) (kind : Kind) : matchFindings kind pattern text = [] := by
  rw [matchFindings, nowhere, List.map_nil]

/-- A character that does not stand in a text has no neighbours there. -/
theorem Spacing.neighbours_eq_nil {c : Char} {text : List Char} (absent : c ∉ text) (position : Nat)
    (previous : Option Char) : neighbours c position previous text = [] := by
  induction text generalizing position previous with
  | nil => rfl
  | cons d text inductionHypothesis =>
    rw [List.mem_cons, not_or] at absent
    rw [neighbours, if_neg (by rw [beq_iff_eq]; exact Ne.symm absent.1)]
    exact inductionHypothesis absent.2 _ _

/-- In a text of ASCII characters there is no character beyond them. -/
theorem Call.firstForeign?_eq_none {raw : List Char} (ascii : ∀ c ∈ raw, c.toNat ≤ 127)
    (position : Nat) (code : List Char) : firstForeign? position raw code = none := by
  induction raw generalizing position code with
  | nil => rfl
  | cons c raw inductionHypothesis =>
    obtain ⟨first, others⟩ := List.forall_mem_cons.mp ascii
    cases code with
    | nil => rfl
    | cons d code =>
      have inside : ¬ ((decide (127 < c.toNat) && d != ' ') = true) := by
        simp only [Bool.and_eq_true, decide_eq_true_eq]
        omega
      rw [firstForeign?, if_neg inside]
      exact inductionHypothesis others _ _

/-- A run of characters that pass a test ends with one that passes it. -/
theorem Pattern.exists_last_of_several {test : Char → Bool} {start stop : Cursor}
    (reached : stop ∈ (several test).outcomes start) :
    ∃ before c, start.rest = before ++ c :: stop.rest ∧ test c := by
  obtain ⟨_, first, run⟩ := mem_outcomes_append.mp reached
  obtain ⟨c, rest, split, passes, rfl⟩ := mem_outcomes_one.mp first
  obtain ⟨more, after, splitRest, all, rfl⟩ := mem_outcomes_many.mp run
  rw [split, show rest = more ++ after from splitRest]
  rcases List.eq_nil_or_concat more with rfl | ⟨before, last, rfl⟩
  · exact ⟨[], c, rfl, passes⟩
  · exact ⟨c :: before, last, by simp [Cursor.after], all last (by simp)⟩

/-- A directive that consists of its own word and at most one other, and of no number. -/
structure BareDirective (raw : List Char) : Prop where
  letters : ∀ c ∈ raw, isDirectiveLetter c
  hash : raw.head? = some '#'
  ending : ∃ c, raw.getLast? = some c ∧ Lexicon.isIdentRest c
  spaces : raw.count ' ' ≤ 1
  digits : ∀ d rest, d :: rest <:+ raw → Text.isDecimal d → rest.head?.any Text.isWord

/-- A directive's word and a name are a directive of words only if they hold no number. -/
theorem BareDirective.of_name {start name : List Char}
    (opening : start.all fun c => isDirectiveLetter c && !Text.isDecimal c)
    (hash : start.head? = some '#') (spaces : start.count ' ' ≤ 1)
    (word : ∀ c ∈ name, Lexicon.isIdentRest c)
    (ending : ∃ c, name.getLast? = some c ∧ Text.isDecimal c = false) :
    BareDirective (start ++ name) where
  letters := by
    intro c member
    rcases List.mem_append.mp member with first | second
    · exact ((Bool.and_eq_true ..).mp (List.all_eq_true.mp opening c first)).1
    · rw [isDirectiveLetter, word c second]
      rfl
  hash := by rw [List.head?_append, hash, Option.some_or]
  ending := by
    obtain ⟨c, last, -⟩ := ending
    exact ⟨c, by rw [List.getLast?_append, last, Option.some_or], word c (List.mem_of_getLast? last)⟩
  spaces := by
    have none : name.count ' ' = 0 := List.count_eq_zero.mpr fun member =>
      absurd (word ' ' member) (by decide)
    rw [List.count_append, none]
    exact spaces
  digits := by
    rintro d rest ⟨before, whole⟩ digit
    have inName : d :: rest <:+ name := by
      rcases List.append_eq_append_iff.mp whole with ⟨others, rfl, second⟩ | ⟨others, rfl, second⟩
      · cases others with
        | nil => exact ⟨[], second⟩
        | cons e others =>
          obtain ⟨rfl, -⟩ := List.cons.inj second
          have plain := ((Bool.and_eq_true ..).mp (List.all_eq_true.mp opening d (by simp))).2
          rw [digit] at plain
          cases plain
      · exact ⟨others, second.symm⟩
    cases rest with
    | nil =>
      obtain ⟨c, last, plain⟩ := ending
      obtain ⟨before, rfl⟩ := inName
      rw [List.getLast?_concat, Option.some.injEq] at last
      rw [last, plain] at digit
      cases digit
    | cons e rest => exact isWord_of_isIdentRest (word e (inName.mem (by simp)))

namespace BareDirective

variable {raw : List Char} (bare : BareDirective raw)
include bare

theorem trimRight_eq : Text.trimRight raw = raw := by
  obtain ⟨c, last, rest⟩ := bare.ending
  have inked : raw.getLast?.any Text.isBlank = false := by
    rw [last, Option.any_some, isBlank_eq_false_of_isIdentRest rest]
  have trimmed := @Text.trimRight_append raw [] nofun inked
  rwa [List.append_nil] at trimmed

theorem trim_eq : Text.trim raw = raw := by
  obtain ⟨others, rfl⟩ := List.head?_eq_some_iff.mp bare.hash
  rw [Text.trim, Text.trimLeft, List.dropWhile_cons_of_neg (by decide), bare.trimRight_eq]

theorem matchStart?_inclusion : Lexicon.inclusion.matchStart? raw = none :=
  Pattern.matchStart?_eq_none_of_leaves (.inr (.inl (.inl (Pattern.leaves_anyOf (by decide)))))
    bare.letters

open Pattern in
/-- A word goes on behind every digit, so that no digit ends a number. -/
theorem numbers_eq_nil : Call.number.findAll raw = [] := by
  refine findAll_eq_nil fun cursor inside => List.eq_nil_iff_forall_not_mem.mpr fun stop reached => ?_
  simp only [Call.number, notAhead, mem_outcomes_append, mem_outcomes_look] at reached
  obtain ⟨_, ⟨start, before, digits⟩, past, rfl⟩ := reached
  have here : start.rest = cursor.rest := by
    rw [(mem_outcomes_look.mp before).2]
  obtain ⟨consumed, d, split, digit⟩ := exists_last_of_several digits
  rw [here] at split
  have goesOn := bare.digits d stop.rest
    ((split ▸ List.suffix_append consumed (d :: stop.rest)).trans inside) digit
  cases next : stop.rest.head? with
  | none =>
    rw [next] at goesOn
    cases goesOn
  | some c =>
    rw [next, Option.any_some] at goesOn past
    rw [goesOn] at past
    cases past

open Pattern in
/-- No space ends the line. -/
theorem trailingSpaces_eq_nil : Spacing.trailingSpaces.findAll raw = [] := by
  refine findAll_eq_nil fun cursor inside => List.eq_nil_iff_forall_not_mem.mpr fun stop reached => ?_
  simp only [Spacing.trailingSpaces, atEnd, mem_outcomes_append, mem_outcomes_look] at reached
  obtain ⟨_, run, ends, rfl⟩ := reached
  obtain ⟨consumed, c, split, space⟩ := exists_last_of_several run
  obtain ⟨d, last, word⟩ := bare.ending
  obtain ⟨before, whole⟩ := inside
  rw [split] at whole
  rcases (Bool.or_eq_true ..).mp ends with atLast | atFeed
  · rw [← whole, beq_iff_eq.mp atLast, List.getLast?_append, List.getLast?_concat] at last
    cases last
    rcases (Bool.or_eq_true ..).mp space with same | same
    all_goals
      rw [beq_iff_eq.mp same] at word
      exact absurd word (by decide)
  · have feed : '\n' ∈ raw := by
      rw [← whole, beq_iff_eq.mp atFeed]
      simp
    exact absurd (bare.letters _ feed) (by decide)

open Pattern in
/-- No two spaces stand beside each other. -/
theorem spaceRun_eq_nil : Spacing.spaceRun.findAll raw = [] := by
  refine findAll_eq_nil fun cursor inside => List.eq_nil_iff_forall_not_mem.mpr fun stop reached => ?_
  simp only [Spacing.spaceRun, Spacing.afterInk, several, behind, mem_outcomes_append,
    mem_outcomes_char, mem_outcomes_one, mem_outcomes_look, beq_iff_eq] at reached
  obtain ⟨_, ⟨_, ⟨_, ⟨-, rfl⟩, first, split, rfl⟩, _, ⟨c, second, splitToo, rfl, rfl⟩, -⟩, -⟩ := reached
  have twice : raw.count ' ' ≥ (' ' :: ' ' :: second).count ' ' := by
    rw [← (show first = ' ' :: second from splitToo), ← split]
    exact inside.sublist.count_le ' '
  have once := bare.spaces
  rw [List.count_cons_self, List.count_cons_self] at twice
  omega

/-- No pattern is found that needs a character which directives of words do not have. -/
theorem findAll_eq_nil {pattern : Pattern} (leaves : pattern.Leaves isDirectiveLetter) :
    pattern.findAll raw = [] :=
  Pattern.findAll_eq_nil_of_leaves leaves bare.letters

open Pattern in
/-- There is no star that could mark a pointer. -/
theorem pointers_eq_nil : Pointer.formatFindings raw = [] := by
  have star : (char '*').Leaves isDirectiveLetter := leaves_char (by decide)
  have stars : Lexicon.stars.Leaves isDirectiveLetter := .inl star
  have atType : Pointer.starAtType.findAll raw = [] := bare.findAll_eq_nil (.inr star)
  have apart : Pointer.starApart.findAll raw = [] := bare.findAll_eq_nil (.inl (.inl (.inr stars)))
  have detached : Pointer.castApart.findAll raw = [] :=
    bare.findAll_eq_nil (.inl (.inl (.inr (leaves_char (by decide)))))
  simp [Pointer.formatFindings, atType, apart, detached]

open Pattern in
/-- Of the rules on content only the one on definitions can find anything. -/
theorem runPhase_content {view : View} (written : view.line = .ofRaw .code raw) :
    Rule.runPhase .content view = Definition.definitionLine view := by
  have marked := written.trans (Line.ofRaw_of_letters bare.letters)
  have masked : view.masked = raw := by rw [View.masked, marked]
  have unspaced : ∀ {kind : Kind} {pattern : Pattern}, pattern.Leaves isDirectiveLetter →
      Spacing.matchFindings kind pattern view.masked = [] := by
    intro kind pattern leaves
    rw [masked, Spacing.matchFindings_eq_nil (bare.findAll_eq_nil leaves)]
  have semicolon : Spacing.semicolonSpace view = [] := unspaced (.inr (leaves_char (by decide)))
  have parens : Spacing.parenSpace view = [] :=
    unspaced ⟨.inl (leaves_char (by decide)), .inr (leaves_char (by decide))⟩
  have brackets : Spacing.bracketSpace view = [] :=
    unspaced ⟨.inl (leaves_char (by decide)), .inr (leaves_char (by decide))⟩
  have comma : (char ',').Leaves isDirectiveLetter := leaves_char (by decide)
  have commas : Spacing.commaSpacing view = [] :=
    unspaced ⟨.inr comma, .inl comma, .inl (.inl (.inl comma))⟩
  have spaces : Spacing.multipleSpaces view = [] := by
    rw [Spacing.multipleSpaces, masked, Spacing.matchFindings_eq_nil bare.spaceRun_eq_nil]
  have pointers : Pointer.pointerFormat view = [] := by
    rw [Pointer.pointerFormat, masked, bare.pointers_eq_nil]
  have operators : Operator.operatorSpacing view = [] := by
    rw [Operator.operatorSpacing, masked, Operator.findings, bare.findAll_eq_nil]
    · rfl
    · exact ⟨leaves_oneOf (by decide), leaves_anyOf (by decide)⟩
  have alone : ∀ {c : Char}, isDirectiveLetter c = false →
      Spacing.neighbours c 0 none view.masked = [] := by
    intro c outside
    rw [masked, Spacing.neighbours_eq_nil (not_mem_of_letters bare.letters outside)]
  have ternary : Spacing.ternarySpacing view = [] := by
    rw [Spacing.ternarySpacing, Spacing.isolated, Spacing.isolated, alone (by decide),
      alone (by decide)]
    exact ite_self []
  have keywords : Spacing.keywordSpaceBeforeParen view = [] := by
    rw [Spacing.keywordSpaceBeforeParen, masked, bare.findAll_eq_nil, List.filterMap_nil]
    exact .inr (leaves_char (by decide))
  have numbers : Call.magicNumber view = .ok [] := by
    rw [Call.magicNumber, masked, bare.numbers_eq_nil]
    split <;> rfl
  have insecure : Call.insecureFunction view = [] := by
    rw [Call.insecureFunction, masked, bare.findAll_eq_nil, List.filterMap_nil]
    exact .inr (leaves_char (by decide))
  have allocations : Call.allocCast view = [] := by
    rw [Call.allocCast, masked, bare.findAll_eq_nil, List.filterMap_nil]
    exact .inr (leaves_char (by decide))
  have calls : Call.callSpace view = [] := by
    rw [Call.callSpace, if_pos]
    rw [View.isDirective, View.stripped, Line.stripped, marked, bare.trim_eq, bare.hash]
    rfl
  have ascii : Call.nonAscii view = [] := by
    rw [Call.nonAscii, marked, Call.firstForeign?_eq_none]
    exact fun c member => toNat_of_isDirectiveLetter (bare.letters c member)
  simp only [Rule.runPhase, Rule.ofPhase, Rule.contentRules, List.mapM_cons, List.mapM_nil,
    Rule.total, semicolon, parens, brackets, commas, spaces, pointers, operators, ternary, keywords,
    numbers, insecure, allocations, calls, ascii, Answer.ok_bind]
  cases Definition.definitionLine view <;> simp

/-- Of a line that is short enough the rules on raw lines find nothing. -/
theorem runPhase_raw {view : View} (written : view.line = .ofRaw .code raw)
    (short : (raw.length : Int) ≤ view.settings.limit) : Rule.runPhase .raw view = .ok [] := by
  have marked := written.trans (Line.ofRaw_of_letters bare.letters)
  have length : Spacing.lineLength view = [] := by
    rw [Spacing.lineLength, marked]
    exact if_neg (Int.not_lt.mpr short)
  have trailing : Spacing.trailingWhitespace view = [] := by
    rw [Spacing.trailingWhitespace, marked, Spacing.matchFindings_eq_nil bare.trailingSpaces_eq_nil]
  have markers : Spacing.todoComment view = [] := by
    rw [Spacing.todoComment, marked, List.filterMap_nil]
  simp only [Rule.runPhase, Rule.ofPhase, Rule.rawRules, List.mapM_cons, List.mapM_nil, Rule.total,
    length, trailing, markers, Answer.ok_bind]
  rfl

/-- The line changes nothing that a scan remembers, and only the rule on definitions can complain. -/
theorem step_initial {settings : Settings} {site : Site} (written : site.line = .ofRaw .code raw)
    (short : (raw.length : Int) ≤ settings.limit) :
    Scan.step settings site .initial = (do
      let findings ← Definition.definitionLine (site.view settings .initial)
      let diagnostics ← Scan.report site findings
      return (diagnostics, .initial)) := by
  have marked := written.trans (Line.ofRaw_of_letters bare.letters)
  have hash : '#' ∈ raw := List.mem_of_head? bare.hash
  have inked : site.line.isBlank = false := by
    rw [marked, Line.isBlank, Text.isBlankText, List.all_eq_false]
    exact ⟨'#', hash, by decide⟩
  have coded : site.line.hasCode := by
    rw [marked, Line.hasCode, List.any_eq_true]
    exact ⟨'#', hash, by decide⟩
  have plain : Scan.isInclusion site.line = false := by
    rw [Scan.isInclusion, marked, Pattern.fits, bare.matchStart?_inclusion]
    rfl
  have directive : (site.line.stripped.head? == some '#') = true := by
    rw [Line.stripped, marked, bare.trim_eq, bare.hash]
    rfl
  have ended : (Text.trimRight raw).getLast? ≠ some '\\' := by
    obtain ⟨c, last, rest⟩ := bare.ending
    rw [bare.trimRight_eq, last, ne_eq, Option.some.injEq]
    rintro rfl
    exact absurd rest (by decide)
  have raws := @runPhase_raw _ bare (site.view settings .initial) written short
  have contents := @runPhase_content _ bare (site.view settings .initial) written
  have settled : Scan.directiveLine site .initial = .ok ([], .initial) := by
    rw [Scan.directiveLine, plain, marked]
    simp [ended, Scan.report, ScanState.initial]
  have content : Scan.contentDiagnostics settings site .initial =
      Definition.definitionLine (site.view settings .initial) >>= Scan.report site := by
    rw [Scan.contentDiagnostics, if_neg (by rw [plain]; decide), contents]
  have code : Scan.codeLine settings site .initial = .ok ([], .initial) := by
    rw [Scan.codeLine]
    simp only [ScanState.initial, directive, Bool.true_or, if_true]
    exact settled
  have blanks : Scan.endBlankRun site .initial = .ok ([], .initial) := rfl
  have kept : site.line.isSkipped = false := by
    rw [Line.isSkipped, coded, Bool.not_true, Bool.and_false]
  have after : site.line.after = .code := by rw [marked]
  rw [Scan.step, Scan.line, if_neg (by rw [inked]; decide), Scan.inkedLine, blanks]
  simp only [Answer.ok_bind, raws, Scan.report, List.mapM_nil, Answer.pure_eq_ok, kept, content,
    code, after, Bool.false_eq_true, if_false]
  cases Definition.definitionLine (site.view settings .initial) with
  | error fault => rfl
  | ok findings =>
    simp only [Answer.ok_bind, Scan.report]
    cases findings.mapM fun finding => finding.onLine site.number with
    | error fault => rfl
    | ok diagnostics =>
      simp [CaseBlock.closeFinished, CaseBlock.closeFrames, ScanState.initial]

end BareDirective

end HouseStyle
