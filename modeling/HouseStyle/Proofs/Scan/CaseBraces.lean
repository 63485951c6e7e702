import HouseStyle.Proofs.Scan.Course
import HouseStyle.Proofs.Scan.Origins
import HouseStyle.Proofs.Scan.Spans

/-!
Contract: complaints about braces around the body of a case.

Owns: the brace right behind the colon of a label, and the place that a complaint about it names.
Does not own: complaints about missing breaks.

The brace stands on the line of the label, or, if nothing else follows the colon, on the next line
with code. The complaint takes its column from the line of the brace and its line from the label, so
it points at the brace in the first case only.

Main statement: `caseBlockBraces_run`.
-/

namespace HouseStyle

/-! ## The first occurrence of a character -/

theorem Text.index_of_not_mem {c : Char} {text before rest : List Char} {start : Nat}
    (split : text.drop start = before ++ c :: rest) (without : c ∉ before) :
    index [c] start text = .ok (start + before.length) := by
  rw [index, findFrom?, split, find?_of_not_mem without, Option.map_some, Nat.add_comm]

/-- A text whose first character behind blanks is the given one. -/
theorem Text.exists_blanks_of_head?_trim {c : Char} {text : List Char}
    (first : (trim text).head? = some c) :
    ∃ blanks rest, (∀ d ∈ blanks, isBlank d) ∧ text = blanks ++ c :: rest := by
  obtain ⟨before, after, blanks, -, split⟩ := exists_blanks_around_trim text
  obtain ⟨inner, trimmed⟩ := List.head?_eq_some_iff.mp first
  exact ⟨before, inner ++ after, blanks, by rw [← List.cons_append, ← trimmed]; exact split⟩

theorem Text.not_mem_of_blanks {c : Char} (ink : isBlank c = false) {blanks : List Char}
    (blank : ∀ d ∈ blanks, isBlank d) : c ∉ blanks := by
  intro member
  rw [blank c member] at ink
  cases ink

namespace CaseBlock

/-! ## The brace behind a label -/

/-- The brace right behind the colon of the label at a site, by the index of its line and its column:
on the line of the label, or on the next line with code if nothing else follows the colon. -/
inductive BraceBehind (site : Site) : Nat → Nat → Prop where
  | here {label gap rest : Excerpt} {blanks others : List Char}
    (labelled : parts? site.line.code = some (label, gap, rest))
    (blank : ∀ c ∈ blanks, Text.isBlank c) (written : rest.text = blanks ++ '{' :: others) :
    BraceBehind site site.index (gap.stop + 1 + blanks.length)
  | later {label gap rest : Excerpt} {blanks others : List Char} {between after : List Line}
    {next : Line} (labelled : parts? site.line.code = some (label, gap, rest))
    (bare : Text.trim rest.text = []) (split : site.after = between ++ next :: after)
    (codeless : ∀ line ∈ between, line.hasCode = false)
    (blank : ∀ c ∈ blanks, Text.isBlank c) (written : next.code = blanks ++ '{' :: others) :
    BraceBehind site (site.index + 1 + between.length) blanks.length

/-- Behind the gap after a label stand the colon and what follows it. -/
theorem drop_stop_of_parts? {code : List Char} {label gap rest : Excerpt}
    (found : parts? code = some (label, gap, rest)) :
    ∃ others, code.drop gap.stop = ':' :: (rest.text ++ others) := by
  obtain ⟨matched, fits, found⟩ := Option.bind_eq_some_iff.mp found
  obtain ⟨label', -, found⟩ := Option.bind_eq_some_iff.mp found
  obtain ⟨gap', gapPart, found⟩ := Option.bind_eq_some_iff.mp found
  obtain ⟨rest', restPart, found⟩ := Option.bind_eq_some_iff.mp found
  cases found
  obtain ⟨stop, reached, rfl⟩ := Pattern.exists_of_matchAt? fits
  simp only [Spacing.caseLabel, Pattern.mem_outcomes_append, Pattern.mem_outcomes_capture,
    Pattern.mem_outcomes_char, Pattern.notAhead, Pattern.atEnd, Pattern.mem_outcomes_look,
    Pattern.anything, Pattern.mem_outcomes_many] at reached
  obtain ⟨_, ⟨_, ⟨_, ⟨_, ⟨_, ⟨first, ⟨start, atStart, blanks⟩, second, label, rfl⟩, third, spaces,
    rfl⟩, after, colon, rfl⟩, -, rfl⟩, _, ⟨anything, others, split, -, rfl⟩, rfl⟩, -, rfl⟩ := reached
  have early : (Cursor.atStart code).Reaches second :=
    ((Pattern.reaches_of_mem_outcomes atStart).trans (Pattern.reaches_of_mem_outcomes blanks)).trans
      (Pattern.reaches_of_mem_outcomes label)
  have late : second.Reaches third :=
    Cursor.reaches_of_record (Pattern.reaches_of_mem_outcomes spaces)
  have left := (early.trans late).rest_eq_drop
  rw [Cursor.part?_matched] at gapPart restPart
  have gapSpan : some ((Cursor.atStart code).excerpt ⟨second.position, third.position⟩) = some gap :=
    gapPart
  have restSpan : some ((Cursor.atStart code).excerpt
      ⟨third.position + 1, third.position + 1 + anything.length⟩) = some rest := restPart
  have colonSplit : third.rest = ':' :: after := colon
  have restSplit : after = anything ++ others := split
  have behind : code.drop (third.position + 1) = anything ++ others := by
    rw [← List.tail_drop, left, colonSplit, restSplit, List.tail_cons]
  have written : ((Cursor.atStart code).excerpt
      ⟨third.position + 1, third.position + 1 + anything.length⟩).text = anything := by
    simp only [Cursor.excerpt, Cursor.atStart, Nat.sub_zero, Nat.add_sub_cancel_left, behind,
      List.take_left]
  refine ⟨others, ?_⟩
  rw [← Option.some.inj gapSpan, early.stop_excerpt late, left, colonSplit, restSplit,
    ← Option.some.inj restSpan, written]

/-- The brace is where it is said to be. -/
theorem BraceBehind.exists_brace {lines : List Line} {index line column : Nat} {site : Site}
    (there : Site.at? lines index = some site) (behind : BraceBehind site line column) :
    ∃ braced, lines[line]? = some braced ∧ braced.code[column]? = some '{' := by
  cases behind with
  | @here label gap rest blanks others labelled blank written =>
    refine ⟨site.line, by rw [Site.index_of_at? there, Site.getElem?_of_at? there], ?_⟩
    obtain ⟨more, split⟩ := drop_stop_of_parts? labelled
    rw [Nat.add_assoc, ← List.getElem?_drop, split, written, Nat.add_comm, List.getElem?_cons_succ]
    simp
  | @later label gap rest blanks others between after next labelled bare split codeless blank
      written =>
    refine ⟨next, ?_, by simp [written]⟩
    rw [Site.index_of_at? there, ← List.getElem?_drop, ← Site.after_of_at? there, split]
    simp

/-! ## The complaint about it -/

variable {site : Site} {baseIndent : Int} {state next : ScanState} {findings : List Finding}

/-- A finding about a brace names the column of the brace right behind the label. -/
def NamesBrace (site : Site) (finding : Finding) : Prop :=
  finding.kind = .caseBlockBraces →
    ∃ line column, BraceBehind site line column ∧ finding = Kind.caseBlockBraces.atColumn column

theorem kind_of_mem_openBody {label : List Char} {colon : Nat} {finding : Finding}
    (member : finding ∈ (openBody site baseIndent label colon state).1) :
    finding.kind = .caseMissingBreak := by
  have missing : finding ∈
      (if (body site).hasBreak || isMarked site.line || (body site).marked then []
        else [(⟨.caseMissingBreak, colon, 1, [.word (String.ofList label)]⟩ : Finding)]) := by
    simp only [openBody] at member
    split at member <;> exact member
  obtain ⟨-, same⟩ := List.mem_ite_nil_left.mp missing
  rw [List.mem_singleton.mp same]

theorem namesBrace_of_analyzeRest {label gap rest : Excerpt} {name : List Char}
    (labelled : parts? site.line.code = some (label, gap, rest))
    (answers : analyzeRest site baseIndent name gap.stop (Text.trim rest.text) state =
      .ok (findings, next)) : ∀ finding ∈ findings, NamesBrace site finding := by
  simp only [analyzeRest] at answers
  split at answers
  · cases answers
    exact fun finding member => absurd member List.not_mem_nil
  · split at answers
    next starts =>
      obtain ⟨blanks, others, blank, written⟩ :=
        Text.exists_blanks_of_head?_trim (beq_iff_eq.mp starts)
      obtain ⟨more, split⟩ := drop_stop_of_parts? labelled
      have found : Text.index ['{'] gap.stop site.line.code =
          .ok (gap.stop + (':' :: blanks).length) := by
        have written : site.line.code.drop gap.stop = (':' :: blanks) ++ '{' :: (others ++ more) := by
          rw [split, written, List.append_assoc, List.cons_append, List.cons_append]
        apply Text.index_of_not_mem written
        exact not_or.mpr ⟨by decide, Text.not_mem_of_blanks (by decide) blank⟩ ∘ List.mem_cons.mp
      rw [found, Answer.ok_bind] at answers
      cases answers
      have place : gap.stop + (':' :: blanks).length = gap.stop + 1 + blanks.length := by
        rw [List.length_cons]
        omega
      intro finding member _
      rw [List.mem_singleton.mp member, place]
      exact ⟨_, _, .here labelled blank written, rfl⟩
    next =>
      split at answers
      next startsNext =>
        obtain ⟨bare, first⟩ := Bool.and_eq_true_iff.mp startsNext
        cases later : site.nextCode? with
        | none => simp [later] at first
        | some line =>
          rw [later] at first answers
          obtain ⟨coded, between, after, split, codeless⟩ := List.find?_eq_some_iff_append.mp later
          obtain ⟨blanks, others, blank, written⟩ :=
            Text.exists_blanks_of_head?_trim (beq_iff_eq.mp first)
          have found : Text.index ['{'] 0 line.code = .ok (0 + blanks.length) :=
            Text.index_of_not_mem written (Text.not_mem_of_blanks (by decide) blank)
          rw [Nat.zero_add] at found
          rw [Option.map_some, Option.getD_some, found, Answer.ok_bind] at answers
          cases answers
          intro finding member _
          rw [List.mem_singleton.mp member]
          exact ⟨_, _, .later labelled (List.isEmpty_iff.mp bare) split
            (fun line among => by simpa using codeless line among) blank written, rfl⟩
      next =>
        split at answers
        · cases answers
          exact fun finding member => absurd member List.not_mem_nil
        · rw [← (Prod.mk.inj (Except.ok.inj answers)).1]
          intro finding member same
          cases same.symm.trans (kind_of_mem_openBody member)

theorem namesBrace_of_analyze (answers : analyze site baseIndent state = .ok (findings, next)) :
    ∀ finding ∈ findings, NamesBrace site finding := by
  rw [analyze_eq] at answers
  split at answers
  · cases answers
    exact fun finding member => absurd member List.not_mem_nil
  next label gap rest found =>
    obtain ⟨⟨others, inner⟩, analyzed, answers⟩ := Answer.bind_eq_ok.mp answers
    cases answers
    refine List.forall_mem_append.mpr ⟨?_, namesBrace_of_analyzeRest found analyzed⟩
    intro finding member same
    obtain ⟨-, attached⟩ := List.mem_ite_nil_left.mp member
    rw [List.mem_singleton.mp attached] at same
    cases same

end CaseBlock

/-! ## Runs -/

namespace Scan

open CaseBlock (NamesBrace BraceBehind)

variable {settings : Settings} {site : Site} {state next : ScanState}

theorem namesBrace_indentStep {limit : Option Nat} {previousCode : List Char}
    {outcome : Indent.Outcome} (passes : Indent.step limit site previousCode state = .ok outcome) :
    ∀ finding ∈ outcome.findings, NamesBrace site finding := by
  rw [Indent.step_eq] at passes
  obtain ⟨⟨labelFindings, labelled⟩, label, passes⟩ := Answer.bind_eq_ok.mp passes
  obtain ⟨inline, -, passes⟩ := Answer.bind_eq_ok.mp passes
  have layout : ∀ finding ∈ Indent.mismatchFindings site.line.raw (Indent.expectedAt site.line state)
      ++ labelFindings, NamesBrace site finding := by
    refine List.forall_mem_append.mpr ⟨?_, ?_⟩
    · intro finding member same
      obtain ⟨-, mismatch⟩ := List.mem_ite_nil_left.mp member
      rw [List.mem_singleton.mp mismatch] at same
      cases same
    · unfold Indent.labelOutcome at label
      split at label
      · exact CaseBlock.namesBrace_of_analyze label
      · cases label
        exact fun finding member => absurd member List.not_mem_nil
  split at passes
  · cases passes
    exact layout
  · split at passes
    next opens =>
      obtain ⟨⟨listFindings, inside⟩, start, passes⟩ := Answer.bind_eq_ok.mp passes
      cases passes
      obtain ⟨list, listAnswers, listKinds⟩ := ParamBlock.start_answers opens
        (Indent.expectedAt site.line state) previousCode labelled
      rw [start] at listAnswers
      cases listAnswers
      refine List.forall_mem_append.mpr ⟨layout, fun finding member about => ?_⟩
      exact absurd about (listKinds.kind_ne (by decide) finding member)
    next =>
      cases passes
      exact layout

/-- A complaint about a brace names the line of the label and the column of the brace. -/
def PointsAtBrace (site : Site) (diagnostic : Diagnostic) : Prop :=
  diagnostic.kind = Kind.caseBlockBraces.name →
    ∃ line column, BraceBehind site line column ∧ diagnostic.line = site.number ∧
      diagnostic.column = column ∧ diagnostic.length = 1

/-- Only the reading of a label complains about braces around the body of a case. -/
theorem origins_pointsAtBrace (settings : Settings) (site : Site) (state : ScanState) :
    Origins (NamesBrace site) (PointsAtBrace site) settings site state where
  reported := by
    intro finding diagnostic names printed about
    have isOf := Kind.isOf_of_diagnostic printed
    obtain ⟨line, column, behind, rfl⟩ := names (Kind.name_injective (isOf.1.symm.trans about))
    cases printed
    exact ⟨line, column, behind, rfl, Int.max_eq_left (Int.natCast_nonneg _), rfl⟩
  blankRun := by
    intro _ diagnostic printed about
    cases Kind.name_injective ((Kind.isOf_of_diagnostic printed).1.symm.trans about)
  indentedBlank := nofun
  rules := by
    intro phase state findings _ ruled finding member about
    refine absurd about ((Rule.ofKinds_of_runPhase ruled).kind_ne ?_ finding member)
    cases phase <;> decide
  list := fun _ block finding member about =>
    absurd about ((ParamBlock.declared_proceed block _ _ _).kind_ne (by decide) finding member)
  directive := nofun
  label := fun _ label finding member about =>
    absurd about ((declared_labelFindings? label).kind_ne (by decide) finding member)
  indentation := fun _ passes => namesBrace_indentStep passes
  inline := fun _ finding member about =>
    absurd about ((InlineControl.declared_findings _).kind_ne (by decide) finding member)
  types := fun _ _ answers diagnostic member about =>
    absurd about ((reported_of_typeStep answers).kind_ne (by decide) diagnostic member)

/-- A complaint about a braced case names the line of the label, and the column at which the brace
stands on its own line. This is the line of the label if the brace follows the colon there, and
otherwise the next line with code. -/
theorem caseBlockBraces_run {lines : List Line} {index : Nat} {record : Record}
    (scanned : (run settings lines).1[index]? = some record) {diagnostic : Diagnostic}
    (reported : diagnostic ∈ record.diagnostics)
    (about : diagnostic.kind = Kind.caseBlockBraces.name) :
    ∃ site line column, Site.at? lines index = some site ∧ BraceBehind site line column ∧
      diagnostic.line = index + 1 ∧ diagnostic.column = (column : Int) ∧ diagnostic.length = 1 ∧
      ∃ braced, lines[line]? = some braced ∧ braced.code[column]? = some '{' := by
  obtain ⟨site, there, -, -, passes⟩ := step_of_run scanned
  obtain ⟨line, column, behind, numbered, placed, length⟩ :=
    (origins_pointsAtBrace settings site (stateBefore lines index)).forall_of_step passes diagnostic
      reported about
  refine ⟨site, line, column, there, behind, ?_, placed, length, behind.exists_brace there⟩
  rw [numbered, Site.number, Site.index_of_at? there, Nat.cast_add_one]

/-- A case whose brace follows the colon. -/
theorem caseBlockBraces_run_same_line :
    let lines := Line.ofRaws (["switch (x) \x7b", "  case 1: \x7b"].map String.toList)
    ∃ record diagnostic, (run .default lines).1[1]? = some record ∧
      diagnostic ∈ record.diagnostics ∧ diagnostic.kind = Kind.caseBlockBraces.name ∧
      ∃ site line column, Site.at? lines 1 = some site ∧ BraceBehind site line column ∧
        diagnostic.line = 2 ∧ diagnostic.column = (column : Int) ∧
        diagnostic.length = 1 ∧
        ∃ braced, lines[line]? = some braced ∧ braced.code[column]? = some '{' := by
  intro lines
  have reported : ((run .default lines).1[1]?.any fun record => record.diagnostics.any fun
      diagnostic => diagnostic.kind == Kind.caseBlockBraces.name) := by decide +kernel
  obtain ⟨record, scanned, reported⟩ := (Option.any_eq_true ..).mp reported
  obtain ⟨diagnostic, member, about⟩ := List.any_eq_true.mp reported
  exact ⟨record, diagnostic, scanned, member, beq_iff_eq.mp about,
    caseBlockBraces_run scanned member (beq_iff_eq.mp about)⟩

/-- If the brace stands on the next line, its column is named on the line of the label, where there
is no brace. -/
theorem caseBlockBraces_run_next_line :
    let lines := Line.ofRaws (["switch (x) \x7b", "  case 1:", "  \x7b"].map String.toList)
    ∃ record ∈ (run .default lines).1, ∃ diagnostic ∈ record.diagnostics,
      diagnostic.kind = Kind.caseBlockBraces.name ∧ diagnostic.line = 2 ∧ diagnostic.column = 2 ∧
        lines[1]?.bind (fun line => line.code[2]?) ≠ some '{' ∧
        lines[2]?.bind (fun line => line.code[2]?) = some '{' := by
  decide +kernel

end Scan

end HouseStyle
