import HouseStyle.Proofs.Rule.Spans
import HouseStyle.Proofs.Scan.Origins
import HouseStyle.Proofs.Scan.TypeHeads

/-!
Contract: the complaints of a scan lie in the text.

Owns: places in a text, and the places of all complaints about a line.
Does not own: the findings of the rules, which `Proofs.Rule.Spans` treats, and the heads of types.

A complaint about a line lies on that line, with two exceptions. One about blank lines is made on
the line behind them and names the last of them. One about the tag of a type is made on the line
that closes the type and names the one that its head was read from.

Main statement: `located_of_diagnostics`.
-/

namespace HouseStyle

/-! ## Places in a text -/

/-- A stretch of characters on one of the lines, which are counted from one. -/
def Source.HasPlace (raws : List (List Char)) (line column length : Int) : Prop :=
  ∃ (index : Nat) (raw : List Char), raws[index]? = some raw ∧ line = index + 1 ∧ 0 ≤ column ∧
    0 ≤ length ∧ column + length ≤ raw.length

/-- The kinds of complaints that are placed where they do not belong: at the column of a brace on
another line, or of a name in another head. -/
def Kind.astray : List Kind :=
  [.caseBlockBraces, .pointerCouldBeConst]

/-- Diagnostics that lie in the text with the given lines, but for those placed astray. -/
def Located (raws : List (List Char)) (diagnostics : List Diagnostic) : Prop :=
  ∀ diagnostic ∈ diagnostics, diagnostic.kind ∉ Kind.astray.map Kind.name →
    Source.HasPlace raws diagnostic.line diagnostic.column diagnostic.length

variable {raws : List (List Char)} {raw : List Char} {index : Nat}

theorem Kind.hasPlace_of_diagnostic {kind : Kind} {line column length : Int}
    {arguments : List Argument} {diagnostic : Diagnostic}
    (place : Source.HasPlace raws line column length)
    (given : kind.diagnostic line column length arguments = .ok diagnostic) :
    Source.HasPlace raws diagnostic.line diagnostic.column diagnostic.length := by
  obtain ⟨message, -, given⟩ := Answer.bind_eq_ok.mp given
  cases given
  obtain ⟨index, raw, there, numbered, behind, positive, early⟩ := place
  exact ⟨index, raw, there, numbered, by simp only; omega, by simp only; omega, by simp only; omega⟩

namespace Located

variable {diagnostics more : List Diagnostic}

theorem nil : Located raws [] := by
  intro diagnostic member
  exact absurd member List.not_mem_nil

theorem append (first : Located raws diagnostics) (second : Located raws more) :
    Located raws (diagnostics ++ more) := by
  intro diagnostic member
  rcases List.mem_append.mp member with early | late
  · exact first diagnostic early
  · exact second diagnostic late

theorem flatten {lists : List (List Diagnostic)}
    (each : ∀ diagnostics ∈ lists, Located raws diagnostics) : Located raws lists.flatten := by
  intro diagnostic member
  obtain ⟨diagnostics, among, inside⟩ := List.mem_flatten.mp member
  exact each diagnostics among diagnostic inside

theorem of_diagnostic {kind : Kind} {line column length : Int} {arguments : List Argument}
    {diagnostic : Diagnostic} (place : Source.HasPlace raws line column length)
    (given : kind.diagnostic line column length arguments = .ok diagnostic) :
    Located raws [diagnostic] := by
  intro other member _
  rw [List.mem_singleton.mp member]
  exact Kind.hasPlace_of_diagnostic place given

/-- A finding on a line of the text is a diagnostic in the text. -/
theorem of_onLine {finding : Finding} {diagnostic : Diagnostic} (there : raws[index]? = some raw)
    (inside : finding.kind ≠ .caseBlockBraces → finding.InLine raw.length)
    (printed : finding.onLine ((index + 1 : Nat) : Int) = .ok diagnostic)
    (followed : diagnostic.kind ∉ Kind.astray.map Kind.name) :
    Source.HasPlace raws diagnostic.line diagnostic.column diagnostic.length := by
  have ordinary : finding.kind ≠ .caseBlockBraces := by
    intro braces
    have named := (Kind.isOf_of_diagnostic printed).1
    rw [braces] at named
    rw [named] at followed
    exact followed (by decide)
  obtain ⟨column, length, stop⟩ := inside ordinary
  have place : Source.HasPlace raws ((index + 1 : Nat) : Int) finding.column finding.length :=
    ⟨index, raw, there, by omega, column, length, stop⟩
  exact Kind.hasPlace_of_diagnostic place printed

theorem of_onLines {findings : List Finding} (there : raws[index]? = some raw)
    (inside : Inside raw.length findings)
    (given : (findings.mapM fun finding => finding.onLine ((index + 1 : Nat) : Int)) =
      .ok diagnostics) :
    Located raws diagnostics := by
  intro diagnostic member
  obtain ⟨finding, among, printed⟩ := Answer.exists_of_mem_mapM given diagnostic member
  exact of_onLine there (inside finding among) printed

end Located

/-- The site of a line that is written as given. -/
structure Site.Shows (raws : List (List Char)) (raw : List Char) (site : Site) : Prop where
  there : raws[site.index]? = some raw
  written : ∃ before, site.line = .ofRaw before raw

namespace Site.Shows

variable {site : Site} (shows : site.Shows raws raw)
include shows

theorem raw_eq : site.line.raw = raw := by
  obtain ⟨before, written⟩ := shows.written
  rw [written, Line.raw_ofRaw]

theorem length_code : site.line.code.length = raw.length := by
  obtain ⟨before, written⟩ := shows.written
  rw [written, Line.length_code_ofRaw]

end Site.Shows

theorem Site.exists_shows {site : Site}
    (there : (Line.ofRaws raws)[site.index]? = some site.line) : ∃ raw, site.Shows raws raw := by
  obtain ⟨before, raw, here, written⟩ := Line.exists_ofRaw_of_getElem? there
  exact ⟨raw, here, before, written⟩

/-! ## Indentation, cases and lists -/

theorem Inside.caseBlockBraces (size column : Nat) :
    Inside size [Kind.caseBlockBraces.atColumn column] := by
  intro finding member ordinary
  rw [List.mem_singleton.mp member] at ordinary
  exact absurd rfl ordinary

theorem Source.leadingLength_le (raw : List Char) : leadingLength raw ≤ raw.length :=
  (List.takeWhile_prefix _).length_le

theorem Indent.inside_mismatchFindings (raw : List Char) (expected : Int) :
    Inside raw.length (mismatchFindings raw expected) := by
  refine Inside.ite (fun _ => Inside.nil) fun _ => Inside.singleton ?_
  refine ⟨Int.le_refl 0, Int.natCast_nonneg _, ?_⟩
  have within := Source.leadingLength_le raw
  simp only
  omega

/-- A finding about the gap before a colon lies on the line if the colon does. -/
theorem Finding.inLine_colon {gap : Excerpt} {size : Nat} (within : gap.stop < size) :
    (Finding.mk .colonNotAttached gap.start (gap.length + 1) []).InLine size := by
  unfold Excerpt.stop at within
  refine ⟨Int.natCast_nonneg _, ?_, ?_⟩
  · simp only
    omega
  · simp only [Excerpt.length]
    omega

namespace CaseBlock

/-- Behind the gap before the colon of a label there is the colon. -/
theorem stop_lt_of_parts? {code : List Char} {label gap rest : Excerpt}
    (found : parts? code = some (label, gap, rest)) : gap.stop < code.length := by
  obtain ⟨matched, fits, found⟩ := Option.bind_eq_some_iff.mp found
  obtain ⟨label', -, found⟩ := Option.bind_eq_some_iff.mp found
  obtain ⟨gap', gapPart, found⟩ := Option.bind_eq_some_iff.mp found
  obtain ⟨rest', -, found⟩ := Option.bind_eq_some_iff.mp found
  cases found
  obtain ⟨room, known, -, within⟩ := (Pattern.matched_of_matchStart? fits).room gapPart
  have behind : room = ⟨0, 1⟩ := Option.some.inj (known.symm.trans (by decide))
  subst behind
  exact within

theorem inside_analyzeRest {site : Site} {baseIndent : Int} {label rest : List Char} {colon : Nat}
    {state next : ScanState} {findings : List Finding} (within : colon < site.line.code.length)
    (answers : analyzeRest site baseIndent label colon rest state = .ok (findings, next)) :
    Inside site.line.code.length findings := by
  simp only [analyzeRest] at answers
  split at answers
  · cases answers
    exact Inside.nil
  · split at answers
    · obtain ⟨column, -, answers⟩ := Answer.bind_eq_ok.mp answers
      cases answers
      exact Inside.caseBlockBraces _ column
    · split at answers
      · obtain ⟨column, -, answers⟩ := Answer.bind_eq_ok.mp answers
        cases answers
        exact Inside.caseBlockBraces _ column
      · split at answers
        · cases answers
          exact Inside.nil
        · have missing : Inside site.line.code.length
              (openBody site baseIndent label colon state).1 := by
            have shared : Inside site.line.code.length
                (if (body site).hasBreak || isMarked site.line || (body site).marked then []
                  else [⟨.caseMissingBreak, colon, 1, [.word (String.ofList label)]⟩]) :=
              Inside.ite (fun _ => Inside.nil) fun _ =>
                Inside.singleton (Finding.inLine_mk _ within _)
            simp only [openBody]
            split <;> exact shared
          rw [Except.ok.inj answers] at missing
          exact missing

theorem inside_analyze {site : Site} {baseIndent : Int} {state next : ScanState}
    {findings : List Finding} (answers : analyze site baseIndent state = .ok (findings, next)) :
    Inside site.line.code.length findings := by
  rw [analyze_eq] at answers
  split at answers
  · cases answers
    exact Inside.nil
  next label gap rest found =>
    obtain ⟨⟨others, inner⟩, analyzed, answers⟩ := Answer.bind_eq_ok.mp answers
    cases answers
    have within := stop_lt_of_parts? found
    refine Inside.append ?_ (inside_analyzeRest within analyzed)
    exact Inside.ite (fun _ => Inside.nil) fun _ => Inside.singleton (Finding.inLine_colon within)

end CaseBlock

namespace ParamBlock

theorem inside_openingFindings {code previousCode : List Char} {findings : List Finding}
    (answers : openingFindings code (opening code previousCode) = .ok findings) :
    Inside code.length findings := by
  cases opened : opening code previousCode with
  | head head =>
    rw [opened] at answers
    cases answers
    have found : Function.head? code = some head := by
      unfold opening at opened
      split at opened
      next other found =>
        cases opened
        exact found
      next =>
        split at opened
        · split at opened <;> cases opened
        · cases opened
    obtain ⟨name, stop⟩ := Function.bounds_of_head? found
    exact (Function.inside_nameFindings name).append (Parameter.inside_findingsBetween stop _)
  | name name =>
    rw [opened] at answers
    obtain ⟨paren, found, answers⟩ := Answer.bind_eq_ok.mp answers
    obtain ⟨first, foundFirst, answers⟩ := Answer.bind_eq_ok.mp answers
    cases answers
    have parameters : Inside code.length
        (Parameter.findingsBetween code ((first + 1 : Nat) : Int) code.length) :=
      Parameter.inside_findingsBetween (Text.index_bounds foundFirst).2 _
    exact (Function.inside_nameFindings_slice found).append parameters
  | other =>
    rw [opened] at answers
    cases answers
    exact Inside.nil

theorem inside_start {code previousCode : List Char} {baseIndent : Int} {state next : ScanState}
    {findings : List Finding}
    (answers : start code baseIndent previousCode state = .ok (findings, next)) :
    Inside code.length findings := by
  obtain ⟨found, opened, answers⟩ := Answer.bind_eq_ok.mp answers
  obtain ⟨paren, -, answers⟩ := Answer.bind_eq_ok.mp answers
  cases answers
  exact inside_openingFindings opened

theorem inside_proceed (block : ParamBlock) {raw code : List Char} (state : ScanState)
    (size : code.length = raw.length) (written : code ≠ []) :
    Inside raw.length (proceed block raw code state).1 := by
  have positive := List.length_pos_iff.mpr written
  have indent : Inside raw.length (indentFindings block raw) := by
    refine Inside.ite (fun _ => Inside.nil) fun _ => Inside.singleton ?_
    have within := (List.takeWhile_prefix Text.isBlank (l := raw)).length_le
    refine ⟨Int.le_refl 0, Int.natCast_nonneg _, ?_⟩
    simp only
    omega
  have names : ∀ closed, Inside raw.length (nameFindings block code closed) := by
    intro closed
    rw [← size]
    refine Inside.ite (fun _ => ?_) fun _ => Inside.nil
    exact Parameter.inside_findingsBetween (Nat.zero_le _) _
  have comma : Inside raw.length (commaFindings code) := by
    have shorter := Text.length_trimRight_le code
    refine Inside.ite (fun _ => Inside.nil) fun _ => Inside.singleton ?_
    exact Kind.inLine_atColumn _ (by omega)
  have finished : Inside raw.length (finish block code state).1 := by
    simp only [finish]
    split
    · refine Inside.ite (fun _ => ?_) fun _ => Inside.nil
      split
      next brace found =>
        rw [← size]
        exact Inside.singleton (Kind.inLine_atColumn _ (Text.findLast?_lt found))
      next => exact Inside.nil
    · split
      · exact Inside.nil
      · exact Inside.nil
  simp only [proceed]
  split
  · exact (indent.append (names _)).append finished
  · exact (indent.append (names _)).append comma

end ParamBlock

/-! ## One-line statements and labels -/

/-- A character is found no later than where it stands. -/
theorem Text.find?_le {c : Char} {text : List Char} {first position : Nat}
    (found : find? [c] text = some first) (there : text[position]? = some c) : first ≤ position := by
  induction text generalizing first position with
  | nil => cases there
  | cons d rest inductionHypothesis =>
    rw [find?] at found
    split at found
    · cases found
      exact Nat.zero_le _
    next other =>
      obtain ⟨further, later, rfl⟩ := Option.map_eq_some_iff.mp found
      cases position with
      | zero =>
        cases there
        exact absurd (List.isPrefixOf_iff_prefix.mpr ⟨rest, rfl⟩) other
      | succ position => exact Nat.succ_le_succ (inductionHypothesis later there)

/-- A character that is not blank is not trimmed. -/
theorem Text.mem_trim {c : Char} (ink : isBlank c = false) {text : List Char} (member : c ∈ text) :
    c ∈ trim text := by
  obtain ⟨before, after, blankBefore, blankAfter, split⟩ := exists_blanks_around_trim text
  rw [split, List.mem_append, List.mem_append] at member
  rcases member with early | inside | late
  · exact absurd (blankBefore c early) (by simp [ink])
  · exact inside
  · exact absurd (blankAfter c late) (by simp [ink])

/-- Bounds within a text are positions in it. -/
theorem Text.sliceBounds_natCast {text : List Char} {start stop : Nat} (first : start ≤ text.length)
    (last : stop ≤ text.length) : sliceBounds text start stop = slice text start stop := by
  have position : ∀ {bound : Nat}, bound ≤ text.length → boundPosition text.length bound = bound := by
    intro bound within
    rw [boundPosition, if_neg (by omega), Int.toNat_natCast]
    exact Nat.min_eq_left within
  rw [sliceBounds, position first, position last]

namespace InlineControl

variable {code : List Char} {split : Split}

theorem body_ne_nil_of_isInline (inline : isInline code) (found : split? code = some split) :
    split.body code ≠ [] := by
  intro empty
  unfold isInline at inline
  split at inline
  next => cases inline
  next other foundToo =>
    rw [found] at foundToo
    cases foundToo
    simp [empty] at inline

/-- A one-line statement with a brace behind its condition has its body in braces. -/
theorem braced_of_isInline (inline : isInline code) (found : split? code = some split)
    (brace : '{' ∈ split.body code) :
    (split.body code).head? = some '{' ∧ (split.body code).getLast? = some '}' := by
  unfold isInline at inline
  split at inline
  next => cases inline
  next other foundToo =>
    rw [found] at foundToo
    cases foundToo
    simp only at inline
    split at inline
    next => cases inline
    next inked =>
      split at inline
      next braced =>
        rw [Bool.and_eq_true, beq_iff_eq] at inline
        exact ⟨beq_iff_eq.mp braced, inline.1⟩
      next =>
        split at inline
        next => cases inline
        next plain =>
          simp only [Bool.or_eq_true, not_or, List.contains_iff_mem] at plain
          exact absurd brace plain.1

theorem inside_statementFindings {column size : Nat} {inner : List Char}
    (within : column + inner.length ≤ size) : Inside size (statementFindings column inner) := by
  apply Inside.append
  · exact Inside.ite (fun _ => Inside.singleton (Finding.inLine_mk _ within _)) fun _ => Inside.nil
  · split
    next found first =>
      have whole := (Pattern.matched_of_search? first).whole_le
      have here : Inside inner.length [Kind.inlineControlStatement.on found.whole] :=
        Inside.singleton (Kind.inLine_on _ whole)
      exact here.shift within
    next => exact Inside.nil

theorem inside_insideFindings {column closer size : Nat} {inner : List Char}
    (within : column + inner.length ≤ size) (written : inner ≠ []) (behind : 1 ≤ closer)
    (early : closer ≤ size) : Inside size (insideFindings column closer inner) := by
  have positive := List.length_pos_iff.mpr written
  refine Inside.append (Inside.append ?_ ?_) ?_
  · refine Inside.ite (fun _ => Inside.singleton ?_) fun _ => Inside.nil
    exact Kind.inLine_atColumn _ (by omega)
  · refine Inside.ite (fun _ => Inside.singleton ?_) fun _ => Inside.nil
    exact ⟨by simp only; omega, by simp only; omega, by simp only; omega⟩
  · split
    next nested found =>
      obtain ⟨inside, -⟩ := List.findIdx?_eq_some_iff_getElem.mp found
      exact Inside.singleton (Kind.inLine_atColumn _ (by omega))
    next => exact Inside.nil

/-- Behind the brace that opens the body of a one-line statement, a brace closes it. -/
theorem exists_closer_of_isInline (inline : isInline code) (found : split? code = some split)
    {opener : Nat} (opens : Text.findFrom? ['{'] split.bodyStart code = some opener) :
    opener + 2 ≤ code.length ∧ ∃ closer, Text.findLast? '}' code = some closer := by
  obtain ⟨offset, first, rfl⟩ := Option.map_eq_some_iff.mp opens
  have there : ['{'] <:+: code.drop split.bodyStart :=
    Text.isSome_find?_iff.mp (Option.isSome_of_mem first)
  have member : '{' ∈ split.body code := Text.mem_trim rfl (there.subset List.mem_cons_self)
  obtain ⟨starts, ends⟩ := braced_of_isInline inline found member
  obtain ⟨before, after, -, -, whole⟩ :=
    Text.exists_blanks_around_trim (code.drop split.bodyStart)
  obtain ⟨rest, body⟩ := List.head?_eq_some_iff.mp starts
  rw [show Text.trim (code.drop split.bodyStart) = _ from body] at whole
  constructor
  · have more : rest ≠ [] := by
      intro none
      rw [body, none] at ends
      cases ends
    have positive := List.length_pos_iff.mpr more
    have here : (code.drop split.bodyStart)[before.length]? = some '{' := by
      rw [whole]
      simp
    have early := Text.find?_le first here
    have length := congrArg List.length whole
    simp only [List.length_drop, List.length_append, List.length_cons] at length
    omega
  · have closes : '}' ∈ code := by
      have inside : '}' ∈ code.drop split.bodyStart :=
        (Text.isInfix_trim _).subset (List.mem_of_getLast? ends)
      exact List.mem_of_mem_drop inside
    obtain ⟨position, here⟩ := List.mem_iff_getElem?.mp closes
    obtain ⟨closer, last, -⟩ := Text.le_findLast? here
    exact ⟨closer, last⟩

theorem inside_bodyFindings (inline : isInline code) (found : split? code = some split) :
    Inside code.length (bodyFindings code split) := by
  have inked := body_ne_nil_of_isInline inline found
  unfold bodyFindings
  split
  next opener opens =>
    obtain ⟨room, closer, last⟩ := exists_closer_of_isInline inline found opens
    have early := Text.findLast?_lt last
    simp only [last]
    refine Inside.ite (fun _ => Inside.singleton (Finding.inLine_mk _ room _)) fun written => ?_
    have inner : Text.sliceBounds code ((opener : Int) + 1) closer =
        Text.slice code (opener + 1) closer :=
      Text.sliceBounds_natCast (show opener + 1 ≤ code.length by omega) (Nat.le_of_lt early)
    rw [inner, List.isEmpty_iff] at written
    rw [inner]
    have positive := List.length_pos_iff.mpr written
    have length : (Text.slice code (opener + 1) closer).length = closer - (opener + 1) := by
      simp only [Text.slice, List.length_drop, List.length_take]
      omega
    exact (inside_insideFindings (by omega) written (by omega) (by omega)).append
      (inside_statementFindings (by omega))
  next =>
    apply inside_statementFindings
    have shorter := Text.length_trimRight_le (code.drop split.bodyStart)
    have written : split.bodyStart < code.length := by
      by_contra behind
      apply inked
      rw [Split.body, List.drop_eq_nil_of_le (by omega)]
      rfl
    rw [List.length_drop] at shorter
    omega

theorem inside_findings (inline : isInline code) : Inside code.length (findings code) := by
  unfold findings
  split
  next => exact Inside.nil
  next split found =>
    refine Inside.append ?_ (inside_bodyFindings inline found)
    unfold afterParenFindings
    split
    · exact Inside.nil
    next opener closer _ =>
      refine Inside.ite (fun spaced => Inside.singleton (Kind.inLine_atColumn _ ?_)) fun _ =>
        Inside.nil
      by_contra beyond
      rw [List.getElem?_eq_none (by omega)] at spaced
      cases spaced

end InlineControl

theorem Scan.inside_labelFindings? {code : List Char} {findings : List Finding}
    (found : labelFindings? code = some findings) : Inside code.length findings := by
  obtain ⟨matched, fits, found⟩ := Option.bind_eq_some_iff.mp found
  obtain ⟨name, named, found⟩ := Option.bind_eq_some_iff.mp found
  obtain ⟨gap, gapped, found⟩ := Option.bind_eq_some_iff.mp found
  obtain ⟨-, found⟩ := Option.ite_none_left_eq_some.mp found
  cases found
  have nameEnds := (Pattern.matched_of_matchStart? fits).part_le named
  obtain ⟨room, known, -, within⟩ := (Pattern.matched_of_matchStart? fits).room gapped
  have behind : room = ⟨0, 1⟩ := Option.some.inj (known.symm.trans (by decide))
  subst behind
  refine Inside.append (Inside.append ?_ ?_) ?_
  · refine Inside.ite (fun _ => Inside.nil) fun _ => Inside.singleton ?_
    unfold Excerpt.stop at nameEnds
    exact ⟨Int.le_refl 0, Int.natCast_nonneg _, by simp only; omega⟩
  · refine Inside.ite (fun _ => Inside.nil) fun _ => Inside.singleton ?_
    exact Kind.inLine_quoting _ nameEnds
  · refine Inside.ite (fun _ => Inside.nil) fun _ => Inside.singleton ?_
    exact Finding.inLine_colon (Nat.lt_of_succ_le within)

/-! ## Types -/

namespace TypeScope

variable {code : List Char} {head : TypeHead} {diagnostics : List Diagnostic}

theorem located_tagDiagnostics (read : head.ReadFrom (Line.ofRaws raws))
    (answers : tagDiagnostics head = .ok diagnostics) : Located raws diagnostics := by
  unfold tagDiagnostics at answers
  split at answers
  · cases answers
    exact Located.nil
  next text tagged =>
    split at answers
    · cases answers
      exact Located.nil
    · obtain ⟨diagnostic, given, answers⟩ := Answer.bind_eq_ok.mp answers
      cases answers
      obtain ⟨index, line, pattern, found, tag, there, -, matched, recorded, rfl, line_eq,
        column_eq⟩ := read.exists_tag tagged
      obtain ⟨before, raw, written, rfl⟩ := Line.exists_ofRaw_of_getElem? there
      have within := matched.part_le recorded
      rw [Line.length_code_ofRaw] at within
      refine Located.of_diagnostic ⟨index, raw, written, ?_, Int.natCast_nonneg _,
        Int.natCast_nonneg _, ?_⟩ given
      · rw [line_eq, Nat.cast_add, Nat.cast_one]
      · rw [column_eq]
        exact Int.ofNat_le.mpr within

theorem located_nameDiagnostics {brace : Nat} {name : Option Excerpt}
    (there : raws[index]? = some raw) (braced : brace < raw.length)
    (named : ∀ excerpt, name = some excerpt → 1 ≤ excerpt.length ∧ excerpt.stop ≤ raw.length)
    (answers : nameDiagnostics head (index + 1) brace name = .ok diagnostics) :
    Located raws diagnostics := by
  unfold nameDiagnostics at answers
  split at answers
  · split at answers
    · exact Located.of_onLines there (Inside.singleton (Finding.inLine_mk _ braced _)) answers
    · cases answers
      exact Located.nil
  next excerpt =>
    obtain ⟨written, within⟩ := named excerpt rfl
    have length : excerpt.stop = excerpt.start + excerpt.length := rfl
    refine Located.of_onLines there (Inside.append ?_ ?_) answers
    · refine Inside.ite (fun attached => Inside.singleton ?_) fun _ => Inside.nil
      exact Kind.inLine_atColumn _ (by omega)
    · have about : ∀ (kind : Kind) (arguments : List Argument),
          Inside raw.length [kind.onWith excerpt arguments] := fun kind arguments =>
        Inside.singleton (kind.inLine_onWith within arguments)
      refine Inside.ite (fun _ => ?_) fun _ => Inside.append ?_ ?_
      · exact Inside.ite (fun _ => Inside.nil) fun _ => about _ _
      · exact Inside.ite (fun _ => Inside.nil) fun _ => about _ _
      · exact Inside.ite (fun _ => about _ _) fun _ => Inside.nil

theorem located_memberDiagnostics {kind : TypeKind} {bodyStart close : Nat}
    (there : raws[index]? = some raw) (size : code.length = raw.length) (ordered : bodyStart ≤ close)
    (closes : close < code.length)
    (answers : memberDiagnostics kind (index + 1) ⟨bodyStart, Text.slice code bodyStart close⟩ =
      .ok diagnostics) :
    Located raws diagnostics := by
  refine Located.of_onLines there ?_ answers
  apply Inside.flatMap
  intro member among
  have bounds := (Excerpt.bounds_of_mem_splitOn (List.mem_filter.mp among).1).2
  have stop : member.stop = member.start + member.text.length := rfl
  have slice : (Excerpt.mk bodyStart (Text.slice code bodyStart close)).stop = close := by
    simp only [Excerpt.stop, Text.slice, List.length_drop, List.length_take]
    omega
  apply (Member.inside_findings _ _).shift
  split
  · omega
  · rw [List.length_append, List.length_singleton]
    omega

/-- Every complaint about a line that closes a type lies in the text. -/
theorem origins_located (there : raws[index]? = some raw) (size : code.length = raw.length) :
    Origins (fun diagnostic => diagnostic.kind ∉ Kind.astray.map Kind.name →
      Source.HasPlace raws diagnostic.line diagnostic.column diagnostic.length)
      (Line.ofRaws raws) index code where
  members := fun _ _ _ _ ordered closes answers =>
    located_memberDiagnostics there size ordered closes answers
  name := by
    intro head column found brace diagnostics within fits here answers
    have matched := Pattern.matched_of_matchStart? fits
    have braced : brace < raw.length := by
      rw [← size, ← length_behind within]
      exact (Text.index_bounds here).2
    refine located_nameDiagnostics there braced ?_ answers
    intro excerpt recorded
    obtain ⟨room, known, inside, -⟩ := matched.room recorded
    have one : room = ⟨1, 0⟩ := Option.some.inj (known.symm.trans (by decide))
    have stop := matched.part_le recorded
    rw [length_behind within] at stop
    subst one
    exact ⟨inside, by omega⟩
  tag := fun _ _ read answers => located_tagDiagnostics read answers

end TypeScope

namespace Scan

/-! ## A line -/

section Line

variable {settings : Settings} {site : Site} {state next : ScanState}
  {diagnostics : List Diagnostic} (shows : site.Shows raws raw) (positive : 0 ≤ settings.limit)
include shows

theorem inside_indentStep {limit : Option Nat} {previousCode : List Char}
    {outcome : Indent.Outcome}
    (passes : Indent.step limit site previousCode state = .ok outcome) :
    Inside raw.length outcome.findings := by
  rw [Indent.step_eq] at passes
  obtain ⟨⟨labelFindings, labelled⟩, label, passes⟩ := Answer.bind_eq_ok.mp passes
  obtain ⟨inline, -, passes⟩ := Answer.bind_eq_ok.mp passes
  have mismatch : Inside raw.length
      (Indent.mismatchFindings site.line.raw (Indent.expectedAt site.line state)) := by
    rw [shows.raw_eq]
    exact Indent.inside_mismatchFindings raw _
  have labels : Inside raw.length labelFindings := by
    unfold Indent.labelOutcome at label
    split at label
    · rw [← shows.length_code]
      exact CaseBlock.inside_analyze label
    · cases label
      exact Inside.nil
  split at passes
  · cases passes
    exact mismatch.append labels
  · split at passes
    · obtain ⟨⟨listFindings, inside⟩, start, passes⟩ := Answer.bind_eq_ok.mp passes
      cases passes
      have list := ParamBlock.inside_start start
      rw [shows.length_code] at list
      exact (mismatch.append labels).append list
    · cases passes
      exact mismatch.append labels

include positive

/-- Every complaint about a line lies in the text. The last of the blank lines before a line stands
just before it. -/
theorem origins_located (there : (Line.ofRaws raws)[site.index]? = some site.line)
    (fresh : site.index = 0 → state.blankRun = 0) (read : state.HeadsRead (Line.ofRaws raws)) :
    Origins (fun finding => finding.kind ≠ .caseBlockBraces → finding.InLine raw.length)
      (fun diagnostic => diagnostic.kind ∉ Kind.astray.map Kind.name →
        Source.HasPlace raws diagnostic.line diagnostic.column diagnostic.length)
      settings site state where
  reported := fun _ _ inside printed => Located.of_onLine shows.there inside printed
  blankRun := by
    intro several diagnostic given _
    have inside := (List.getElem?_eq_some_iff.mp shows.there).1
    have later : site.index ≠ 0 := by
      intro first
      rw [fresh first] at several
      exact absurd several (by decide)
    obtain ⟨blank, before⟩ : ∃ blank, raws[site.index - 1]? = some blank :=
      ⟨_, List.getElem?_eq_getElem (by omega)⟩
    have place : Source.HasPlace raws site.index 0 0 :=
      ⟨site.index - 1, blank, before, by omega, Int.le_refl 0, Int.le_refl 0, by omega⟩
    exact Kind.hasPlace_of_diagnostic place given
  indentedBlank := by
    intro _
    rw [shows.raw_eq]
    exact ⟨Int.le_refl 0, Int.natCast_nonneg _, by simp only; omega⟩
  rules := by
    intro phase seen findings _ ruled
    obtain ⟨before, written⟩ := shows.written
    exact Rule.inside_of_runPhase written positive ruled
  list := by
    intro coded block
    have written : site.line.code ≠ [] := by
      intro empty
      rw [Line.hasCode, empty] at coded
      cases coded
    have size : site.line.code.length = site.line.raw.length := by
      rw [shows.length_code, shows.raw_eq]
    have inside := ParamBlock.inside_proceed block { state with blankRun := 0 } size written
    rw [shows.raw_eq] at inside ⊢
    exact inside
  directive := by
    intro _
    have within := Source.leadingLength_le site.line.raw
    rw [shows.raw_eq] at within ⊢
    exact ⟨Int.le_refl 0, Int.natCast_nonneg _, by simp only; omega⟩
  label := by
    intro findings label
    rw [← shows.length_code]
    exact inside_labelFindings? label
  indentation := fun outcome passes => inside_indentStep shows passes
  inline := by
    intro inline
    rw [← shows.length_code]
    exact InlineControl.inside_findings inline
  types := fun _ _ answers => (TypeScope.origins_located shows.there shows.length_code).forall_of_step
    there (read.indented site) answers

end Line

theorem located_of_run {settings : Settings} (positive : 0 ≤ settings.limit) :
    ∀ record ∈ (run settings (Line.ofRaws raws)).1, Located raws record.diagnostics := by
  unfold Located
  apply forall_of_run
  intro site found next there passes
  have here := Site.getElem?_of_at? there
  obtain ⟨raw, shows⟩ := Site.exists_shows here
  have within := Nat.le_of_lt (Site.lt_length_of_at? there)
  have fresh : site.index = 0 → (stateBefore (Line.ofRaws raws) site.index).blankRun = 0 := by
    intro first
    rw [first]
    rfl
  exact (origins_located shows positive here fresh
    (headsRead_stateBefore _ _ within)).forall_of_step passes

/-- Every complaint of a scan lies in the text. -/
theorem located_of_diagnostics {settings : Settings} (positive : 0 ≤ settings.limit)
    {diagnostics : List Diagnostic}
    (passes : Scan.diagnostics settings (Line.ofRaws raws) = .ok diagnostics) :
    Located raws diagnostics := by
  intro diagnostic member
  rw [(run_of_diagnostics passes).1] at member
  obtain ⟨record, recorded, reported⟩ := List.mem_flatMap.mp member
  exact located_of_run positive record recorded diagnostic reported

end Scan

end HouseStyle
