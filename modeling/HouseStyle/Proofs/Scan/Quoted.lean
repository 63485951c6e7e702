import HouseStyle.Proofs.Rule.Quoted
import HouseStyle.Proofs.Scan.Origins
import HouseStyle.Proofs.Scan.TypeHeads

/-!
Contract: the complaints of a scan point at what they quote.

Owns: the place of a quoted text in the lines of a file, and the findings and diagnostics that are
placed there, wherever in a step they arise.
Does not own: the findings of the rules, which `Proofs.Rule.Quoted` treats.

Every complaint that quotes anything is placed at an excerpt of the code or of the masked line. What
is legible there is written at the same place on the line itself. Only the parameters of a macro may
hold comments and literals, and are then quoted as the code shows them.

Main statement: `faithful_of_run`.
-/

namespace HouseStyle

variable {raws : List (List Char)} {lines : List Line} {line : Line} {index : Nat} {kind : Kind}

/-! ## Quoted texts -/

/-- An excerpt of the code of a line in which a character is hidden. -/
structure Excerpt.Veiled (line : Line) (excerpt : Excerpt) : Prop where
  stands : excerpt.StandsIn line.code
  hidden : ∃ position, excerpt.start ≤ position ∧ position < excerpt.stop ∧
    line.code[position]? ≠ line.raw[position]?

/-- What a complaint may quote of a line: characters that are written there, or the parameter of a
macro as the code shows it, if it has hidden characters. -/
def Line.Quotable (line : Line) (kind : Kind) (excerpt : Excerpt) : Prop :=
  excerpt.StandsIn line.raw ∨ kind = .macroParamNotSnake ∧ excerpt.Veiled line

/-- A finding that names an excerpt at its place, in words that a message can be read back from. -/
structure Finding.QuotesOn (line : Line) (finding : Finding) (excerpt : Excerpt) : Prop where
  column : finding.column = excerpt.start
  length : finding.length = excerpt.length
  names : finding.kind.Names excerpt.text finding.arguments
  quotable : line.Quotable finding.kind excerpt
  unquoted : '\'' ∉ excerpt.text
  solid : finding.kind = .allocNotCast → ' ' ∉ excerpt.text

/-- A finding that names what stands at its place, if its kind names anything. -/
def Finding.Faithful (line : Line) (finding : Finding) : Prop :=
  finding.kind ∈ Kind.naming → ∃ excerpt, finding.QuotesOn line excerpt

/-- A diagnostic that quotes an excerpt of a line, at its place. -/
structure Diagnostic.QuotesAt (kind : Kind) (index : Nat) (excerpt : Excerpt)
    (diagnostic : Diagnostic) : Prop where
  line : diagnostic.line = ((index + 1 : Nat) : Int)
  column : diagnostic.column = excerpt.start
  length : diagnostic.length = excerpt.length
  quoted : kind.quoted diagnostic.message = excerpt.text

/-- A diagnostic that quotes what stands at its place, if its kind quotes anything. -/
def Diagnostic.Faithful (lines : List Line) (diagnostic : Diagnostic) : Prop :=
  ∀ kind ∈ Kind.naming, diagnostic.kind = kind.name →
    ∃ index line excerpt, lines[index]? = some line ∧ diagnostic.QuotesAt kind index excerpt ∧
      line.Quotable kind excerpt

theorem Line.shown_of_getElem? (there : (ofRaws raws)[index]? = some line) :
    Source.Shown line.raw line.code ∧ Source.Shown line.raw line.masked := by
  obtain ⟨before, raw, -, rfl⟩ := exists_ofRaw_of_getElem? there
  rw [raw_ofRaw]
  exact ⟨Source.shown_code before raw, Source.shown_masked before raw⟩

namespace Finding

variable {finding : Finding} {excerpt : Excerpt}

theorem Quotes.solid {view : List Char} (quotes : finding.Quotes view excerpt)
    (allocation : finding.kind = .allocNotCast) : ' ' ∉ excerpt.text := by
  have other : finding.kind ≠ .macroParamNotSnake := by
    rw [allocation]
    decide
  exact quotes.legible other ' ' List.mem_cons_self

/-- What is legible in a view is written on the line. -/
theorem Quotes.onLine {view : List Char} (shown : Source.Shown line.raw view)
    (quotes : finding.Quotes view excerpt) (other : finding.kind ≠ .macroParamNotSnake) :
    finding.QuotesOn line excerpt where
  column := quotes.column
  length := quotes.length
  names := quotes.names
  quotable := .inl (shown.standsIn quotes.stands (quotes.legible other))
  unquoted := shown.quote_not_mem quotes.stands
  solid := quotes.solid

theorem Quotes.onCode (shown : Source.Shown line.raw line.code)
    (quotes : finding.Quotes line.code excerpt) : finding.QuotesOn line excerpt := by
  have quotable : line.Quotable finding.kind excerpt := by
    by_cases written : excerpt.StandsIn line.raw
    · exact .inl written
    · refine .inr ⟨?_, quotes.stands, quotes.stands.exists_ne written⟩
      by_contra other
      exact written (shown.standsIn quotes.stands (quotes.legible other))
  exact ⟨quotes.column, quotes.length, quotes.names, quotable, shown.quote_not_mem quotes.stands,
    quotes.solid⟩

end Finding

/-- Findings about the code of a line are faithful to the line. -/
theorem Quoting.faithful {findings : List Finding} (quoting : Quoting line.code findings)
    (shown : Source.Shown line.raw line.code) : ∀ finding ∈ findings, finding.Faithful line := by
  intro finding member naming
  obtain ⟨excerpt, quotes⟩ := quoting finding member naming
  exact ⟨excerpt, quotes.onCode shown⟩

theorem Declared.faithful {kinds : List Kind} {findings : List Finding}
    (declared : Declared kinds findings) (silent : ∀ kind ∈ kinds, kind ∉ Kind.naming) :
    ∀ finding ∈ findings, finding.Faithful line := by
  intro finding member naming
  exact absurd naming (silent _ (declared finding member).1)

namespace Diagnostic

variable {diagnostic : Diagnostic} {arguments : List Argument}

/-- A complaint about an excerpt of a line that its arguments name quotes it. -/
theorem faithful_of_names {excerpt : Excerpt} (there : lines[index]? = some line)
    (naming : kind ∈ Kind.naming) (names : kind.Names excerpt.text arguments)
    (quotable : line.Quotable kind excerpt) (unquoted : '\'' ∉ excerpt.text)
    (solid : kind = .allocNotCast → ' ' ∉ excerpt.text)
    (given : kind.diagnostic ((index + 1 : Nat) : Int) excerpt.start excerpt.length arguments =
      .ok diagnostic) : diagnostic.Faithful lines := by
  intro other _ named
  obtain ⟨message, formatted, given⟩ := Answer.bind_eq_ok.mp given
  cases given
  rw [← Kind.name_injective named]
  refine ⟨index, line, excerpt, there, ⟨rfl, ?_, ?_, ?_⟩, quotable⟩
  · exact max_eq_left (Int.natCast_nonneg _)
  · exact max_eq_left (Int.natCast_nonneg _)
  · exact Kind.quoted_of_format naming formatted names unquoted solid

theorem faithful_of_silent (silent : kind ∉ Kind.naming) (isOf : diagnostic.IsOf kind) :
    diagnostic.Faithful lines := by
  intro other naming named
  rw [← Kind.name_injective (isOf.1.symm.trans named)] at naming
  exact absurd naming silent

/-- Faithful findings are reported as faithful diagnostics. -/
theorem faithful_of_onLine {finding : Finding} (there : lines[index]? = some line)
    (faithful : finding.Faithful line)
    (printed : finding.onLine ((index + 1 : Nat) : Int) = .ok diagnostic) :
    diagnostic.Faithful lines := by
  by_cases naming : finding.kind ∈ Kind.naming
  · obtain ⟨excerpt, quotes⟩ := faithful naming
    rw [Finding.onLine, quotes.column, quotes.length] at printed
    exact faithful_of_names there naming quotes.names quotes.quotable quotes.unquoted quotes.solid
      printed
  · exact faithful_of_silent naming (Kind.isOf_of_diagnostic printed)

theorem faithful_of_onLines {findings : List Finding} {diagnostics : List Diagnostic}
    (there : lines[index]? = some line) (faithful : ∀ finding ∈ findings, finding.Faithful line)
    (given : (findings.mapM fun finding => finding.onLine ((index + 1 : Nat) : Int)) =
      .ok diagnostics) :
    ∀ diagnostic ∈ diagnostics, diagnostic.Faithful lines := by
  intro diagnostic member
  obtain ⟨finding, among, printed⟩ := Answer.exists_of_mem_mapM given diagnostic member
  exact faithful_of_onLine there (faithful finding among) printed

end Diagnostic

/-! ## Lists and labels -/

namespace ParamBlock

theorem quoting_openingFindings {code previousCode : List Char} {findings : List Finding}
    (answers : openingFindings code (opening code previousCode) = .ok findings) :
    Quoting code findings := by
  unfold opening at answers
  split at answers
  next head found =>
    cases answers
    obtain ⟨-, stop⟩ := Function.bounds_of_head? found
    exact (Function.quoting_nameFindings (Function.shownIn_of_head? found) _).append
      (Parameter.quoting_findingsBetween stop _)
  next =>
    split at answers
    · split at answers
      next name found =>
        obtain ⟨paren, -, answers⟩ := Answer.bind_eq_ok.mp answers
        obtain ⟨first, foundFirst, answers⟩ := Answer.bind_eq_ok.mp answers
        cases answers
        have parameters : Quoting code
            (Parameter.findingsBetween code ((first + 1 : Nat) : Int) code.length) :=
          Parameter.quoting_findingsBetween (Text.index_bounds foundFirst).2 _
        exact (Function.quoting_nameFindings (Function.shownIn_of_leadingName? found) _).append
          parameters
      next =>
        cases answers
        exact Quoting.nil
    · cases answers
      exact Quoting.nil

theorem quoting_start {code previousCode : List Char} {baseIndent : Int} {state next : ScanState}
    {findings : List Finding}
    (answers : start code baseIndent previousCode state = .ok (findings, next)) :
    Quoting code findings := by
  obtain ⟨found, opened, answers⟩ := Answer.bind_eq_ok.mp answers
  obtain ⟨paren, -, answers⟩ := Answer.bind_eq_ok.mp answers
  cases answers
  exact quoting_openingFindings opened

theorem quoting_proceed (block : ParamBlock) (raw code : List Char) (state : ScanState) :
    Quoting code (proceed block raw code state).1 := by
  have indent : Quoting code (indentFindings block raw) :=
    Quoting.ite (fun _ => Quoting.nil) fun _ => Quoting.one (by decide)
  have names : ∀ closed, Quoting code (nameFindings block code closed) := fun closed =>
    Quoting.ite (fun _ => Parameter.quoting_findingsBetween (Nat.zero_le _) _) fun _ => Quoting.nil
  have comma : Quoting code (commaFindings code) :=
    Quoting.ite (fun _ => Quoting.nil) fun _ => Quoting.one (by decide)
  have finished : Quoting code (finish block code state).1 := by
    simp only [finish]
    split
    · refine Quoting.ite (fun _ => ?_) fun _ => Quoting.nil
      split
      · exact Quoting.one (by decide)
      · exact Quoting.nil
    · split
      · exact Quoting.nil
      · exact Quoting.nil
  simp only [proceed]
  split
  · exact (indent.append (names _)).append finished
  · exact (indent.append (names _)).append comma

end ParamBlock

theorem Scan.quoting_labelFindings? {code : List Char} {findings : List Finding}
    (found : labelFindings? code = some findings) : Quoting code findings := by
  obtain ⟨matched, fits, found⟩ := Option.bind_eq_some_iff.mp found
  obtain ⟨name, named, found⟩ := Option.bind_eq_some_iff.mp found
  obtain ⟨gap, -, found⟩ := Option.bind_eq_some_iff.mp found
  obtain ⟨-, found⟩ := Option.ite_none_left_eq_some.mp found
  cases found
  have shown := (Pattern.matched_of_matchStart? fits).shownIn_name named (by simp [namedPatterns])
  refine Quoting.append (Quoting.append ?_ (Kind.quoting_ite rfl shown)) ?_
  · exact Quoting.ite (fun _ => Quoting.nil) fun _ => Quoting.one (by decide)
  · exact Quoting.ite (fun _ => Quoting.nil) fun _ => Quoting.one (by decide)

/-! ## Types -/

namespace TypeScope

variable {head : TypeHead} {diagnostics : List Diagnostic}

/-- The parts of patterns that record the names and tags of types. -/
theorem clears_parts :
    (Source.veils.all fun c => closing.clears .name c) ∧
      ∀ pattern ∈ [Member.bareStart, Member.braceStart],
        Source.veils.all fun c => pattern.clears .tag c := by
  decide +kernel

/-- Behind a column the code of a line stands as it is. -/
theorem getElem?_of_behind {column : Nat} {code : List Char} {position : Nat} {c : Char}
    (there : (behind column code)[position]? = some c)
    (plain : c ∉ Source.veils) : code[position]? = some c := by
  rw [behind] at there
  by_cases early : position < column
  · rw [List.getElem?_append_left (by simpa using early), List.getElem?_replicate_of_lt early] at there
    cases there
    exact absurd List.mem_cons_self plain
  · rw [List.getElem?_append_right (by simpa using early), List.length_replicate,
      List.getElem?_drop] at there
    rwa [Nat.add_sub_cancel' (Nat.le_of_not_lt early)] at there

theorem shownIn_of_closing {column : Nat} {code : List Char} {found : Match} {name : Excerpt}
    (fits : closing.matchStart? (behind column code) = some found)
    (recorded : found.part? .name = some name) : name.ShownIn code := by
  have shown := (Pattern.matched_of_matchStart? fits).shownIn_part recorded
    (List.all_eq_true.mp clears_parts.1)
  exact ⟨shown.stands.unveil shown.legible fun _ _ => getElem?_of_behind, shown.legible⟩

variable (there : lines[index]? = some line) (shown : Source.Shown line.raw line.code)
include there shown

theorem faithful_memberDiagnostics {kind : TypeKind} {bodyStart close : Nat}
    (answers : memberDiagnostics kind (index + 1)
      ⟨bodyStart, Text.slice line.code bodyStart close⟩ = .ok diagnostics) :
    ∀ diagnostic ∈ diagnostics, diagnostic.Faithful lines := by
  refine Diagnostic.faithful_of_onLines there (Quoting.faithful ?_ shown) answers
  apply Quoting.flatMap
  intro member among
  have stands := (Excerpt.standsIn_slice line.code bodyStart close).of_mem_splitOn
    (List.mem_filter.mp among).1
  exact (Member.quoting_memberFindings kind member.text).shift stands

theorem faithful_nameDiagnostics {brace : Nat} {name : Option Excerpt}
    (named : ∀ excerpt, name = some excerpt → excerpt.ShownIn line.code)
    (answers : nameDiagnostics head (index + 1) brace name = .ok diagnostics) :
    ∀ diagnostic ∈ diagnostics, diagnostic.Faithful lines := by
  unfold nameDiagnostics at answers
  split at answers
  · split at answers
    · refine Diagnostic.faithful_of_onLines there (Quoting.faithful ?_ shown) answers
      exact Quoting.one (by decide)
    · cases answers
      exact fun diagnostic member => absurd member List.not_mem_nil
  next excerpt =>
    have about : ∀ kind : Kind, kind.startsWithWord → Quoting line.code
        [kind.onWith excerpt [.word head.kind.word, .word excerpt.toString]] := fun kind worded =>
      Quoting.singleton (Kind.quotes_onWith kind worded head.kind (named excerpt rfl))
    refine Diagnostic.faithful_of_onLines there (Quoting.faithful (Quoting.append ?_ ?_) shown) answers
    · exact Quoting.ite (fun _ => Quoting.one (by decide)) fun _ => Quoting.nil
    · refine Quoting.ite (fun _ => ?_) fun _ => Quoting.append ?_ ?_
      · exact Quoting.ite (fun _ => Quoting.nil) fun _ => about _ rfl
      · exact Quoting.ite (fun _ => Quoting.nil) fun _ => about _ rfl
      · exact Quoting.ite (fun _ => about _ rfl) fun _ => Quoting.nil

omit there shown in
/-- A tag is written on the line that the head of its type is read from. -/
theorem faithful_tagDiagnostics (read : head.ReadFrom (Line.ofRaws raws))
    (answers : tagDiagnostics head = .ok diagnostics) :
    ∀ diagnostic ∈ diagnostics, diagnostic.Faithful (Line.ofRaws raws) := by
  unfold tagDiagnostics at answers
  split at answers
  · cases answers
    exact fun diagnostic member => absurd member List.not_mem_nil
  next text tagged =>
    split at answers
    · cases answers
      exact fun diagnostic member => absurd member List.not_mem_nil
    · obtain ⟨diagnostic, given, answers⟩ := Answer.bind_eq_ok.mp answers
      cases answers
      obtain ⟨index, line, pattern, found, tag, there, starts, matched, recorded, rfl, line_eq,
        column_eq⟩ := read.exists_tag tagged
      have inCode := matched.shownIn_part recorded
        (List.all_eq_true.mp (clears_parts.2 pattern starts))
      obtain ⟨shown, -⟩ := Line.shown_of_getElem? there
      rw [line_eq, column_eq] at given
      intro other member
      rw [List.mem_singleton.mp member]
      have names : Kind.typeTagNotCamel.Names tag.text
          [.word head.kind.word, .word (String.ofList tag.text)] := ⟨head.kind, rfl⟩
      exact Diagnostic.faithful_of_names there (by decide) names
        (.inl (shown.standsIn inCode.stands inCode.legible)) (shown.quote_not_mem inCode.stands)
        nofun given

end TypeScope

theorem TypeScope.origins_faithful (there : (Line.ofRaws raws)[index]? = some line) :
    Origins (Diagnostic.Faithful (Line.ofRaws raws)) (Line.ofRaws raws) index line.code where
  members := fun _ _ _ _ _ _ answers =>
    faithful_memberDiagnostics there (Line.shown_of_getElem? there).1 answers
  name := fun _ _ _ _ _ _ fits _ answers =>
    faithful_nameDiagnostics there (Line.shown_of_getElem? there).1
      (fun _ recorded => shownIn_of_closing fits recorded) answers
  tag := fun _ _ read answers => faithful_tagDiagnostics read answers

/-! ## A line -/

namespace Scan

variable {settings : Settings} {site : Site} {state : ScanState}

theorem faithful_indentStep {limit : Option Nat} {previousCode : List Char}
    {outcome : Indent.Outcome} (shown : Source.Shown site.line.raw site.line.code)
    (passes : Indent.step limit site previousCode state = .ok outcome) :
    ∀ finding ∈ outcome.findings, finding.Faithful site.line := by
  rw [Indent.step_eq] at passes
  obtain ⟨label, labelled, passes⟩ := Answer.bind_eq_ok.mp passes
  obtain ⟨inline, -, passes⟩ := Answer.bind_eq_ok.mp passes
  obtain ⟨labelToo, labelledToo, declared⟩ := labelOutcome_answers site state
  rw [labelled] at labelledToo
  cases labelledToo
  have shared : Quoting site.line.code
      (Indent.mismatchFindings site.line.raw (Indent.expectedAt site.line state) ++ label.1) := by
    refine Quoting.append ?_ (Quoting.of_declared declared (by decide))
    exact Quoting.ite (fun _ => Quoting.nil) fun _ => Quoting.one (by decide)
  split at passes
  · cases passes
    exact shared.faithful shown
  · split at passes
    · obtain ⟨list, started, passes⟩ := Answer.bind_eq_ok.mp passes
      cases passes
      exact (shared.append (ParamBlock.quoting_start started)).faithful shown
    · cases passes
      exact shared.faithful shown

/-- What arises in a step, wherever it does, is faithful to the lines. -/
theorem origins_faithful (there : (Line.ofRaws raws)[site.index]? = some site.line)
    (read : state.HeadsRead (Line.ofRaws raws)) :
    Origins (Finding.Faithful site.line) (Diagnostic.Faithful (Line.ofRaws raws)) settings site
      state where
  reported := fun _ _ faithful printed => Diagnostic.faithful_of_onLine there faithful printed
  blankRun := fun _ _ given =>
    Diagnostic.faithful_of_silent (by decide) (Kind.isOf_of_diagnostic given)
  indentedBlank := fun naming => absurd naming (show Kind.blankLineIndented ∉ Kind.naming by decide)
  rules := by
    intro phase seen findings _ ruled finding member naming
    obtain ⟨shownCode, shownMasked⟩ := Line.shown_of_getElem? there
    obtain ⟨excerpt, inCode | ⟨other, inMasked⟩⟩ :=
      Rule.exists_quotes_of_runPhase ruled member naming
    · exact ⟨excerpt, inCode.onCode shownCode⟩
    · exact ⟨excerpt, inMasked.onLine shownMasked other⟩
  list := fun _ block =>
    (ParamBlock.quoting_proceed block _ _ _).faithful (Line.shown_of_getElem? there).1
  directive := fun naming => absurd naming (show Kind.includeIndented ∉ Kind.naming by decide)
  label := fun _ label => (quoting_labelFindings? label).faithful (Line.shown_of_getElem? there).1
  indentation := fun _ passes => faithful_indentStep (Line.shown_of_getElem? there).1 passes
  inline := fun _ => (InlineControl.declared_findings site.line.code).faithful (by decide)
  types := fun _ _ answers =>
    (TypeScope.origins_faithful there).forall_of_step there (read.indented site) answers

/-- Every complaint of a scan quotes what stands at its place, if it quotes anything. -/
theorem faithful_of_run (settings : Settings) (raws : List (List Char)) :
    ∀ record ∈ (run settings (Line.ofRaws raws)).1, ∀ diagnostic ∈ record.diagnostics,
      diagnostic.Faithful (Line.ofRaws raws) := by
  apply forall_of_run
  intro site diagnostics next there passes
  have within := Nat.le_of_lt (Site.lt_length_of_at? there)
  exact (origins_faithful (Site.getElem?_of_at? there)
    (headsRead_stateBefore _ _ within)).forall_of_step passes

end Scan

end HouseStyle
