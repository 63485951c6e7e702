import HouseStyle.Proofs.Characters
import HouseStyle.Proofs.Collection
import HouseStyle.Proofs.Lexing
import HouseStyle.Proofs.Scan.Origins

/-!
Contract: characters that could not be decoded.

Owns: the views of a character outside comments, and the lines on which a character beyond ASCII is
reported.
Does not own: the decoding of files, which puts the same character for whatever it cannot read.

This character also stands for hidden characters in the views of a line. So a line on which it is all
there is, but for literals, comments and blanks, counts as a line without code, and no rule on
content reads it.

Main statement: `checkText_undecodable`.
-/

namespace HouseStyle

/-! ## The views of a character -/

/-- Outside comments a character is shown as it is, or hidden with its literal. -/
theorem Line.getElem?_code_of_outside {before : CommentState} {raw : List Char} {position : Nat}
    {c : Char} (written : raw[position]? = some c)
    (outside : ∀ comment ∈ (ofRaw before raw).comments,
      ¬ (comment.start ≤ position ∧ position < comment.stop)) :
    (ofRaw before raw).code[position]? = some c ∨
      (ofRaw before raw).code[position]? = some maskCharacter := by
  have whole := Source.flatMap_raw_segments before raw
  have length : ((Source.segments before raw).1.flatMap Lexing.regions).length = raw.length := by
    rw [← whole, List.length_flatMap, List.length_flatMap]
    simp only [Lexing.length_regions, whole]
  have inside := (List.getElem?_eq_some_iff.mp written).1
  obtain ⟨region, here⟩ : ∃ region,
      ((Source.segments before raw).1.flatMap Lexing.regions)[position]? = some region :=
    ⟨_, List.getElem?_eq_getElem (by omega)⟩
  have visible : (ofRaw before raw).code[position]? = some (region.shown c).2 := by
    show ((Source.segments before raw).1.flatMap Segment.visible)[position]? = _
    rw [Lexing.flatMap_eq_zipWith Lexing.visible_eq_zipWith, whole, List.getElem?_zipWith, here,
      written]
  cases region with
  | code => exact .inl visible
  | literal => exact .inr visible
  | comment =>
    obtain ⟨comment, among, start, stop⟩ := (Lexing.region_comment_iff 0 position _).mp here
    rw [Nat.zero_add] at start stop
    exact absurd ⟨start, stop⟩ (outside comment among)

/-- Where a character beyond ASCII is visible, there is a first one. -/
theorem Call.exists_firstForeign? {raw code : List Char} {position : Nat} {c d : Char}
    (written : raw[position]? = some c) (foreign : 127 < c.toNat)
    (visible : code[position]? = some d) (ink : d ≠ ' ') (start : Nat) :
    ∃ first, firstForeign? start raw code = some first := by
  induction raw generalizing code position start with
  | nil => cases written
  | cons e raw inductionHypothesis =>
    cases code with
    | nil => cases visible
    | cons f code =>
      rw [firstForeign?]
      split
      · exact ⟨_, rfl⟩
      next other =>
        cases position with
        | zero =>
          cases written
          cases visible
          exact absurd (by simp [foreign, ink]) other
        | succ position => exact inductionHypothesis written visible (start + 1)

/-! ## The complaint -/

/-- What a rule of a phase finds is found by the phase. -/
theorem Rule.exists_of_check {phase : Phase} {view : View} {findings : List Finding}
    (answers : runPhase phase view = .ok findings) {rule : Rule} (member : rule ∈ ofPhase phase) :
    ∃ found, rule.check view = .ok found ∧ found ⊆ findings := by
  obtain ⟨lists, asked, passes⟩ := Answer.bind_eq_ok.mp answers
  cases passes
  obtain ⟨found, among, answered⟩ := Answer.exists_mem_of_mapM asked rule member
  exact ⟨found, answered, fun finding inside => List.mem_flatten.mpr ⟨found, among, inside⟩⟩

namespace Diagnostic

/-- The message about a character beyond ASCII is that of no other kind. -/
theorem kind_eq_of_nonAscii {diagnostic other : Diagnostic} {kind : Kind}
    (foreign : diagnostic.IsOf .nonAsciiCharacter) (isOf : other.IsOf kind)
    (same : other.key = diagnostic.key) : kind = .nonAsciiCharacter := by
  obtain ⟨-, arguments, formatted⟩ := foreign
  obtain ⟨-, others, formattedToo⟩ := isOf
  have message : other.message = diagnostic.message := congrArg (fun key => key.2.2) same
  rw [message] at formattedToo
  cases reads : kind.readsCharacters with
  | false => exact absurd formattedToo (message_ne rfl reads formatted)
  | true =>
    cases kind with
    | nonAsciiCharacter => rfl
    | trailingWhitespace =>
      -- both messages start with a fixed text, and these texts start with different letters
      obtain ⟨rest, written⟩ := Template.isPrefix_of_format formatted
      obtain ⟨restToo, writtenToo⟩ := Template.isPrefix_of_format formattedToo
      rw [show Kind.nonAsciiCharacter.template.opening = 'u' :: _ from String.toList_ofList]
        at written
      rw [show Kind.trailingWhitespace.template.opening = 'w' :: _ from String.toList_ofList,
        ← written] at writtenToo
      cases (List.cons.inj writtenToo).1
    | _ => cases reads

end Diagnostic

namespace Scan

variable {settings : Settings} {site : Site} {state next : ScanState}
  {diagnostics : List Diagnostic}

/-- On a line with code that is no inclusion, the first character beyond ASCII is reported. -/
theorem exists_nonAscii_of_step (inked : site.line.isBlank = false) (coded : site.line.hasCode)
    (ordinary : isInclusion site.line = false) {first : Nat × Char}
    (foreign : Call.firstForeign? 0 site.line.raw site.line.code = some first)
    (passes : step settings site state = .ok (diagnostics, next)) :
    ∃ diagnostic ∈ diagnostics, diagnostic.IsOf .nonAsciiCharacter ∧
      diagnostic.line = site.number := by
  obtain ⟨findings, content, ruled, given, sub⟩ := content_of_step inked coded ordinary passes
  obtain ⟨found, answered, among⟩ := Rule.exists_of_check ruled (show
    Rule.total "non_ascii" .content [.nonAsciiCharacter] Call.nonAscii ∈ Rule.ofPhase .content by
      simp [Rule.ofPhase, Rule.contentRules])
  have here : (⟨.nonAsciiCharacter, first.1, 1, [.number (.given first.2.toNat)]⟩ : Finding) ∈
      found := by
    cases answered
    simp [Call.nonAscii, View.code, Site.view, foreign]
  obtain ⟨diagnostic, member, printed⟩ := Answer.exists_mem_of_mapM given _ (among here)
  refine ⟨diagnostic, sub member, Kind.isOf_of_diagnostic printed, ?_⟩
  cases printed
  rfl

/-- A complaint about a character beyond ASCII is about a line with code. -/
def ForeignOnCode (site : Site) (diagnostic : Diagnostic) : Prop :=
  diagnostic.kind = Kind.nonAsciiCharacter.name →
    diagnostic.line = site.number ∧ site.line.hasCode

/-- Only a rule on content complains about a character beyond ASCII. -/
theorem origins_foreignOnCode (settings : Settings) (site : Site) (state : ScanState) :
    Origins (fun finding => finding.kind = .nonAsciiCharacter → site.line.hasCode)
      (ForeignOnCode site) settings site state where
  reported := by
    intro finding diagnostic coded printed about
    have isOf := Kind.isOf_of_diagnostic printed
    refine ⟨?_, coded (Kind.name_injective (isOf.1.symm.trans about))⟩
    obtain ⟨message, -, printed⟩ := Answer.bind_eq_ok.mp printed
    cases printed
    rfl
  blankRun := by
    intro _ diagnostic printed about
    cases Kind.name_injective ((Kind.isOf_of_diagnostic printed).1.symm.trans about)
  indentedBlank := nofun
  rules := by
    intro phase state findings coded ruled finding member about
    refine coded ?_
    rintro rfl
    exact absurd about ((Rule.ofKinds_of_runPhase ruled).kind_ne (by decide) finding member)
  list := fun coded _ _ _ _ => coded
  directive := nofun
  label := fun _ label finding member about =>
    absurd about ((declared_labelFindings? label).kind_ne (by decide) finding member)
  indentation := fun _ passes finding member about =>
    absurd about ((declared_indentStep passes).kind_ne (by decide) finding member)
  inline := fun _ finding member about =>
    absurd about ((InlineControl.declared_findings _).kind_ne (by decide) finding member)
  types := fun _ _ answers diagnostic member about =>
    absurd about ((reported_of_typeStep answers).kind_ne (by decide) diagnostic member)

end Scan

/-! ## Whole checks -/

section Text

variable {settings : Settings} {path : Path} {text : List Char} {diagnostics : List Diagnostic}
  (answers : checkText settings path text = .ok diagnostics) {index : Nat} {line : Line}
  (there : (Line.ofRaws (Source.splitLines text))[index]? = some line)
include answers there

/-- A complaint about a character beyond ASCII is about a line with code. -/
theorem hasCode_of_nonAscii {diagnostic : Diagnostic} (member : diagnostic ∈ diagnostics)
    (about : diagnostic.kind = Kind.nonAsciiCharacter.name)
    (numbered : diagnostic.line = index + 1) : line.hasCode := by
  rcases origin_of_mem_checkText answers diagnostic member with ⟨kind, among, isOf⟩ | scanned
  · cases Kind.name_injective (isOf.1.symm.trans about)
    exact absurd among (by decide)
  · obtain ⟨record, recorded, reported⟩ := scanned
    obtain ⟨other, here⟩ := List.mem_iff_getElem?.mp recorded
    obtain ⟨site, siteThere, -, -, passes⟩ := Scan.step_of_run here
    obtain ⟨named, coded⟩ := (Scan.origins_foreignOnCode settings site _).forall_of_step passes
      diagnostic reported about
    have same : other = index := by
      rw [named, Site.number, Site.index_of_at? siteThere] at numbered
      omega
    rw [same] at siteThere
    rwa [← Option.some.inj ((Site.getElem?_of_at? siteThere).symm.trans there)]

/-- The first character beyond ASCII that is visible on a line with code is reported. -/
theorem exists_nonAscii_of_coded (coded : line.hasCode)
    (ordinary : Lexicon.inclusion.fits line.raw = false) {first : Nat × Char}
    (foreign : Call.firstForeign? 0 line.raw line.code = some first) :
    ∃ diagnostic ∈ diagnostics,
      diagnostic.kind = Kind.nonAsciiCharacter.name ∧ diagnostic.line = index + 1 := by
  obtain ⟨record, here⟩ :=
    exists_record_of_checkText answers (List.getElem?_eq_some_iff.mp there).1
  obtain ⟨site, siteThere, -, -, passes⟩ := Scan.step_of_run here
  have sameLine : site.line = line :=
    Option.some.inj ((Site.getElem?_of_at? siteThere).symm.trans there)
  have inked : line.isBlank = false := by
    obtain ⟨before, raw, written⟩ := Line.exists_ofRaw_of_mem (List.mem_of_getElem? there)
    rw [written] at coded ⊢
    exact Line.isBlank_eq_false_of_hasCode coded
  rw [← sameLine] at coded ordinary foreign inked
  obtain ⟨reported, member, isOf, numbered⟩ :=
    Scan.exists_nonAscii_of_step inked coded ordinary foreign passes
  -- what is kept in its place has the same message, so it is of the same kind
  obtain ⟨kept, among, same⟩ :=
    exists_key_of_scanned answers (List.mem_of_getElem? here) reported member
  obtain ⟨kind, -, keptIsOf⟩ := reported_of_checkText answers kept among
  rw [Diagnostic.kind_eq_of_nonAscii isOf keptIsOf same] at keptIsOf
  refine ⟨kept, among, keptIsOf.1, ?_⟩
  rw [show kept.line = reported.line from congrArg Prod.fst same, numbered, Site.number,
    Site.index_of_at? siteThere, Nat.cast_add_one]

/-- A character that could not be decoded, on a line that is no inclusion and outside comments, is
reported on its line exactly if the line has code. -/
theorem checkText_undecodable (ordinary : Lexicon.inclusion.fits line.raw = false) {position : Nat}
    (undecodable : line.raw[position]? = some maskCharacter)
    (outside : ∀ comment ∈ line.comments,
      ¬ (comment.start ≤ position ∧ position < comment.stop)) :
    (∃ diagnostic ∈ diagnostics,
      diagnostic.kind = Kind.nonAsciiCharacter.name ∧ diagnostic.line = index + 1) ↔
      line.hasCode := by
  constructor
  · rintro ⟨diagnostic, member, about, numbered⟩
    exact hasCode_of_nonAscii answers there member about numbered
  · intro coded
    obtain ⟨first, foreign⟩ : ∃ first, Call.firstForeign? 0 line.raw line.code = some first := by
      obtain ⟨before, raw, written⟩ := Line.exists_ofRaw_of_mem (List.mem_of_getElem? there)
      rw [written] at undecodable outside ⊢
      rcases Line.getElem?_code_of_outside undecodable outside with shown | hidden
      · exact Call.exists_firstForeign? undecodable (by decide) shown (by decide) 0
      · exact Call.exists_firstForeign? undecodable (by decide) hidden (by decide) 0
    exact exists_nonAscii_of_coded answers there coded ordinary foreign

end Text

/-- A character in a message that could not be decoded. -/
theorem checkText_undecodable_message :
    let text := "puts(\"a\uFFFD\");\n".toList
    let line := Line.ofRaw .code "puts(\"a\uFFFD\");".toList
    ∃ diagnostics, checkText .default ⟨"", ["main.c"]⟩ text = .ok diagnostics ∧
      (Line.ofRaws (Source.splitLines text))[0]? = some line ∧
      Lexicon.inclusion.fits line.raw = false ∧ line.raw[7]? = some maskCharacter ∧
      (∀ comment ∈ line.comments, ¬ (comment.start ≤ 7 ∧ 7 < comment.stop)) ∧
      ((∃ diagnostic ∈ diagnostics,
        diagnostic.kind = Kind.nonAsciiCharacter.name ∧ diagnostic.line = (0 : Nat) + 1) ↔
        line.hasCode) := by
  intro text line
  have passes : (checkText .default ⟨"", ["main.c"]⟩ text).isOk := by decide +kernel
  have there : (Line.ofRaws (Source.splitLines text))[0]? = some line := by decide +kernel
  have ordinary : Lexicon.inclusion.fits line.raw = false := by decide +kernel
  have undecodable : line.raw[7]? = some maskCharacter := by decide +kernel
  have outside : ∀ comment ∈ line.comments, ¬ (comment.start ≤ 7 ∧ 7 < comment.stop) := by
    decide +kernel
  cases answers : checkText .default ⟨"", ["main.c"]⟩ text with
  | error fault =>
    rw [answers] at passes
    cases passes
  | ok diagnostics =>
    exact ⟨diagnostics, rfl, there, ordinary, undecodable, outside,
      checkText_undecodable answers there ordinary undecodable outside⟩

/-- A character that could not be decoded is not reported where it is all that its line holds. -/
theorem checkText_undecodable_alone :
    let text := "\uFFFD\n".toList
    let line := Line.ofRaw .code "\uFFFD".toList
    checkText .default ⟨"", ["main.c"]⟩ text = .ok [] ∧
      (Line.ofRaws (Source.splitLines text))[0]? = some line ∧
      Lexicon.inclusion.fits line.raw = false ∧ line.raw[0]? = some maskCharacter ∧
      line.comments = [] := by
  decide +kernel

end HouseStyle
