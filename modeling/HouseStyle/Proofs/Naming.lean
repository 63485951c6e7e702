import HouseStyle.Proofs.Collection
import HouseStyle.Proofs.Scan.Quoted

/-!
Contract: complaints about names, numbers and operators point at what they quote.

Owns: the place that such a complaint names in the lines of a text, and what stands there.
Does not own: which names are complained about.

The characters at the place are the ones that the message quotes. The parameters of a macro are
quoted as the code of the line shows them, where a comment is blank and a literal is masked, and so
they may differ from what is written.

Main statement: `checkText_quoted`.
-/

namespace HouseStyle

theorem Excerpt.StandsIn.slice_eq {text : List Char} {excerpt : Excerpt}
    (stands : excerpt.StandsIn text) :
    Text.slice text excerpt.start excerpt.stop = excerpt.text := by
  have written : excerpt.text = (text.drop excerpt.start).take excerpt.text.length :=
    List.prefix_iff_eq_take.mp stands
  have length : excerpt.stop - excerpt.start = excerpt.text.length := Nat.add_sub_cancel_left ..
  rw [Text.slice, List.drop_take, length, ← written]

/-- A diagnostic of a kind is placed at a column of a line of a text, and the characters there are
those that its message quotes. If it is about the parameter of a macro in which a comment or literal
is hidden, they are so in the code of the line. -/
structure Diagnostic.PointsAt (text : List Char) (kind : Kind) (diagnostic : Diagnostic)
    (index column : Nat) (line : Line) : Prop where
  scanned : (Line.ofRaws (Source.splitLines text))[index]? = some line
  written : (Source.splitLines text)[index]? = some line.raw
  numbered : diagnostic.line = index + 1
  placed : diagnostic.column = column
  sized : diagnostic.length = (kind.quoted diagnostic.message).length
  quoted : let quoted := kind.quoted diagnostic.message
    let stop := column + quoted.length
    Text.slice line.raw column stop = quoted ∨
      kind = .macroParamNotSnake ∧ Text.slice line.code column stop = quoted ∧
        ∃ position, column ≤ position ∧ position < stop ∧
          line.code[position]? ≠ line.raw[position]?

theorem Diagnostic.QuotesAt.pointsAt {text : List Char} {kind : Kind} {diagnostic : Diagnostic}
    {index : Nat} {line : Line} {excerpt : Excerpt}
    (there : (Line.ofRaws (Source.splitLines text))[index]? = some line)
    (quotes : diagnostic.QuotesAt kind index excerpt) (quotable : line.Quotable kind excerpt) :
    diagnostic.PointsAt text kind index excerpt.start line where
  scanned := there
  written := by
    obtain ⟨before, raw, written, rfl⟩ := Line.exists_ofRaw_of_getElem? there
    rwa [Line.raw_ofRaw]
  numbered := by rw [quotes.line, Nat.cast_add_one]
  placed := quotes.column
  sized := by rw [quotes.length, quotes.quoted, Excerpt.length]
  quoted := by
    rw [quotes.quoted]
    rcases quotable with stands | ⟨parameter, stands, hidden⟩
    · exact .inl stands.slice_eq
    · exact .inr ⟨parameter, stands.slice_eq, hidden⟩

section Text

variable {settings : Settings} {path : Path} {text : List Char} {diagnostics : List Diagnostic}
  (answers : checkText settings path text = .ok diagnostics)
include answers

/-- A complaint that quotes a name, a number or an operator is placed exactly at what it quotes. -/
theorem checkText_quoted {diagnostic : Diagnostic} (member : diagnostic ∈ diagnostics) {kind : Kind}
    (naming : kind ∈ Kind.naming) (named : diagnostic.kind = kind.name) :
    ∃ index column line, diagnostic.PointsAt text kind index column line := by
  rcases origin_of_mem_checkText answers diagnostic member with
    ⟨fileKind, among, isOf⟩ | ⟨record, recorded, reported⟩
  · have silent : ∀ kind ∈ Checker.fileKinds, kind ∉ Kind.naming := by decide
    rw [← Kind.name_injective (isOf.1.symm.trans named)] at naming
    exact absurd naming (silent fileKind among)
  · obtain ⟨index, line, excerpt, there, quotes, quotable⟩ :=
      Scan.faithful_of_run settings _ record recorded diagnostic reported kind naming named
    exact ⟨index, excerpt.start, line, quotes.pointsAt there quotable⟩

end Text

/-- A tag is complained about on the line that closes its type, and quoted from the first. -/
theorem checkText_quoted_tag :
    let text := "struct my_point \x7b\n  int x;\n\x7d;".toList
    ∃ diagnostics diagnostic, checkText .default ⟨"", ["main.c"]⟩ text = .ok diagnostics ∧
      diagnostic ∈ diagnostics ∧ Kind.typeTagNotCamel ∈ Kind.naming ∧
        diagnostic.kind = Kind.typeTagNotCamel.name ∧
        Kind.typeTagNotCamel.quoted diagnostic.message = "my_point".toList ∧
        ∃ index column line, diagnostic.PointsAt text .typeTagNotCamel index column line := by
  intro text
  let diagnostic : Diagnostic :=
    ⟨1, 7, 8, .error, Kind.typeTagNotCamel.name, "struct tag 'my_point' must be camelCase"⟩
  have found : ((checkText .default ⟨"", ["main.c"]⟩ text).toOption.map fun diagnostics =>
      decide (diagnostic ∈ diagnostics)) = some true := by
    decide +kernel
  have quoted : Kind.typeTagNotCamel.quoted diagnostic.message = "my_point".toList := by
    decide +kernel
  cases answers : checkText .default ⟨"", ["main.c"]⟩ text with
  | error fault =>
    rw [answers] at found
    cases found
  | ok diagnostics =>
    rw [answers] at found
    have member : diagnostic ∈ diagnostics := of_decide_eq_true (Option.some.inj found)
    have naming : Kind.typeTagNotCamel ∈ Kind.naming := by decide
    exact ⟨diagnostics, diagnostic, rfl, member, naming, rfl, quoted,
      checkText_quoted answers member naming rfl⟩

/-- A comment in the parameter of a macro is quoted as blanks, which is not what is written there. -/
theorem checkText_quoted_comment :
    let raw := "#define F(a/*b*/c) (a)".toList
    ∃ diagnostic, checkText .default ⟨"", ["main.c"]⟩ (raw ++ ['\n']) = .ok [diagnostic] ∧
      Kind.macroParamNotSnake ∈ Kind.naming ∧ diagnostic.kind = Kind.macroParamNotSnake.name ∧
      (Source.splitLines (raw ++ ['\n']))[0]? = some raw ∧
      (diagnostic.line, diagnostic.column, diagnostic.length) = (1, 10, 7) ∧
      Text.slice raw 10 (10 + 7) = "a/*b*/c".toList ∧
      Kind.macroParamNotSnake.quoted diagnostic.message = "a     c".toList := by
  refine ⟨⟨1, 10, 7, .error, Kind.macroParamNotSnake.name,
    "macro parameter 'a     c' must be snake_lower_case"⟩, ?_⟩
  decide +kernel

end HouseStyle
