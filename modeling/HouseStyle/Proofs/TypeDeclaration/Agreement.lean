import HouseStyle.Proofs.TypeDeclaration.Layouts

/-!
Contract: a declaration of a type says the same about its names on one line and on several.

Owns: what is said about names when a type is closed, what a scan says about them on each row of
either layout, and the agreement of both scans.
Does not own: the rows.

On one line the body of the type is cut at its separators. On several lines the scan opens the type
at the first line, checks each member by the rule on members, and closes the type at the last line.
What closes the type is read alike wherever it stands, and what is said about it does not depend on
the place.

Main statement: `namings_layouts`.
-/

namespace HouseStyle

/-! ## What is said when a type is closed -/

namespace TypeScope

variable {head : TypeHead} {number other brace otherBrace : Nat} {code : List Char}
  {found otherFound : Match} {diagnostics others : List Diagnostic}

/-- What is said about the name of a type does not depend on where the name stands. -/
theorem namings_nameDiagnostics {name otherName : Option Excerpt}
    (same : name.map Excerpt.text = otherName.map Excerpt.text)
    (given : nameDiagnostics head number brace name = .ok diagnostics)
    (otherGiven : nameDiagnostics head other otherBrace otherName = .ok others) :
    Diagnostic.namings diagnostics = Diagnostic.namings others := by
  unfold nameDiagnostics at given otherGiven
  cases name with
  | none =>
    cases Option.map_eq_none_iff.mp same.symm
    dsimp only at given otherGiven
    split at given
    next typedef =>
      rw [if_pos typedef] at otherGiven
      rw [Diagnostic.namings_of_onLines given, Diagnostic.namings_of_onLines otherGiven]
      rfl
    next plain =>
      rw [if_neg plain] at otherGiven
      cases given
      cases otherGiven
      rfl
  | some name =>
    obtain ⟨⟨start, text⟩, rfl, sameText⟩ := Option.map_eq_some_iff.mp same.symm
    obtain ⟨place, _⟩ := name
    cases sameText
    have attached : ∀ place brace, Finding.namings
        (if place = brace + 1 then [Kind.spaceAfterClosingBrace.atColumn (brace + 1)] else []) =
          [] := by
      intro place brace
      split <;> rfl
    rw [Diagnostic.namings_of_onLines given, Diagnostic.namings_of_onLines otherGiven,
      Finding.namings_append, Finding.namings_append, attached, attached, List.nil_append,
      List.nil_append]
    dsimp only
    split
    · split <;> rfl
    · rw [Finding.namings_append, Finding.namings_append]
      congr 1
      · split <;> rfl
      · split <;> rfl

/-- What is said when a type is closed does not depend on where the name stands. -/
theorem namings_closingDiagnostics {otherCode : List Char}
    (same : (found.part? .name).map Excerpt.text = (otherFound.part? .name).map Excerpt.text)
    (given : closingDiagnostics head number code found = .ok diagnostics)
    (otherGiven : closingDiagnostics head other otherCode otherFound = .ok others) :
    Diagnostic.namings diagnostics = Diagnostic.namings others := by
  obtain ⟨brace, -, given⟩ := Answer.bind_eq_ok.mp given
  obtain ⟨named, nameGiven, given⟩ := Answer.bind_eq_ok.mp given
  obtain ⟨tagged, tagGiven, given⟩ := Answer.bind_eq_ok.mp given
  obtain ⟨otherBrace, -, otherGiven⟩ := Answer.bind_eq_ok.mp otherGiven
  obtain ⟨otherNamed, otherNameGiven, otherGiven⟩ := Answer.bind_eq_ok.mp otherGiven
  obtain ⟨otherTagged, otherTagGiven, otherGiven⟩ := Answer.bind_eq_ok.mp otherGiven
  cases given
  cases otherGiven
  cases tagGiven.symm.trans otherTagGiven
  rw [Diagnostic.namings_append, Diagnostic.namings_append,
    namings_nameDiagnostics same nameGiven otherNameGiven]

theorem indentable_closing : closing.Indentable := by
  have brace : (Pattern.char '}').Refuses Text.isBlank := Pattern.refuses_char (by decide)
  refine (((((((((Pattern.indentable_of_refuses brace ?_).append ?_).append ?_).append ?_).append
    ?_).append ?_).append ?_).append ?_).append ?_).append ?_
  all_goals simp [Pattern.blanks, Lexicon.stars, Lexicon.arrayBounds, Pattern.manyBut,
    Pattern.steady_ident]

/-- What is said about names when a text closes a type, if it does. -/
def closingNamings (head : TypeHead) (code : List Char) : List (String × String) :=
  match closing.matchStart? code with
  | none => []
  | some found =>
    match closingDiagnostics head 0 code found with
    | .ok diagnostics => Diagnostic.namings diagnostics
    | .error _ => []

/-- A text says the same about names on any line and behind any indentation. -/
theorem exists_closingDiagnostics {indentation : List Char}
    (all : ∀ c ∈ indentation, Source.isIndentation c) (head : TypeHead) (number : Nat)
    {found : Match} (fits : closing.matchStart? (indentation ++ code) = some found) :
    ∃ diagnostics, closingDiagnostics head number (indentation ++ code) found = .ok diagnostics ∧
      Diagnostic.namings diagnostics = closingNamings head code := by
  rw [Pattern.matchStart?_indented all indentable_closing] at fits
  obtain ⟨plain, plainFits, rfl⟩ := Option.map_eq_some_iff.mp fits
  obtain ⟨diagnostics, given, -⟩ := closingDiagnostics_answers
    ((Pattern.matchStart?_indented all indentable_closing code).trans
      (congrArg (Option.map _) plainFits)) head number
  obtain ⟨others, otherGiven, -⟩ := closingDiagnostics_answers plainFits head 0
  refine ⟨diagnostics, given, ?_⟩
  unfold closingNamings
  simp only [plainFits, otherGiven]
  refine namings_closingDiagnostics ?_ given otherGiven
  rw [Match.part?_indented, Option.map_map]
  rfl

theorem closingNamings_of_unfit {indentation : List Char}
    (all : ∀ c ∈ indentation, Source.isIndentation c) (head : TypeHead)
    (unfit : closing.matchStart? (indentation ++ code) = none) : closingNamings head code = [] := by
  rw [Pattern.matchStart?_indented all indentable_closing, Option.map_eq_none_iff] at unfit
  unfold closingNamings
  rw [unfit]

/-- A row that closes the innermost type says what its text says about names, on any line. -/
theorem exists_closeInnermost {raw : List Char} (closes : (Text.trim raw).head? = some '}')
    (index : Nat) (waiting : Option Int) (head : TypeHead) :
    ∃ diagnostics, closeInnermost index raw (.inTypes [] waiting [⟨head, 1⟩]) =
        .ok (some diagnostics, .inTypes [] waiting []) ∧
      Diagnostic.namings diagnostics = closingNamings head raw := by
  have nothing : ∀ c ∈ ([] : List Char), Source.isIndentation c :=
    fun c member => absurd member List.not_mem_nil
  unfold closeInnermost
  rw [closes]
  cases fits : closing.matchStart? raw with
  | some found =>
    obtain ⟨diagnostics, given, said⟩ := exists_closingDiagnostics nothing head (index + 1) fits
    rw [List.nil_append] at given
    refine ⟨diagnostics, ?_, said⟩
    show (closingDiagnostics head (index + 1) raw found >>= _) = _
    rw [given]
    rfl
  | none => exact ⟨[], rfl, (closingNamings_of_unfit nothing head fits).symm⟩

/-- On one line a type says what its members say and then what the text from its brace on says. -/
theorem exists_oneLineDiagnostics {bodyStart close : Nat} {members : List Diagnostic}
    (given : memberDiagnostics head.kind number ⟨bodyStart, Text.slice code bodyStart close⟩ =
      .ok members) :
    ∃ diagnostics, oneLineDiagnostics head number code bodyStart close = .ok diagnostics ∧
      Diagnostic.namings diagnostics =
        Diagnostic.namings members ++ closingNamings head (code.drop close) := by
  have blank : ∀ c ∈ List.replicate close ' ', Source.isIndentation c :=
    List.forall_mem_replicate.mpr (.inr rfl)
  unfold oneLineDiagnostics
  simp only [given, Answer.ok_bind]
  cases fits : closing.matchStart? (List.replicate close ' ' ++ code.drop close) with
  | some found =>
    obtain ⟨closed, closes, said⟩ := exists_closingDiagnostics blank head number fits
    refine ⟨members ++ closed, by simp only [closes, Answer.ok_bind]; rfl, ?_⟩
    rw [Diagnostic.namings_append, said]
  | none =>
    refine ⟨members, rfl, ?_⟩
    rw [closingNamings_of_unfit blank head fits, List.append_nil]

end TypeScope

namespace TypeDeclaration

section Steps

variable {site : Site} {style : Style} {limit : Int}

/-- A member says what the rule on members finds, and leaves its type open. -/
theorem step_member (writable : (Settings.of style limit).Writable) {text : List Char}
    (member : MemberText text) (written : site.line = .ofRaw .code (memberRow text))
    (frames : List Nat) (waiting : Option Int) (scope : TypeScope) (types : List TypeScope) :
    ∃ diagnostics after, Scan.step (.of style limit) site (.inTypes frames waiting (scope :: types)) =
        .ok (diagnostics, .inTypes frames after (scope :: types)) ∧
      Diagnostic.namings diagnostics = Finding.namings (Member.findings scope.head.kind text) := by
  have stays : ((Text.trim (memberRow text)).head? == some '}') = false :=
    beq_eq_false_iff_ne.mpr member.head?_trim
  obtain ⟨after, settles⟩ := @DeclarationRow.exists_settled_of_level _ member.row _ written frames
    waiting (scope :: types) (excess_memberRow member) member.head?_trim
  have typed : TypeScope.step site.index (memberRow text) (.inTypes frames after (scope :: types)) =
      .ok (none, .inTypes frames after (scope :: types)) := by
    rw [TypeScope.step_of_apart member.not_typeWord, TypeScope.closeInnermost, stays]
    rfl
  obtain ⟨diagnostics, steps, said⟩ :=
    member.row.exists_step written style limit typed settles writable
  have space : ∀ c ∈ List.replicate indentUnit ' ', Source.isIndentation c :=
    List.forall_mem_replicate.mpr (.inr rfl)
  refine ⟨diagnostics, after, steps, said.trans ?_⟩
  rw [TypeScope.namings_of_apart member.not_typeWord _ (member.row.code_eq written)]
  exact Member.namings_indented space scope.head.kind text

/-- The last row closes the type. -/
theorem step_ending (writable : (Settings.of style limit).Writable)
    {declaration : TypeDeclaration} {spaces : Nat}
    (written : site.line = .ofRaw .code (declaration.ending spaces)) (indent : Nat)
    (waiting : Option Int) :
    ∃ diagnostics after,
      Scan.step (.of style limit) site (.inTypes [indent] waiting [⟨declaration.typeHead, 1⟩]) =
        .ok (diagnostics, .inTypes [] after []) ∧
      Diagnostic.namings diagnostics =
        TypeScope.closingNamings declaration.typeHead (declaration.ending spaces) := by
  have row := declaration.row_ending spaces
  have closes : (Text.trim (declaration.ending spaces)).head? = some '}' :=
    @Text.head?_trim_of_blanks [] _ _ (fun c member => absurd member List.not_mem_nil) rfl
  have apart : Text.leadingWord (Text.trimLeft (declaration.ending spaces)) ∉ typeWords := by
    show [] ∉ typeWords
    decide
  obtain ⟨after, settles⟩ := @DeclarationRow.exists_settled_of_closes _ row _ written [indent]
    waiting [⟨declaration.typeHead, 1⟩] (declaration.excess_ending spaces) closes
  obtain ⟨closed, given, said⟩ :=
    TypeScope.exists_closeInnermost closes site.index after declaration.typeHead
  obtain ⟨diagnostics, steps, same⟩ := row.exists_step written style limit
    ((TypeScope.step_of_apart apart _ _ _ _).trans given) settles writable
  exact ⟨diagnostics, after, steps, same.trans said⟩

variable (declaration : TypeDeclaration)

/-- What is said about the names in a declaration: about each member, and then about the name and the
tag of the type. -/
def said (spaces : Nat) : List (String × String) :=
  (declaration.members.texts.flatMap fun text =>
    Finding.namings (Member.findings declaration.members.kind text)) ++
    TypeScope.closingNamings declaration.typeHead (declaration.ending spaces)

/-- A row that starts with the declaration opens its type or, if its last closing brace stands behind
the head, holds all of it. -/
theorem step_of_head (more : List Char) (waiting : Option Int) (frames : List Nat) :
    TypeScope.step 0 (declaration.head ++ more) (.inTypes frames waiting []) =
      TypeScope.openWithBrace 0 (declaration.head ++ more) declaration.typeHead
        declaration.head.length (.inTypes frames waiting []) := by
  obtain ⟨found, fits, stop, headed⟩ := declaration.exists_braceStart more
  have bare : Member.bareStart.matchStart? (declaration.head ++ more) = none :=
    bareStart_eq_none (by simp [head])
  show TypeScope.openOrClose 0 _ _ = _
  unfold TypeScope.openOrClose
  simp only [bare, fits, headed, stop, Option.bind_none]

/-- The first row of several opens the type and says nothing about names. -/
theorem step_head (writable : (Settings.of style limit).Writable)
    (written : site.line = .ofRaw .code declaration.head) (first : site.index = 0) :
    ∃ diagnostics indent, Scan.step (.of style limit) site .initial =
        .ok (diagnostics, .inTypes [indent] none [⟨declaration.typeHead, 1⟩]) ∧
      Diagnostic.namings diagnostics = [] := by
  have row := declaration.row_head
  have starts := declaration.head?_trim_of_head []
  rw [List.append_nil] at starts
  obtain ⟨indent, settles⟩ := @DeclarationRow.exists_settled_of_opens _ row _ written [] none []
    declaration.excess_head starts
  have typed : TypeScope.step site.index declaration.head (.inTypes [indent] none []) =
      .ok (none, .inTypes [indent] none [⟨declaration.typeHead, 1⟩]) := by
    have opens := declaration.step_of_head [] none [indent]
    rw [List.append_nil] at opens
    rw [first, opens, TypeScope.openWithBrace, Text.findLast?_eq_none declaration.unclosed_head]
    rfl
  obtain ⟨diagnostics, steps, said⟩ := row.exists_step written style limit typed settles writable
  have fits : Member.braceStart.fits declaration.head := by
    obtain ⟨found, fits, -⟩ := declaration.exists_braceStart []
    rw [List.append_nil] at fits
    exact Option.isSome_iff_exists.mpr ⟨found, fits⟩
  rw [← row.code_eq written] at fits
  exact ⟨diagnostics, indent, steps, said.trans (TypeScope.namings_of_braceStart fits _ _)⟩

/-- On one line the reading of types says what the members and the end of the declaration say. -/
theorem exists_step_oneLine (spaces : Nat) (waiting : Option Int) :
    ∃ closed, TypeScope.step 0 (declaration.oneLine spaces) (.inTypes [] waiting []) =
        .ok (some closed, .inTypes [] waiting []) ∧
      Diagnostic.namings closed = declaration.said spaces := by
  obtain ⟨members, given, -⟩ := TypeScope.memberDiagnostics_answers declaration.typeHead.kind 1
    ⟨declaration.head.length,
      Text.slice (declaration.oneLine spaces) declaration.head.length declaration.bodyStop⟩
  obtain ⟨closed, answers, said⟩ := TypeScope.exists_oneLineDiagnostics given
  rw [slice_oneLine] at given
  have opens := declaration.step_of_head
    (declaration.members.inside ++ declaration.ending spaces) waiting []
  rw [← oneLine_eq] at opens
  refine ⟨closed, ?_, ?_⟩
  · rw [opens, TypeScope.openWithBrace, findLast?_oneLine]
    simp only [if_pos declaration.length_head_le, answers, Answer.ok_bind]
    rfl
  · rw [said, drop_oneLine, declaration.members.namings_inside given]
    rfl

/-- The one row of the other layout says the same in the scan. -/
theorem step_oneLine (writable : (Settings.of style limit).Writable) {spaces : Nat}
    (written : site.line = .ofRaw .code (declaration.oneLine spaces)) (first : site.index = 0) :
    ∃ diagnostics after, Scan.step (.of style limit) site .initial =
        .ok (diagnostics, .inTypes [] after []) ∧
      Diagnostic.namings diagnostics = declaration.said spaces := by
  have row := declaration.row_oneLine spaces
  obtain ⟨after, settles⟩ := @DeclarationRow.exists_settled_of_level _ row _ written [] none []
    (declaration.excess_oneLine spaces) (declaration.head?_trim_oneLine spaces)
  obtain ⟨closed, given, said⟩ := declaration.exists_step_oneLine spaces after
  rw [← first] at given
  obtain ⟨diagnostics, steps, same⟩ := row.exists_step written style limit given settles writable
  exact ⟨diagnostics, after, steps, same.trans said⟩

end Steps

/-! ## The run over the rows -/

section Run

variable (declaration : TypeDeclaration) (style : Style) (limit : Int)
  (writable : (Settings.of style limit).Writable)
include writable

open Scan

/-- Member by member a scan says what the rule on members finds. -/
theorem remarks_members {texts : List (List Char)} (members : ∀ text ∈ texts, MemberText text)
    {frames : List Nat} {scope : TypeScope} {types : List TypeScope} {rows : List Line}
    {said : List (String × String)}
    (later : ∀ index before waiting,
      Remarks (.of style limit) index before (.inTypes frames waiting (scope :: types)) rows said)
    (index : Nat) (before : List Line) (waiting : Option Int) :
    Remarks (.of style limit) index before (.inTypes frames waiting (scope :: types))
      ((texts.map fun text => Line.ofRaw .code (memberRow text)) ++ rows)
      ((texts.flatMap fun text => Finding.namings (Member.findings scope.head.kind text)) ++ said) := by
  -- A member leaves everything as it was but the indentation that the next line is waited for at.
  induction texts generalizing index before waiting with
  | nil => exact later index before waiting
  | cons text texts inductionHypothesis =>
    obtain ⟨member, others⟩ := List.forall_mem_cons.mp members
    obtain ⟨diagnostics, after, steps, names⟩ :=
      @step_member ⟨index, before, .ofRaw .code (memberRow text), _⟩ style limit writable text
        member rfl frames waiting scope types
    rw [List.flatMap_cons, List.append_assoc]
    exact .cons steps names (inductionHypothesis others (index + 1) _ after)

/-- On one line a scan says what the declaration says. -/
theorem remarks_oneLine (spaces : Nat) :
    Remarks (.of style limit) 0 [] .initial (Line.ofRaws [declaration.oneLine spaces])
      (declaration.said spaces) := by
  have rows : Line.ofRaws [declaration.oneLine spaces] =
      [.ofRaw .code (declaration.oneLine spaces)] :=
    Line.ofRaws_of_rows (List.forall_mem_singleton.mpr (declaration.row_oneLine spaces))
  obtain ⟨diagnostics, after, steps, names⟩ :=
    @step_oneLine ⟨0, [], .ofRaw .code (declaration.oneLine spaces), []⟩ style limit declaration
      writable spaces rfl rfl
  rw [rows, ← List.append_nil (declaration.said spaces)]
  exact .cons steps names .nil

/-- On several lines a scan says what the declaration says. -/
theorem remarks_lines (spaces : Nat) :
    Remarks (.of style limit) 0 [] .initial (Line.ofRaws (declaration.lines spaces))
      (declaration.said spaces) := by
  rw [Line.ofRaws_of_rows (declaration.row_lines spaces), lines, List.map_cons, List.map_append,
    List.map_map, ← List.nil_append (declaration.said spaces)]
  obtain ⟨diagnostics, indent, steps, names⟩ :=
    @step_head ⟨0, [], .ofRaw .code declaration.head, _⟩ style limit declaration writable rfl rfl
  refine .cons steps names
    (remarks_members style limit writable declaration.members.isMemberText ?_ 1 _ none)
  intro index before waiting
  obtain ⟨diagnostics, after, steps, names⟩ :=
    @step_ending ⟨index, before, .ofRaw .code (declaration.ending spaces), []⟩ style limit writable
      declaration spaces rfl indent waiting
  rw [← List.append_nil (TypeScope.closingNamings _ _)]
  exact .cons steps names .nil

/-- A declaration of a type says the same about its names on one line as on several, under a limit that
can be written. -/
theorem namings_layouts (spaces : Nat) : ∃ first second,
    Scan.diagnostics (.of style limit) (Line.ofRaws [declaration.oneLine spaces]) = .ok first ∧
      Scan.diagnostics (.of style limit) (Line.ofRaws (declaration.lines spaces)) = .ok second ∧
        Diagnostic.namings first = Diagnostic.namings second := by
  obtain ⟨first, one, same⟩ :=
    (declaration.remarks_oneLine style limit writable spaces).diagnostics_of_initial
  obtain ⟨second, several, sameToo⟩ :=
    (declaration.remarks_lines style limit writable spaces).diagnostics_of_initial
  exact ⟨first, second, one, several, same.trans sameToo.symm⟩

end Run

/-- A type with a tag and a name that are alike, and two fields that are not named as they should. -/
def point : TypeDeclaration where
  isTypedef := true
  tag := some (.of "point" (by decide +kernel))
  members := .struct ⟨.of "int" (by decide +kernel), .of "XPos" (by decide +kernel)⟩
    [⟨.of "int" (by decide +kernel), .of "yPos" (by decide +kernel)⟩]
  name := some (.of "point" (by decide +kernel))

/-- Under the default limit the declaration of a point gets three complaints about names in either
layout, in the same order. -/
theorem namings_layouts_point :
    String.ofList (point.oneLine 1) = "typedef struct point \x7b int XPos; int yPos; \x7d point;" ∧
      (point.lines 1).map String.ofList =
        ["typedef struct point \x7b", "  int XPos;", "  int yPos;", "\x7d point;"] ∧
      Settings.default.Writable ∧
      ∃ first second, Scan.diagnostics .default (Line.ofRaws [point.oneLine 1]) = .ok first ∧
        Scan.diagnostics .default (Line.ofRaws (point.lines 1)) = .ok second ∧
          Diagnostic.namings first = Diagnostic.namings second ∧
            Diagnostic.namings first =
              [("FIELD_NAME_NOT_SNAKE", "struct field name 'XPos' must be snake_lower_case"),
                ("FIELD_NAME_NOT_SNAKE", "struct field name 'yPos' must be snake_lower_case"),
                ("TYPEDEF_TYPE_NAME",
                  "struct typedef name 'point' must be snake_lower_case and end with '_t'")] := by
  have writable : Settings.default.Writable := by decide
  obtain ⟨first, second, one, several, same⟩ :=
    namings_layouts point .kr Settings.defaultLimit writable 1
  have said := Answer.map_ok Diagnostic.namings first
  rw [← one] at said
  exact ⟨by decide +kernel, by decide +kernel, writable, first, second, one, several, same,
    Except.ok.inj (said.symm.trans (by decide +kernel))⟩

end TypeDeclaration

end HouseStyle
