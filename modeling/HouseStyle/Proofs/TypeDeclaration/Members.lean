import HouseStyle.Proofs.File.Heads
import HouseStyle.Proofs.Pattern.Foremost
import HouseStyle.Proofs.Quoted
import HouseStyle.Proofs.Scan.Namings

/-!
Contract: the members of a type, and what is said about their names.

Owns: names, fields and elements, how they are written, and the agreement of what is found on a
member wherever it stands.
Does not own: the declaration around the members, and the scan of its lines.

On a line of its own a member is checked with its indentation and its separator. On the line of the
whole type it is what stands between two separators, and a separator is put behind it again if it is
a field. The blanks and the separator around an element differ, and the name found on it does not.

Main statements: `Members.namings_inside` and `Member.namings_indented`.
-/

namespace HouseStyle

theorem isDecimal_eq_false_of_isIdentStart {c : Char} (starts : Lexicon.isIdentStart c) :
    Text.isDecimal c = false := by
  have ascii := toNat_of_isIdentRest (isIdentRest_of_isIdentStart starts)
  rw [Text.isDecimal, if_pos (by omega), ← Bool.not_eq_true]
  intro digit
  simp only [Char.isDigit, Bool.and_eq_true, decide_eq_true_eq, ge_iff_le,
    UInt32.le_iff_toNat_le] at digit
  simp only [Lexicon.isIdentStart, Char.isAlpha, Char.isUpper, Char.isLower, Bool.or_eq_true,
    Bool.and_eq_true, decide_eq_true_eq, ge_iff_le, UInt32.le_iff_toNat_le, beq_iff_eq] at starts
  rcases starts with (upper | lower) | rfl
  · exact absurd upper.1 (Nat.not_le.mpr (Nat.lt_of_le_of_lt digit.2 (by decide)))
  · exact absurd lower.1 (Nat.not_le.mpr (Nat.lt_of_le_of_lt digit.2 (by decide)))
  · exact absurd digit.2 (by decide)

/-! ## Indented members -/

namespace Member

theorem indentable_field : field.Indentable := by
  have first : (Pattern.plus (Lexicon.ident ++
      (.gap <|> (.blanks ++ Lexicon.stars ++ .blanks)))).Refuses Text.isBlank :=
    (Pattern.refuses_ident.append _).append _
  refine (((((Pattern.indentable_of_refuses first ?_).append ?_).append ?_).append ?_).append
    ?_).append ?_
  all_goals simp [Pattern.gap, Pattern.blanks, Lexicon.stars, Lexicon.arrayBounds, Pattern.manyBut,
    Pattern.steady_ident]

theorem indentable_element : element.Indentable := by
  have name := Pattern.refuses_ident.capture .name
  refine (((((Pattern.indentable_of_refuses name ?_).append ?_).append ?_).append ?_).append
    ?_).append ?_
  all_goals simp [Pattern.blanks, Pattern.manyBut, Pattern.steady_ident]

variable {indentation : List Char} (all : ∀ c ∈ indentation, Source.isIndentation c)
include all

theorem fieldName?_indented (code : List Char) :
    fieldName? (indentation ++ code) = (fieldName? code).map (Excerpt.moved indentation.length) := by
  have steady : functionPointer.Steady := by
    simp [functionPointer, Pattern.blanks, Lexicon.stars, Pattern.steady_ident]
  have refuses : functionPointer.Refuses isMargin :=
    (((((Pattern.refuses_char (by decide)).append _).append _).append _).append _).append _ |>.append _
  unfold fieldName?
  rw [Pattern.matchStart?_indented all indentable_field,
    Pattern.search?_margin steady refuses (isMargin_of_indentation all)]
  cases field.matchStart? code with
  | some found => exact Match.part?_indented indentation found .name
  | none =>
    cases functionPointer.search? code with
    | none => rfl
    | some found => exact Match.part?_moved indentation.length found .name

theorem elementName?_indented (code : List Char) :
    elementName? (indentation ++ code) =
      (elementName? code).map (Excerpt.moved indentation.length) := by
  unfold elementName?
  rw [Pattern.matchStart?_indented all indentable_element]
  cases element.matchStart? code with
  | none => rfl
  | some found => exact Match.part?_indented indentation found .name

/-- What is said about the name of a member does not depend on where the member stands. -/
theorem namings_indented (kind : TypeKind) (code : List Char) :
    Finding.namings (findings kind (indentation ++ code)) = Finding.namings (findings kind code) := by
  unfold findings
  cases kind with
  | struct | union =>
    simp only [fieldName?_indented all]
    cases fieldName? code with
    | none => rfl
    | some name =>
      simp only [Option.map_some, Excerpt.moved]
      split <;> rfl
  | enum =>
    simp only [elementName?_indented all]
    cases elementName? code with
    | none => rfl
    | some name =>
      simp only [Option.map_some, Excerpt.moved]
      split <;> rfl

end Member

namespace TypeDeclaration

/-! ## Members -/

/-- The words that open a control statement, a case or a type, or that give a type a name. -/
def openingWords : List (List Char) :=
  ["if", "else", "for", "while", "do", "switch", "case", "default", "struct", "union", "enum",
    "typedef"].map String.toList

/-- An identifier that is none of the opening words. -/
structure Name where
  first : Char
  others : List Char
  starts : Lexicon.isIdentStart first
  goesOn : ∀ c ∈ others, Lexicon.isIdentRest c
  plain : first :: others ∉ openingWords

/-- A field with the name of its type. -/
structure Field where
  type : Name
  name : Name

/-- An element of an enumeration, with the name of its value if it has one. -/
structure Element where
  name : Name
  value : Option Name

/-- The members of a type, at least one. -/
inductive Members where
  | struct (first : Field) (others : List Field)
  | union (first : Field) (others : List Field)
  | enum (first : Element) (others : List Element)

def Name.text (name : Name) : List Char :=
  name.first :: name.others

def Field.text (field : Field) : List Char :=
  field.type.text ++ ' ' :: field.name.text

def Element.text (element : Element) : List Char :=
  element.name.text ++
    match element.value with
    | none => []
    | some value => " = ".toList ++ value.text

/-- A text as a name, if it is one. -/
def Name.ofText? : List Char → Option Name
  | [] => none
  | first :: others =>
    if legal : Lexicon.isIdentStart first ∧ others.all Lexicon.isIdentRest ∧
        first :: others ∉ openingWords then
      some ⟨first, others, legal.1, List.all_eq_true.mp legal.2.1, legal.2.2⟩
    else none

theorem Name.ofText?_text (name : Name) : ofText? name.text = some name :=
  dif_pos ⟨name.starts, List.all_eq_true.mpr name.goesOn, name.plain⟩

/-- A text that is known to be a name. -/
def Name.of (text : String) (legal : (ofText? text.toList).isSome) : Name :=
  (ofText? text.toList).get legal

example : (Name.ofText? "enum".toList).isNone := by decide +kernel

/-- The elements with a comma behind each but the last. -/
def elementTexts (first : Element) : List Element → List (List Char)
  | [] => [first.text]
  | next :: others => (first.text ++ [',']) :: elementTexts next others

namespace Members

def kind : Members → TypeKind
  | struct .. => .struct
  | union .. => .union
  | enum .. => .enum

/-- The members as they are written: fields end in semicolons, and elements are separated by
commas. -/
def texts : Members → List (List Char)
  | struct first others | union first others =>
    (first :: others).map fun field => field.text ++ [';']
  | enum first others => elementTexts first others

end Members

/-! ## Names -/

namespace Name

variable (name : Name)

theorem letters : ∀ c ∈ name.text, Lexicon.isIdentRest c :=
  List.forall_mem_cons.mpr ⟨isIdentRest_of_isIdentStart name.starts, name.goesOn⟩

theorem isText : DeclarationText name.text where
  letters := by
    intro c member
    rw [isDeclarationLetter, name.letters c member]
    rfl
  digits := by
    intro before d rest split digit
    cases before using List.reverseRecOn with
    | nil =>
      obtain ⟨rfl, -⟩ := List.cons.inj split
      rw [isDecimal_eq_false_of_isIdentStart name.starts] at digit
      cases digit
    | append_singleton before c =>
      rw [List.getLast?_concat, Option.any_some]
      apply isWord_of_isIdentRest (name.letters c _)
      rw [split]
      simp

theorem leadingWord_append {rest : List Char} (ends : rest.head?.any Lexicon.isIdentRest = false) :
    Text.leadingWord (name.text ++ rest) = name.text :=
  Text.leadingWord_append name.letters ends

open Pattern in
theorem foremost_ident {start : Cursor} {rest : List Char} (split : start.rest = name.text ++ rest)
    (ends : rest.head?.any Lexicon.isIdentRest = false) :
    Lexicon.ident.Foremost start (start.after name.text rest) := by
  rw [text, Cursor.after_cons]
  exact (foremost_one split name.starts).append (foremost_many rfl name.goesOn ends)

theorem head?_text (rest : List Char) : (name.text ++ rest).head?.any Text.isBlank = false :=
  isBlank_eq_false_of_isIdentRest (isIdentRest_of_isIdentStart name.starts)

end Name

/-! ## Elements -/

/-- What may stand behind an element: nothing, a comma, or the space before the closing brace. -/
def Trails (tail : List Char) : Prop :=
  tail = [] ∨ tail = [','] ∨ tail = [' ']

/-- The space, if there is one, stands before the comma. -/
theorem Trails.exists_split {tail : List Char} (trails : Trails tail) :
    ∃ space kept, tail = space ++ kept ∧ (∀ c ∈ space, c = ' ') ∧ (kept = [] ∨ kept = [',']) := by
  rcases trails with rfl | rfl | rfl
  · exact ⟨[], [], rfl, nofun, .inl rfl⟩
  · exact ⟨[], [','], rfl, nofun, .inr rfl⟩
  · exact ⟨[' '], [], rfl, fun c member => List.mem_singleton.mp member, .inl rfl⟩

namespace Element

open Pattern

/-- What is written behind the name of an element. -/
def valueText (element : Element) : List Char :=
  match element.value with
  | none => []
  | some value => " = ".toList ++ value.text

theorem text_eq (element : Element) : element.text = element.name.text ++ element.valueText :=
  rfl

variable {start : Cursor} {tail : List Char}

/-- The value of an element is read up to the comma behind it. -/
theorem exists_foremost_value (element : Element) (trails : Trails tail)
    (split : start.rest = element.valueText ++ tail) :
    ∃ blanked stop, blanks.Foremost start blanked ∧
      (opt (char '=' ++ manyBut [','])).Foremost blanked stop ∧
      stop.captures = start.captures ∧ (stop.rest = [] ∨ stop.rest = [',']) := by
  unfold valueText at split
  have unvalued : ∀ {cursor : Cursor}, cursor.rest = [] ∨ cursor.rest = [','] →
      (opt (char '=' ++ manyBut [','])).Foremost cursor cursor := by
    intro cursor left
    apply foremost_opt_of_nowhere
    have leaves : (char '=' ++ manyBut [',']).Leaves (· == ',') := .inl (leaves_char (by decide))
    apply outcomes_eq_nil leaves
    rcases left with none | comma
    · simp [none]
    · simp [comma]
  obtain ⟨space, kept, rfl, spaces, keeps⟩ := trails.exists_split
  cases valued : element.value with
  | none =>
    rw [valued] at split
    have blank : blanks.Foremost start (start.after space kept) := by
      refine foremost_many split (fun c member => ?_) ?_
      · rw [spaces c member]
        rfl
      · rcases keeps with rfl | rfl <;> rfl
    exact ⟨_, _, blank, unvalued keeps, rfl, keeps⟩
  | some value =>
    rw [valued] at split
    have blank : blanks.Foremost start
        (start.after [' '] ('=' :: ' ' :: (value.text ++ (space ++ kept)))) :=
      foremost_blanks_space split rfl
    have behind : ' ' :: (value.text ++ (space ++ kept)) = (' ' :: value.text ++ space) ++ kept := by
      simp
    have letters : ∀ c ∈ ' ' :: value.text ++ space, (!([','].contains c)) = true := by
      intro c member
      have other : c ≠ ',' := by
        rintro rfl
        rcases List.mem_append.mp member with inside | blank
        · rcases List.mem_cons.mp inside with same | word
          · exact absurd same (by decide)
          · exact absurd (value.letters _ word) (by decide)
        · exact absurd (spaces _ blank) (by decide)
      simpa using other
    have equals : (char '=').Foremost
        (start.after [' '] ('=' :: ' ' :: (value.text ++ (space ++ kept)))) _ := foremost_char rfl
    have assigned := equals.append (foremost_many behind letters
      (by rcases keeps with rfl | rfl <;> rfl))
    exact ⟨_, _, blank, assigned.opt, rfl, keeps⟩

/-- The name found on an element is its name, whatever stands behind the element. -/
theorem elementName?_append (element : Element) (trails : Trails tail) :
    Member.elementName? (element.text ++ tail) = some ⟨0, element.name.text⟩ := by
  have split : element.text ++ tail = element.name.text ++ (element.valueText ++ tail) := by
    rw [text_eq, List.append_assoc]
  have ends : (element.valueText ++ tail).head?.any Lexicon.isIdentRest = false := by
    unfold valueText
    cases element.value with
    | none => rcases trails with rfl | rfl | rfl <;> rfl
    | some value => rfl
  let start := Cursor.atStart (element.text ++ tail)
  have named : (capture .name Lexicon.ident).Foremost start
      (start.record .name (start.after element.name.text (element.valueText ++ tail))) :=
    (element.name.foremost_ident split ends).capture .name
  obtain ⟨blanked, stop, blank, value, kept, left⟩ :=
    @exists_foremost_value
      (start.record .name (start.after element.name.text (element.valueText ++ tail))) tail element
      trails rfl
  have opening : (atStart ++ blanks).Foremost start start := by
    refine (foremost_look rfl).append (foremost_blanks ?_)
    show (element.text ++ tail).head?.any Text.isBlank = false
    rw [split]
    exact element.name.head?_text _
  have ending : ∃ last, ((opt (char ',')).Foremost stop last) ∧ last.rest = [] ∧
      last.captures = stop.captures := by
    rcases left with none | comma
    · have leaves : (char ',').Leaves fun _ => false := leaves_char rfl
      exact ⟨stop, foremost_opt_of_nowhere (outcomes_eq_nil leaves (by simp [none])), none, rfl⟩
    · exact ⟨_, (foremost_char comma).opt, rfl, rfl⟩
  obtain ⟨last, comma, nothing, keptToo⟩ := ending
  have closing : blanks.Foremost last last := foremost_blanks (by rw [nothing]; rfl)
  have atLast : atEnd.Foremost last last := foremost_look (by rw [nothing]; rfl)
  have whole : Member.element.Foremost start last :=
    ((((((opening.append named).append blank).append value).append comma).append closing).append
      atLast)
  rw [Member.elementName?, matchStart?_of_foremost whole]
  show ((Cursor.atStart (element.text ++ tail)).matched last).part? .name = _
  rw [Cursor.part?_matched, keptToo, kept]
  exact congrArg some (@Cursor.excerpt_atStart _ [] element.name.text _ split)

/-- What is said about an element does not depend on what stands behind it. -/
theorem findings_append (element : Element) {other : List Char} (trails : Trails tail)
    (trailsToo : Trails other) :
    Member.findings .enum (element.text ++ tail) = Member.findings .enum (element.text ++ other) := by
  unfold Member.findings
  simp only [element.elementName?_append trails, element.elementName?_append trailsToo]

end Element

end TypeDeclaration

/-! ## Members on one line -/

theorem Finding.namings_shift (findings : List Finding) (offset : Int) :
    namings (findings.map fun finding => finding.shift offset) = namings findings := by
  rw [namings, List.filter_map, List.map_map]
  rfl

theorem Finding.namings_flatMap {α : Type} (items : List α) (found : α → List Finding) :
    namings (items.flatMap found) = items.flatMap fun item => namings (found item) := by
  rw [namings, List.filter_flatMap, List.map_flatMap]
  rfl

/-- What is said about members on one line is what is said about each of them. -/
theorem TypeScope.namings_memberDiagnostics {kind : TypeKind} {number : Nat} {inside : Excerpt}
    {diagnostics : List Diagnostic} (given : memberDiagnostics kind number inside = .ok diagnostics) :
    Diagnostic.namings diagnostics =
      ((inside.text.splitOn (if kind = .enum then ',' else ';')).filter
          fun text => !Text.isBlankText text).flatMap
        fun text => Finding.namings
          (Member.findings kind (if kind = .enum then text else text ++ [';'])) := by
  have texts : ((inside.splitOn (if kind = .enum then ',' else ';')).filter
        fun member => !Text.isBlankText member.text).map Excerpt.text =
      (inside.text.splitOn (if kind = .enum then ',' else ';')).filter
        fun text => !Text.isBlankText text := by
    rw [← Excerpt.map_text_layOut inside.start (inside.text.splitOn _), List.filter_map]
    rfl
  rw [Diagnostic.namings_of_onLines given, Finding.namings_flatMap, ← texts, List.flatMap_map]
  simp only [Finding.namings_shift]

namespace TypeDeclaration

theorem Name.not_mem (name : Name) {c : Char} (other : Lexicon.isIdentRest c = false) :
    c ∉ name.text := by
  intro member
  rw [name.letters c member] at other
  cases other

/-- A text with a name in it is not blank. -/
theorem Name.ink (name : Name) (before after : List Char) :
    (!Text.isBlankText (before ++ name.text ++ after)) = true := by
  rw [Bool.not_eq_true', Text.isBlankText, List.all_eq_false]
  have ink := isBlank_eq_false_of_isIdentRest (isIdentRest_of_isIdentStart name.starts)
  exact ⟨name.first, by simp [text], by rw [ink]; decide⟩

theorem Field.not_mem (field : Field) : ';' ∉ field.text := by
  rw [text, List.mem_append, List.mem_cons, not_or, not_or]
  exact ⟨field.type.not_mem (by decide), by decide, field.name.not_mem (by decide)⟩

theorem Element.not_mem (element : Element) : ',' ∉ element.text := by
  rw [text_eq, List.mem_append, not_or]
  refine ⟨element.name.not_mem (by decide), ?_⟩
  unfold valueText
  cases element.value with
  | none => exact List.not_mem_nil
  | some value =>
    rw [List.mem_append, not_or]
    exact ⟨by decide, value.not_mem (by decide)⟩

/-- What is said about an element on the line of its type. -/
theorem Element.namings_piece (element : Element) {tail other : List Char} (trails : Trails tail)
    (trailsToo : Trails other) :
    Finding.namings (Member.findings .enum (' ' :: (element.text ++ tail))) =
      Finding.namings (Member.findings .enum (element.text ++ other)) := by
  have space : ∀ c ∈ [' '], Source.isIndentation c := List.forall_mem_singleton.mpr rfl
  have moved := Member.namings_indented space .enum (element.text ++ tail)
  rwa [element.findings_append trails trailsToo] at moved

namespace Members

/-- The members between the braces of a type on one line. -/
def inside (members : Members) : List Char :=
  (members.texts.flatMap fun text => ' ' :: text) ++ [' ']

theorem splitOn_fields (fields : List Field) :
    (((fields.map fun field => field.text ++ [';']).flatMap fun text => ' ' :: text) ++ [' ']).splitOn
        ';' =
      (fields.map fun field => ' ' :: field.text) ++ [[' ']] := by
  induction fields with
  | nil => rfl
  | cons field fields inductionHypothesis =>
    have clean : ';' ∉ ' ' :: field.text :=
      List.not_mem_cons_of_ne_of_not_mem (by decide) field.not_mem
    have split : (((field :: fields).map fun field => field.text ++ [';']).flatMap
          fun text => ' ' :: text) ++ [' '] =
        (' ' :: field.text) ++ ';' :: (((fields.map fun field => field.text ++ [';']).flatMap
          fun text => ' ' :: text) ++ [' ']) := by
      simp
    rw [split, Text.splitOn_append_cons clean, inductionHypothesis]
    rfl

/-- Every piece between two semicolons is a field, but for the blank behind the last. -/
theorem namings_fields (kind : TypeKind) (fields : List Field) :
    (((((fields.map fun field => field.text ++ [';']).flatMap fun text => ' ' :: text) ++
        [' ']).splitOn ';').filter fun text => !Text.isBlankText text).flatMap
          (fun text => Finding.namings (Member.findings kind (text ++ [';']))) =
      (fields.map fun field => field.text ++ [';']).flatMap
        fun text => Finding.namings (Member.findings kind text) := by
  have named : (fields.map fun field => ' ' :: field.text).filter
      (fun text => !Text.isBlankText text) = fields.map fun field => ' ' :: field.text := by
    rw [List.filter_eq_self]
    intro text member
    obtain ⟨field, -, rfl⟩ := List.mem_map.mp member
    exact field.type.ink [' '] (' ' :: field.name.text)
  have space : ∀ c ∈ [' '], Source.isIndentation c := List.forall_mem_singleton.mpr rfl
  rw [splitOn_fields, List.filter_append, named, show [[' ']].filter _ = [] from rfl,
    List.append_nil, List.flatMap_map, List.flatMap_map]
  exact List.flatMap_congr fun field _ => Member.namings_indented space kind (field.text ++ [';'])

theorem namings_elements (first : Element) (others : List Element) :
    (((((elementTexts first others).flatMap fun text => ' ' :: text) ++ [' ']).splitOn ',').filter
        fun text => !Text.isBlankText text).flatMap
          (fun text => Finding.namings (Member.findings .enum text)) =
      (elementTexts first others).flatMap
        fun text => Finding.namings (Member.findings .enum text) := by
  have clean : ∀ element : Element, ',' ∉ ' ' :: element.text := fun element =>
    List.not_mem_cons_of_ne_of_not_mem (by decide) element.not_mem
  induction others generalizing first with
  | nil =>
    have whole : ',' ∉ ' ' :: (first.text ++ [' ']) := by
      rw [← List.cons_append, List.mem_append, not_or]
      exact ⟨clean first, by decide⟩
    have ink : (!Text.isBlankText (' ' :: (first.text ++ [' ']))) = true := by
      rw [Element.text_eq, List.append_assoc]
      exact first.name.ink [' '] (first.valueText ++ [' '])
    have piece := first.namings_piece (.inr (.inr rfl)) (.inl rfl)
    rw [List.append_nil] at piece
    simp only [elementTexts, List.flatMap_cons, List.flatMap_nil, List.append_nil,
      List.cons_append]
    rw [List.splitOn_eq_singleton whole,
      List.filter_cons_of_pos (p := fun text => !Text.isBlankText text) ink, List.filter_nil,
      List.flatMap_cons, List.flatMap_nil, List.append_nil, piece]
  | cons next others inductionHypothesis =>
    have split : ((elementTexts first (next :: others)).flatMap fun text => ' ' :: text) ++ [' '] =
        (' ' :: first.text) ++
          ',' :: (((elementTexts next others).flatMap fun text => ' ' :: text) ++ [' ']) := by
      simp [elementTexts]
    have ink : (!Text.isBlankText (' ' :: first.text)) = true :=
      first.name.ink [' '] first.valueText
    -- Between separators the element lacks the comma that it has on a line of its own.
    have piece := first.namings_piece (.inl rfl) (.inr (.inl rfl))
    rw [List.append_nil] at piece
    rw [split, Text.splitOn_append_cons (clean first),
      List.filter_cons_of_pos (p := fun text => !Text.isBlankText text) ink, List.flatMap_cons,
      inductionHypothesis, piece]
    rfl

theorem namings_inside (members : Members) {number start : Nat} {diagnostics : List Diagnostic}
    (given : TypeScope.memberDiagnostics members.kind number ⟨start, members.inside⟩ =
      .ok diagnostics) :
    Diagnostic.namings diagnostics =
      members.texts.flatMap fun text => Finding.namings (Member.findings members.kind text) := by
  rw [TypeScope.namings_memberDiagnostics given]
  cases members with
  | struct first others => exact namings_fields .struct (first :: others)
  | union first others => exact namings_fields .union (first :: others)
  | enum first others => exact namings_elements first others

end Members

end TypeDeclaration

end HouseStyle
