import HouseStyle.Proofs.TypeDeclaration.Members

/-!
Contract: the two layouts of a declaration of a type, and the rows that they are written in.

Owns: declarations of types, their text on one line and on several, the head that is read off their
first row, and the rows with their braces.
Does not own: what a scan says on the rows.

Both layouts start with the same text, and the pattern for the start of a type reads it up to the
brace, whatever stands behind the brace. Every other row starts with a name or with the closing brace.

Main statements: `exists_braceStart`, and the rows `row_oneLine` and `row_lines`.
-/

namespace HouseStyle

/-- A declaration of a type with its members, and what it is given a name by. -/
structure TypeDeclaration where
  isTypedef : Bool
  tag : Option TypeDeclaration.Name
  members : TypeDeclaration.Members
  name : Option TypeDeclaration.Name

namespace TypeDeclaration

variable (declaration : TypeDeclaration)

/-! ## Layouts -/

def typedefText : List Char :=
  if declaration.isTypedef then "typedef ".toList else []

/-- The text before the tag. -/
def keyword : List Char :=
  declaration.typedefText ++ declaration.members.kind.word.toList ++ [' ']

def tagText : List Char :=
  match declaration.tag with
  | none => []
  | some tag => tag.text ++ [' ']

/-- The text up to the opening brace. -/
def head : List Char :=
  declaration.keyword ++ declaration.tagText ++ ['{']

def nameText : List Char :=
  match declaration.name with
  | none => []
  | some name => name.text

/-- The text from the closing brace on, with the given number of spaces behind the brace. -/
def ending (spaces : Nat) : List Char :=
  '}' :: (List.replicate spaces ' ' ++ declaration.nameText ++ [';'])

/-- The declaration on one line. -/
def oneLine (spaces : Nat) : List Char :=
  declaration.head ++ declaration.members.inside ++ declaration.ending spaces

/-- The row of a member, one step inside its type. -/
def memberRow (text : List Char) : List Char :=
  List.replicate indentUnit ' ' ++ text

/-- The declaration with every member on a line of its own. -/
def lines (spaces : Nat) : List (List Char) :=
  declaration.head :: (declaration.members.texts.map memberRow ++ [declaration.ending spaces])

/-! ## The head -/

/-- What a scan remembers of the declaration from its first line on. -/
def typeHead : TypeHead :=
  { kind := declaration.members.kind
    isTypedef := declaration.isTypedef
    tag := declaration.tag.map Name.text
    tagLine := 1
    tagColumn := if declaration.tag.isSome then declaration.keyword.length else 0 }

/-- The parts that are recorded on the way to the tag. -/
def keywordParts : List (Part × Span) :=
  (.keyword, ⟨declaration.typedefText.length,
      declaration.typedefText.length + declaration.members.kind.word.toList.length⟩) ::
    if declaration.isTypedef then [(.typedefWord, ⟨0, declaration.typedefText.length⟩)] else []

/-- The parts that are recorded on the way through the head. -/
def headParts : List (Part × Span) :=
  (match declaration.tag with
    | none => []
    | some tag =>
      [(.tag, ⟨declaration.keyword.length, declaration.keyword.length + tag.text.length⟩)]) ++
    declaration.keywordParts

section Head

open Pattern

variable {start : Cursor} {more : List Char}

theorem foremost_kindWord (kind : TypeKind) (split : start.rest = kind.word.toList ++ more) :
    (oneOf ["struct", "enum", "union"]).Foremost start (start.after kind.word.toList more) := by
  apply foremost_oneOf _ split
  · rw [split]
    cases kind <;> simp [TypeKind.word]
  · cases kind <;> simp [TypeKind.word]

theorem foremost_typedefText (kind : TypeKind) (more : List Char) :
    ∃ stop, (opt (capture .typedefWord (word "typedef" ++ gap))).Foremost
        (.atStart (declaration.typedefText ++ (kind.word.toList ++ more))) stop ∧
      stop.rest = kind.word.toList ++ more ∧ stop.position = declaration.typedefText.length ∧
      stop.captures =
        if declaration.isTypedef then [(.typedefWord, ⟨0, declaration.typedefText.length⟩)] else [] := by
  unfold typedefText
  cases declaration.isTypedef with
  | true =>
    have named : (word "typedef").Foremost
        (.atStart ("typedef ".toList ++ (kind.word.toList ++ more))) _ :=
      @foremost_word _ (' ' :: (kind.word.toList ++ more)) "typedef" rfl
    have blank : gap.Foremost _ _ := @foremost_several Text.isBlank
      ((Cursor.atStart ("typedef ".toList ++ (kind.word.toList ++ more))).after "typedef".toList
        (' ' :: (kind.word.toList ++ more))) [] (kind.word.toList ++ more) ' ' rfl rfl
      (fun _ member => absurd member List.not_mem_nil) (by cases kind <;> rfl)
    exact ⟨_, ((named.append blank).capture .typedefWord).opt, rfl, rfl, rfl⟩
  | false =>
    refine ⟨_, foremost_opt_of_nowhere ?_, rfl, rfl, rfl⟩
    rw [List.eq_nil_iff_forall_not_mem]
    intro stop member
    obtain ⟨inside, reached, -⟩ := mem_outcomes_capture.mp member
    obtain ⟨between, early, -⟩ := mem_outcomes_append.mp reached
    obtain ⟨rest, split, -⟩ := mem_outcomes_word.mp early
    cases kind <;> exact absurd split (by simp [Cursor.atStart, TypeKind.word])

theorem foremost_tagText (split : start.rest = declaration.tagText ++ '{' :: more) :
    ∃ middle stop, (opt (capture .tag Lexicon.ident)).Foremost start middle ∧
      blanks.Foremost middle stop ∧ stop.rest = '{' :: more ∧
      stop.position = start.position + declaration.tagText.length ∧
      stop.captures =
        (match declaration.tag with
          | none => []
          | some tag => [(.tag, ⟨start.position, start.position + tag.text.length⟩)]) ++
        start.captures := by
  unfold tagText at split ⊢
  cases tagged : declaration.tag with
  | none =>
    rw [tagged] at split
    refine ⟨start, start, foremost_opt_of_nowhere ?_, foremost_blanks ?_, split, rfl, rfl⟩
    · rw [List.eq_nil_iff_forall_not_mem]
      intro other member
      obtain ⟨inside, reached, -⟩ := mem_outcomes_capture.mp member
      obtain ⟨between, early, -⟩ := mem_outcomes_append.mp reached
      obtain ⟨c, rest, here, starts, -⟩ := mem_outcomes_one.mp early
      cases split.symm.trans here
      exact absurd starts (by decide)
    · rw [split]
      rfl
  | some tag =>
    rw [tagged, List.append_assoc] at split
    have named := (tag.foremost_ident split rfl).capture .tag
    have blank : blanks.Foremost (start.record .tag (start.after tag.text (' ' :: '{' :: more))) _ :=
      foremost_blanks_space rfl rfl
    exact ⟨_, _, named.opt, blank, rfl, by rw [List.length_append, ← Nat.add_assoc]; rfl, rfl⟩

/-- The words before the tag are read up to the tag. -/
theorem foremost_keyword {behind : List Char} (ink : behind.head?.any Text.isBlank = false) :
    ∃ stop, (atStart ++ blanks ++ opt (capture .typedefWord (word "typedef" ++ gap)) ++
        capture .keyword (oneOf ["struct", "enum", "union"]) ++ boundary ++ blanks).Foremost
          (.atStart (declaration.keyword ++ behind)) stop ∧
      stop.rest = behind ∧ stop.position = declaration.keyword.length ∧
      stop.captures = declaration.keywordParts := by
  obtain ⟨typed, typedef, rest, position, captures⟩ :=
    declaration.foremost_typedefText declaration.members.kind (' ' :: behind)
  have split : declaration.keyword ++ behind =
      declaration.typedefText ++ (declaration.members.kind.word.toList ++ ' ' :: behind) := by
    simp [keyword]
  have inked : (declaration.keyword ++ behind).head?.any Text.isBlank = false := by
    rw [split, typedefText]
    cases declaration.isTypedef <;> cases declaration.members.kind <;> rfl
  rw [← split] at typedef
  let named := typed.record .keyword
    (typed.after declaration.members.kind.word.toList (' ' :: behind))
  have opening : (atStart ++ blanks).Foremost (.atStart (declaration.keyword ++ behind)) _ :=
    (foremost_look rfl).append (foremost_blanks inked)
  have word : (capture .keyword (oneOf ["struct", "enum", "union"])).Foremost typed named :=
    (foremost_kindWord _ rest).capture .keyword
  -- A word ends where the space behind the kind starts.
  have edge : boundary.Foremost named named := by
    apply foremost_look
    show ((declaration.members.kind.word.toList.getLast?.or typed.previous).any Text.isWord !=
      Text.isWord ' ') = true
    cases declaration.members.kind <;> rfl
  have blank : blanks.Foremost named (named.after [' '] behind) := foremost_blanks_space rfl ink
  refine ⟨_, ((((opening.append typedef).append word).append edge).append blank), rfl, ?_, ?_⟩
  · show typed.position + declaration.members.kind.word.toList.length + 1 = _
    rw [position, keyword, List.length_append, List.length_append]
    rfl
  · show (.keyword, ⟨typed.position, typed.position + _⟩) :: typed.captures = _
    rw [position, captures]
    rfl

/-- The head is read up to its brace, whatever stands behind it. -/
theorem exists_foremost_braceStart (more : List Char) :
    ∃ stop, Member.braceStart.Foremost (.atStart (declaration.head ++ more)) stop ∧
      stop.position = declaration.head.length ∧ stop.captures = declaration.headParts := by
  have split : declaration.head ++ more =
      declaration.keyword ++ (declaration.tagText ++ '{' :: more) := by
    simp [head]
  have ink : (declaration.tagText ++ '{' :: more).head?.any Text.isBlank = false := by
    unfold tagText
    cases declaration.tag with
    | none => rfl
    | some tag =>
      rw [List.append_assoc]
      exact tag.head?_text _
  obtain ⟨worded, words, rest, position, captures⟩ := declaration.foremost_keyword ink
  obtain ⟨tagged, last, tag, blank, left, lastPosition, lastCaptures⟩ :=
    declaration.foremost_tagText rest
  rw [split]
  refine ⟨_, ((words.append tag).append blank).append (foremost_char left), ?_, ?_⟩
  · show last.position + 1 = _
    rw [lastPosition, position, head, List.length_append, List.length_append]
    rfl
  · show last.captures = _
    rw [lastCaptures, position, captures]
    rfl

end Head

/-- The start of the declaration is read as it is, whatever stands behind its brace. -/
theorem exists_braceStart (more : List Char) :
    ∃ found, Member.braceStart.matchStart? (declaration.head ++ more) = some found ∧
      found.stop = declaration.head.length ∧
      TypeScope.headOf? 0 found = some declaration.typeHead := by
  obtain ⟨stop, foremost, position, captures⟩ := declaration.exists_foremost_braceStart more
  let start := Cursor.atStart (declaration.head ++ more)
  have part : ∀ part, (start.matched stop).part? part =
      (declaration.headParts.lookup part).map start.excerpt := by
    intro part
    rw [Cursor.part?_matched, captures]
  have keyword : (start.matched stop).part? .keyword =
      some ⟨declaration.typedefText.length, declaration.members.kind.word.toList⟩ := by
    have recorded : declaration.headParts.lookup .keyword =
        some ⟨declaration.typedefText.length,
          declaration.typedefText.length + declaration.members.kind.word.toList.length⟩ := by
      unfold headParts
      cases declaration.tag <;> rfl
    have split : declaration.head ++ more = declaration.typedefText ++
        declaration.members.kind.word.toList ++ (' ' :: (declaration.tagText ++ '{' :: more)) := by
      simp [head, TypeDeclaration.keyword]
    rw [part, recorded]
    exact congrArg some (Cursor.excerpt_atStart split)
  have typedefWord : ((start.matched stop).part? .typedefWord).isSome = declaration.isTypedef := by
    rw [part, Option.isSome_map]
    unfold headParts keywordParts
    cases declaration.tag <;> cases declaration.isTypedef <;> rfl
  have tag : (start.matched stop).part? .tag =
      declaration.tag.map fun tag => ⟨declaration.keyword.length, tag.text⟩ := by
    rw [part]
    unfold headParts keywordParts
    cases tagged : declaration.tag with
    | none => cases declaration.isTypedef <;> rfl
    | some tag =>
      have split : declaration.head ++ more =
          declaration.keyword ++ tag.text ++ (' ' :: '{' :: more) := by
        simp [head, tagText, tagged]
      exact congrArg some (Cursor.excerpt_atStart split)
  refine ⟨_, Pattern.matchStart?_of_foremost foremost, ?_, ?_⟩
  · have reaches := Pattern.reaches_of_mem_outcomes (List.mem_of_head? foremost)
    exact (Cursor.Reaches.stop_excerpt (.refl _) reaches).trans position
  · unfold TypeScope.headOf? typeHead
    rw [keyword, tag, typedefWord]
    cases declaration.tag <;> cases declaration.members.kind <;> rfl

/-- A line with an opening brace does not leave its type to wait for one. -/
theorem bareStart_eq_none {text : List Char} (brace : '{' ∈ text) :
    Member.bareStart.matchStart? text = none := by
  rw [← Option.not_isSome_iff_eq_none]
  intro fits
  obtain ⟨stop, reached⟩ := Pattern.fits_iff.mp fits
  obtain ⟨between, early, ended⟩ := Pattern.mem_outcomes_append.mp reached
  obtain ⟨consumed, split, -, without⟩ :=
    Pattern.reachesWithout_of_mem_outcomes (show Member.typeStart.avoids '{' by decide) early
  obtain ⟨nothing, rfl⟩ := Pattern.mem_outcomes_look.mp ended
  rw [show text = consumed ++ stop.rest from split, List.mem_append, or_iff_right without] at brace
  rw [Bool.or_eq_true, beq_iff_eq, beq_iff_eq] at nothing
  rcases nothing with none | feed
  · rw [none] at brace
    exact absurd brace List.not_mem_nil
  · rw [feed] at brace
    exact absurd brace (by decide)

/-! ## Texts without braces -/

def Unbraced (text : List Char) : Prop :=
  ∀ c ∈ text, c ≠ '{' ∧ c ≠ '}'

namespace Unbraced

variable {text more : List Char}

theorem append (first : Unbraced text) (second : Unbraced more) : Unbraced (text ++ more) :=
  List.forall_mem_append.mpr ⟨first, second⟩

theorem cons {c : Char} (plain : c ≠ '{' ∧ c ≠ '}') (behind : Unbraced text) :
    Unbraced (c :: text) :=
  List.forall_mem_cons.mpr ⟨plain, behind⟩

theorem of_contains (plain : !(text.contains '{' || text.contains '}')) : Unbraced text := by
  rw [Bool.not_eq_true', Bool.or_eq_false_iff] at plain
  intro c member
  constructor
  · rintro rfl
    rw [List.contains_iff_mem.mpr member] at plain
    cases plain.1
  · rintro rfl
    rw [List.contains_iff_mem.mpr member] at plain
    cases plain.2

theorem excess (plain : Unbraced text) : Text.excess '{' '}' text = 0 :=
  Text.excess_of_not_mem (fun member => (plain _ member).1 rfl) fun member => (plain _ member).2 rfl

end Unbraced

theorem Name.unbraced (name : Name) : Unbraced name.text := by
  intro c member
  constructor
  · rintro rfl
    exact name.not_mem (by decide) member
  · rintro rfl
    exact name.not_mem (by decide) member

/-! ## The texts of members -/

/-- The text of a member on a line: a name first, and no brace. -/
structure MemberText (text : List Char) : Prop extends DeclarationText text where
  named : ∃ (name : Name) (rest : List Char), text = name.text ++ rest ∧
    rest.head?.any Lexicon.isIdentRest = false
  unbraced : Unbraced text

theorem Field.isMemberText (field : Field) : MemberText (field.text ++ [';']) where
  toDeclarationText :=
    (field.type.isText.append (field.name.isText.cons rfl)).append (.of_all rfl)
  named := ⟨field.type, ' ' :: (field.name.text ++ [';']), by simp [text], rfl⟩
  unbraced :=
    (field.type.unbraced.append (field.name.unbraced.cons (by decide))).append (.of_contains rfl)

/-- The value of an element is written in declaration letters, and no name goes on into it. -/
theorem Element.valueText_spec (element : Element) :
    DeclarationText element.valueText ∧ Unbraced element.valueText ∧
      element.valueText.head?.any Lexicon.isIdentRest = false := by
  unfold valueText
  cases element.value with
  | none => exact ⟨.of_all rfl, .of_contains rfl, rfl⟩
  | some value =>
    exact ⟨(DeclarationText.of_all (by decide)).append value.isText,
      (Unbraced.of_contains (by decide)).append value.unbraced, rfl⟩

theorem Element.isMemberText (element : Element) {tail : List Char}
    (trails : tail = [] ∨ tail = [',']) : MemberText (element.text ++ tail) where
  toDeclarationText := by
    have ending : DeclarationText tail := by
      rcases trails with rfl | rfl <;> exact .of_all rfl
    exact (element.name.isText.append element.valueText_spec.1).append ending
  named := by
    refine ⟨element.name, element.valueText ++ tail, by rw [text_eq, List.append_assoc], ?_⟩
    have ends := element.valueText_spec.2.2
    cases value : element.valueText with
    | nil => rcases trails with rfl | rfl <;> rfl
    | cons c others => rwa [value] at ends
  unbraced := by
    have ending : Unbraced tail := by
      rcases trails with rfl | rfl <;> exact .of_contains rfl
    exact (element.name.unbraced.append element.valueText_spec.2.1).append ending

theorem isMemberText_of_mem_elementTexts (first : Element) (others : List Element) :
    ∀ text ∈ elementTexts first others, MemberText text := by
  induction others generalizing first with
  | nil =>
    have last := first.isMemberText (.inl rfl)
    rw [List.append_nil] at last
    exact List.forall_mem_singleton.mpr last
  | cons next others inductionHypothesis =>
    exact List.forall_mem_cons.mpr ⟨first.isMemberText (.inr rfl), inductionHypothesis next⟩

theorem Members.isMemberText (members : Members) : ∀ text ∈ members.texts, MemberText text := by
  cases members with
  | struct first others | union first others =>
    intro text member
    obtain ⟨field, -, rfl⟩ := List.mem_map.mp member
    exact field.isMemberText
  | enum first others => exact isMemberText_of_mem_elementTexts first others

/-! ## Rows -/

/-- A member starts with a name and not with a word that would make it something else. -/
theorem MemberText.exists_leadingWord {text : List Char} (member : MemberText text) :
    ∃ name : Name, Text.leadingWord (Text.trimLeft (memberRow text)) = name.text := by
  obtain ⟨name, rest, rfl, ends⟩ := member.named
  have word := name.leadingWord_append ends
  have blank : ∀ c ∈ List.replicate indentUnit ' ', Text.isBlank c :=
    List.forall_mem_replicate.mpr (.inr rfl)
  refine ⟨name, ?_⟩
  rw [memberRow, Text.leadingWord_trimLeft blank (by rw [word]; exact List.cons_ne_nil _ _), word]

theorem MemberText.row {text : List Char} (member : MemberText text) :
    DeclarationRow (memberRow text) where
  toDeclarationText := (DeclarationText.of_all rfl).append member.toDeclarationText
  inked := by
    obtain ⟨name, rest, rfl, -⟩ := member.named
    exact ⟨name.first, by simp [memberRow, Name.text],
      isBlank_eq_false_of_isIdentRest (isIdentRest_of_isIdentStart name.starts)⟩
  uncontrolled := by
    obtain ⟨name, word⟩ := member.exists_leadingWord
    have among : controlWords ⊆ openingWords := by decide
    rw [word]
    exact fun control => name.plain (among control)

theorem MemberText.not_typeWord {text : List Char} (member : MemberText text) :
    Text.leadingWord (Text.trimLeft (memberRow text)) ∉ typeWords := by
  obtain ⟨name, word⟩ := member.exists_leadingWord
  have among : typeWords ⊆ openingWords := by decide
  rw [word]
  exact fun opens => name.plain (among opens)

theorem MemberText.head?_trim {text : List Char} (member : MemberText text) :
    (Text.trim (memberRow text)).head? ≠ some '}' := by
  obtain ⟨name, word⟩ := member.exists_leadingWord
  exact Text.head?_trim_ne (by rw [word]; exact List.cons_ne_nil _ _) (by decide)

theorem isText_head : DeclarationText declaration.head := by
  have typedef : DeclarationText declaration.typedefText := by
    unfold typedefText
    cases declaration.isTypedef <;> exact .of_all (by decide)
  have word : DeclarationText declaration.members.kind.word.toList := by
    cases declaration.members.kind <;> exact .of_all (by decide)
  have tag : DeclarationText declaration.tagText := by
    unfold tagText
    cases declaration.tag with
    | none => exact .of_all rfl
    | some tag => exact tag.isText.append (.of_all rfl)
  exact (((typedef.append word).append (.of_all rfl)).append tag).append (.of_all rfl)

theorem isText_ending (spaces : Nat) : DeclarationText (declaration.ending spaces) := by
  have blank : DeclarationText (List.replicate spaces ' ') :=
    .of_all (List.all_eq_true.mpr (List.forall_mem_replicate.mpr (.inr rfl)))
  have name : DeclarationText declaration.nameText := by
    unfold nameText
    cases declaration.name with
    | none => exact .of_all rfl
    | some name => exact name.isText
  exact ((blank.append name).append (.of_all rfl)).cons rfl

/-- A row that starts with the declaration starts with the word of a type. -/
theorem leadingWord_head (more : List Char) :
    Text.leadingWord (Text.trimLeft (declaration.head ++ more)) ∈ typeWords := by
  obtain ⟨found, fits, -⟩ := declaration.exists_braceStart more
  exact Member.leadingWord_of_fits (Option.isSome_iff_exists.mpr ⟨found, fits⟩)

theorem head?_trim_of_head (more : List Char) :
    (Text.trim (declaration.head ++ more)).head? ≠ some '}' := by
  refine Text.head?_trim_ne (fun nothing => ?_) (by decide)
  have word := declaration.leadingWord_head more
  rw [nothing] at word
  exact absurd word (by decide)

/-- The first row of either layout. -/
theorem row_of_head {more : List Char} (text : DeclarationText more) :
    DeclarationRow (declaration.head ++ more) where
  toDeclarationText := declaration.isText_head.append text
  inked := ⟨'{', by simp [head], rfl⟩
  uncontrolled := fun control => by
    have apart : ∀ word ∈ typeWords, word ∉ controlWords := by decide
    exact apart _ (declaration.leadingWord_head more) control

theorem row_head : DeclarationRow declaration.head := by
  have row := @row_of_head declaration [] (.of_all rfl)
  rwa [List.append_nil] at row

theorem row_ending (spaces : Nat) : DeclarationRow (declaration.ending spaces) where
  toDeclarationText := declaration.isText_ending spaces
  inked := ⟨'}', List.mem_cons_self, rfl⟩
  uncontrolled := by
    show [] ∉ controlWords
    decide

theorem isText_inside (members : Members) : DeclarationText members.inside := by
  refine (DeclarationText.flatMap fun text member => ?_).append (.of_all rfl)
  exact (members.isMemberText text member).toDeclarationText.cons rfl

/-! ### Braces -/

theorem unbraced_front : Unbraced (declaration.keyword ++ declaration.tagText) := by
  have typedef : Unbraced declaration.typedefText := by
    unfold typedefText
    cases declaration.isTypedef <;> exact .of_contains (by decide)
  have word : Unbraced declaration.members.kind.word.toList := by
    cases declaration.members.kind <;> exact .of_contains (by decide)
  have tag : Unbraced declaration.tagText := by
    unfold tagText
    cases declaration.tag with
    | none => exact .of_contains rfl
    | some tag => exact tag.unbraced.append (.of_contains rfl)
  exact ((typedef.append word).append (.of_contains rfl)).append tag

theorem unclosed_head : '}' ∉ declaration.head := by
  rw [head, List.mem_append, not_or]
  exact ⟨fun member => (declaration.unbraced_front _ member).2 rfl, by decide⟩

theorem unbraced_inside (members : Members) : Unbraced members.inside := by
  refine Unbraced.append (fun c member => ?_) (.of_contains rfl)
  obtain ⟨text, among, inside⟩ := List.mem_flatMap.mp member
  rcases List.mem_cons.mp inside with rfl | later
  · decide
  · exact (members.isMemberText text among).unbraced c later

theorem unbraced_behind (spaces : Nat) :
    Unbraced (List.replicate spaces ' ' ++ declaration.nameText ++ [';']) := by
  have blank : Unbraced (List.replicate spaces ' ') :=
    List.forall_mem_replicate.mpr (.inr (by decide))
  have name : Unbraced declaration.nameText := by
    unfold nameText
    cases declaration.name with
    | none => exact .of_contains rfl
    | some name => exact name.unbraced
  exact (blank.append name).append (.of_contains rfl)

theorem excess_head : Text.excess '{' '}' declaration.head = 1 := by
  rw [head, Text.excess_append, declaration.unbraced_front.excess]
  rfl

theorem excess_ending (spaces : Nat) : Text.excess '{' '}' (declaration.ending spaces) = -1 := by
  rw [ending, ← List.singleton_append, Text.excess_append, (declaration.unbraced_behind spaces).excess]
  rfl

theorem excess_oneLine (spaces : Nat) : Text.excess '{' '}' (declaration.oneLine spaces) = 0 := by
  rw [oneLine, Text.excess_append, Text.excess_append, declaration.excess_head,
    (unbraced_inside declaration.members).excess, declaration.excess_ending]
  rfl

theorem excess_memberRow {text : List Char} (member : MemberText text) :
    Text.excess '{' '}' (memberRow text) = 0 := by
  rw [memberRow, Text.excess_append, member.unbraced.excess]
  rfl

/-! ### The row of the one layout -/

theorem oneLine_eq (spaces : Nat) : declaration.oneLine spaces =
    declaration.head ++ (declaration.members.inside ++ declaration.ending spaces) :=
  List.append_assoc ..

theorem row_oneLine (spaces : Nat) : DeclarationRow (declaration.oneLine spaces) := by
  rw [oneLine_eq]
  exact declaration.row_of_head
    ((isText_inside declaration.members).append (declaration.isText_ending spaces))

theorem head?_trim_oneLine (spaces : Nat) :
    (Text.trim (declaration.oneLine spaces)).head? ≠ some '}' := by
  rw [oneLine_eq]
  exact declaration.head?_trim_of_head _

/-- The place of the closing brace. -/
def bodyStop : Nat :=
  (declaration.head ++ declaration.members.inside).length

theorem findLast?_oneLine (spaces : Nat) :
    Text.findLast? '}' (declaration.oneLine spaces) = some declaration.bodyStop :=
  Text.findLast?_append_cons (fun member => (declaration.unbraced_behind spaces _ member).2 rfl) _

theorem slice_oneLine (spaces : Nat) :
    Text.slice (declaration.oneLine spaces) declaration.head.length declaration.bodyStop =
      declaration.members.inside := by
  rw [Text.slice, oneLine, bodyStop, List.take_left, List.drop_left]

theorem drop_oneLine (spaces : Nat) :
    (declaration.oneLine spaces).drop declaration.bodyStop = declaration.ending spaces := by
  rw [oneLine, bodyStop, List.drop_left]

theorem length_head_le : declaration.head.length ≤ declaration.bodyStop := by
  rw [bodyStop, List.length_append]
  exact Nat.le_add_right _ _

/-! ### The rows of the other layout -/

theorem row_lines (spaces : Nat) : ∀ raw ∈ declaration.lines spaces, DeclarationRow raw := by
  refine List.forall_mem_cons.mpr ⟨declaration.row_head, List.forall_mem_append.mpr
    ⟨fun raw member => ?_, List.forall_mem_singleton.mpr (declaration.row_ending spaces)⟩⟩
  obtain ⟨text, among, rfl⟩ := List.mem_map.mp member
  exact (declaration.members.isMemberText text among).row

end TypeDeclaration

end HouseStyle
