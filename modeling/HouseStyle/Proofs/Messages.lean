import HouseStyle.Proofs.Quoted

/-!
Contract: a message tells its kind.

Owns: reading the kind of a complaint off its message, and the arguments for which that works.
Does not own: which arguments complaints have.

The fixed texts of the templates differ soon: a few letters at the start of a message leave few
kinds, and a few at its end leave one. Three exceptions remain. Both complaints about names that
`typedef` gives have the same text, and the complaints about question marks and colons have the
texts of those about operators.

Main statement: `eq_of_message_eq`.
-/

namespace HouseStyle.Kind

/-! ## Reading messages -/

/-- One of the kinds whose messages start with the word of a type, by the text behind this word. -/
def byTypeStart : List Char → Option Kind
  | 'f' :: _ => some .fieldNameNotSnake
  | 'i' :: _ => some .instanceNotSnake
  | 't' :: 'a' :: _ => some .typeTagNotCamel
  | 't' :: 'y' :: 'p' :: 'e' :: 'd' :: 'e' :: 'f' :: ' ' :: 'm' :: _ => some .typedefNameMissing
  | 't' :: 'y' :: 'p' :: 'e' :: 'd' :: 'e' :: 'f' :: ' ' :: 'n' :: _ => some .typedefTypeName
  | 'e' :: _ => some .enumElementNotScreaming
  | _ => none

/-- One of the kinds whose messages start like a text. -/
def byStart : List Char → Option Kind
  | '"' :: _ => some .krElseSameLine
  | '\'' :: _ => some .uninitializedDeclaration
  | 'a' :: _ => some .allocNotCast
  | 'b' :: _ => some .blankLineIndented
  | 'c' :: 'a' :: _ => some .caseBlockBraces
  | 'c' :: 'l' :: _ => some .closingBraceOwnLine
  | 'c' :: 'o' :: _ => some .commaSpacing
  | 'd' :: _ => some .pragmaOnceAndGuard
  | 'e' :: 'n' :: 'u' :: 'm' :: ' ' :: text => byTypeStart text
  | 'e' :: 'x' :: _ => some .spaceAfterOpeningBrace
  | 'f' :: 'i' :: _ => some .missingEofNewline
  | 'f' :: 'o' :: _ => some .todoComment
  | 'f' :: 'u' :: _ => some .functionBraceOwnLine
  | 'h' :: _ => some .missingHeaderGuard
  | 'i' :: 'd' :: _ => some .macroBodyIdentNotSnake
  | 'i' :: 'n' :: 'c' :: _ => some .includeIndented
  | 'i' :: 'n' :: 'l' :: _ => some .inlineOneStatement
  | 'k' :: _ => some .keywordSpaceBeforeParen
  | 'l' :: 'a' :: _ => some .labelIndented
  | 'l' :: 'i' :: 'n' :: 'e' :: ' ' :: 'l' :: _ => some .lineTooLong
  | 'l' :: 'i' :: 'n' :: 'e' :: ' ' :: 's' :: _ => some .indentationMismatch
  | 'm' :: 'a' :: 'c' :: _ => some .macroBodyNoSpace
  | 'm' :: 'a' :: 'g' :: _ => some .magicNumber
  | 'm' :: 'i' :: _ => some .krSpaceBeforeBrace
  | 'm' :: 'o' :: _ => some .tooManyBlankLines
  | 'm' :: 'u' :: _ => some .multipleSpaces
  | 'n' :: _ => some .spaceBeforeSemicolon
  | 'o' :: 'p' :: 'e' :: 'n' :: text =>
    if text[21]? = some 'i' then some .allmanBraceOwnLine else some .krBraceSameLine
  | 'o' :: 'p' :: 'e' :: 'r' :: _ => some .operatorSpaceBefore
  | 'p' :: 'a' :: _ => some .paramLineNoComma
  | 'p' :: 'o' :: 'i' :: 'n' :: 't' :: 'e' :: 'r' :: ' ' :: '\'' :: _ => some .pointerCouldBeConst
  | 'p' :: 'o' :: 'i' :: 'n' :: 't' :: 'e' :: 'r' :: ' ' :: 'c' :: _ => some .pointerCastDetached
  | 'p' :: 'o' :: 'i' :: 'n' :: 't' :: 'e' :: 'r' :: ' ' :: 'm' :: _ => some .pointerFormat
  | 'p' :: 'r' :: _ => some .projectIncludesUnsorted
  | 'r' :: 'e' :: 'c' :: _ => some .recursiveInclusion
  | 'r' :: 'e' :: 't' :: _ => some .returnTypeSeparateLine
  | 's' :: 'p' :: _ => some .spaceBeforeCallParen
  | 's' :: 't' :: 'r' :: 'u' :: 'c' :: 't' :: ' ' :: text => byTypeStart text
  | 's' :: 'y' :: _ => some .systemIncludesUnsorted
  | 't' :: _ => some .typedefFuncPtrName
  | 'u' :: 'n' :: 'e' :: _ => some .nonAsciiCharacter
  | 'u' :: 'n' :: 'i' :: 'o' :: 'n' :: ' ' :: text => byTypeStart text
  | 'u' :: 's' :: _ => some .insecureFunction
  | 'v' :: _ => some .variableNotSnake
  | 'w' :: _ => some .trailingWhitespace
  | '\x7b' :: _ => some .inlineEmptyBraces
  | _ => none

/-- The kinds whose messages start like those of the given kind are told apart by their last
letters, the last of all first. -/
def byEnd (kind : Kind) (letters : List Char) : Kind :=
  match kind, letters with
  | .uninitializedDeclaration, 't' :: _ => .caseMissingBreak
  | .uninitializedDeclaration, 'n' :: 'e' :: _ => .colonNotAttached
  | .spaceAfterOpeningBrace, '\'' :: ')' :: _ => .inlineSpaceAfterParen
  | .spaceAfterOpeningBrace, '\'' :: '\x7d' :: '\'' :: ' ' :: 'r' :: _ => .spaceAfterClosingBrace
  | .spaceAfterOpeningBrace, '\'' :: '\x7d' :: '\'' :: ' ' :: 'e' :: _ => .spaceBeforeClosingBrace
  | .missingEofNewline, 's' :: _ => .trailingBlankLines
  | .functionBraceOwnLine, 'e' :: 's' :: _ => .functionNameNotModuleCamel
  | .functionBraceOwnLine, ')' :: _ => .macroBodyNotParenthesized
  | .inlineOneStatement, 's' :: 't' :: _ => .inlineControlStatement
  | .inlineOneStatement, 's' :: 'e' :: _ => .inlineNestedBraces
  | .labelIndented, 'e' :: _ => .labelNotSnake
  | .macroBodyNoSpace, 'E' :: _ => .macroNameNotScreaming
  | .macroBodyNoSpace, 'e' :: _ => .macroParamNotSnake
  | .krSpaceBeforeBrace, 'n' :: _ => .missingBlankAfterFunction
  | .tooManyBlankLines, 's' :: _ => .tooManyBlanksBetweenFunctions
  | .multipleSpaces, 'e' :: _ => .multipleDeclarations
  | .spaceBeforeSemicolon, '\'' :: ']' :: _ => .spaceInsideBrackets
  | .spaceBeforeSemicolon, '\'' :: '(' :: _ => .functionNameSpaceBeforeParen
  | .spaceBeforeSemicolon, 's' :: _ => .spaceInsideParens
  | .operatorSpaceBefore, 't' :: 'i' :: ' ' :: 'r' :: _ => .operatorSpaceAfter
  | .paramLineNoComma, ')' :: _ => .paramLineIndent
  | .paramLineNoComma, 'e' :: _ => .paramNameNotSnake
  | .systemIncludesUnsorted, ')' :: _ => .systemIncludesFirst
  | .variableNotSnake, '\'' :: _ => .variableEndsWithT
  | .instanceNotSnake, '\'' :: _ => .instanceEndsWithT
  | kind, _ => kind

/-- The kind that a message reads like. -/
def ofMessage (text : List Char) : Option Kind :=
  (byStart text).map fun kind => byEnd kind text.reverse

/-- The kind that the messages of a kind read like. -/
def alike : Kind → Kind
  | .ternaryQuestionSpaceBefore | .ternaryColonSpaceBefore => .operatorSpaceBefore
  | .ternaryQuestionSpaceAfter | .ternaryColonSpaceAfter => .operatorSpaceAfter
  | .typedefAliasName => .typedefFuncPtrName
  | kind => kind

/-- Fixed texts at the start and at the end of messages that tell their kind. -/
def Tell (kind : Kind) (opening ending : List Char) : Prop :=
  ∀ text, opening <+: text → ending <:+ text → ofMessage text = some kind

theorem tell_of_letters {kind first : Kind} {opening ending : List Char}
    (starts : ∀ rest, byStart (opening ++ rest) = some first)
    (ends : ∀ rest, byEnd first (ending.reverse ++ rest) = kind) : Tell kind opening ending := by
  rintro text ⟨rest, rfl⟩ ⟨front, same⟩
  rw [ofMessage, starts, ← same, List.reverse_append, Option.map_some, ends]

/-- Fixed texts, letter by letter. -/
theorem tell_toList {kind first : Kind} {opening ending : List Char}
    (starts : ∀ rest, byStart (opening ++ rest) = some first)
    (ends : ∀ rest, byEnd first (ending.reverse ++ rest) = kind) :
    Tell kind (String.ofList opening).toList (String.ofList ending).toList := by
  rw [String.toList_ofList, String.toList_ofList]
  exact tell_of_letters starts ends

/-- A fixed text at the start that leaves no other kind. -/
theorem tell_opening {kind : Kind} {opening ending : List Char}
    (starts : ∀ rest, byStart (opening ++ rest) = some kind)
    (ends : ∀ letters, byEnd kind letters = kind) :
    Tell kind (String.ofList opening).toList ending := by
  rw [String.toList_ofList]
  exact tell_of_letters starts fun rest => ends _

theorem tell_of_plain {kind : Kind} (plain : kind.startsWithWord = false) :
    Tell kind.alike kind.template.opening kind.template.ending := by
  cases kind
  case instanceNotSnake | instanceEndsWithT | typeTagNotCamel | typedefTypeName |
      typedefNameMissing | fieldNameNotSnake =>
    cases plain
  all_goals
    first
    | exact tell_opening (fun _ => rfl) fun _ => rfl
    | exact tell_toList (fun _ => rfl) fun _ => rfl

/-- The fixed texts around a type word and behind it. -/
theorem tell_word {kind first : Kind} {word opening ending : List Char}
    (starts : ∀ rest, byStart (word ++ opening ++ rest) = some first)
    (ends : ∀ rest, byEnd first (ending.reverse ++ rest) = kind) :
    Tell kind ((String.ofList word).toList ++ (String.ofList opening).toList)
      (String.ofList ending).toList := by
  rw [String.toList_ofList, String.toList_ofList, String.toList_ofList]
  exact tell_of_letters starts ends

/-- Behind a word of a type the fixed texts tell a kind whose messages start with such a word. -/
theorem exists_tell_of_worded {kind : Kind} (worded : kind.startsWithWord) :
    ∃ pieces : Template, kind.template = .word :: pieces ∧
      ∀ type : TypeKind, Tell kind.alike (type.word.toList ++ pieces.opening) pieces.ending := by
  cases kind
  case instanceNotSnake | instanceEndsWithT | typeTagNotCamel | typedefTypeName |
      typedefNameMissing | fieldNameNotSnake =>
    refine ⟨_, rfl, ?_⟩
    rintro (_ | _ | _) <;> exact tell_word (fun _ => rfl) fun _ => rfl
  all_goals cases worded

/-! ## Arguments -/

/-- Arguments that leave a message of a kind its own: the word of a type comes first where the
message starts with an argument, and an operator is neither a question mark nor a colon. -/
structure Telling (kind : Kind) (arguments : List Argument) : Prop where
  worded : kind.startsWithWord → ∃ (type : TypeKind) (others : List Argument),
    arguments = .word type.word :: others
  operator : kind ∈ [.operatorSpaceBefore, .operatorSpaceAfter] → ∃ symbol : String,
    arguments = [.word symbol] ∧ symbol ≠ "?" ∧ symbol ≠ ":"

theorem ofMessage_of_format {kind : Kind} {arguments : List Argument} {message : String}
    (formatted : kind.template.format arguments = .ok message) (telling : kind.Telling arguments) :
    ofMessage message.toList = some kind.alike := by
  cases worded : kind.startsWithWord with
  | false =>
    exact tell_of_plain worded _ (Template.isPrefix_of_format formatted)
      (Template.isSuffix_of_format formatted)
  | true =>
    obtain ⟨type, others, rfl⟩ := telling.worded worded
    obtain ⟨pieces, template, tell⟩ := exists_tell_of_worded worded
    rw [template] at formatted
    obtain ⟨rest, filled, rfl⟩ := Template.exists_of_fill_word formatted
    obtain ⟨parts, each, whole⟩ := Template.exists_parts_of_fill filled
    rw [String.toList_append, whole]
    exact tell type _ ((List.prefix_append_right_inj _).mpr (Template.isPrefix_of_parts each))
      ((Template.isSuffix_of_parts each).trans (List.suffix_append _ _))

/-! ## Kinds that read alike -/

/-- The complaints about the spaces on one side of operators, of question marks and of colons. -/
structure Spaced (general question colon : Kind) (closing : String) : Prop where
  operator : general ∈ [.operatorSpaceBefore, .operatorSpaceAfter]
  template : general.template = [.text "operator '", .word, .text closing]
  question : question.template = [.text ("operator '" ++ ("?" ++ closing))]
  colon : colon.template = [.text ("operator '" ++ (":" ++ closing))]

theorem spaced_before : Spaced .operatorSpaceBefore .ternaryQuestionSpaceBefore
    .ternaryColonSpaceBefore "' must have space before it" :=
  ⟨by decide, rfl, by decide +kernel, by decide +kernel⟩

theorem spaced_after : Spaced .operatorSpaceAfter .ternaryQuestionSpaceAfter
    .ternaryColonSpaceAfter "' must have space after it" :=
  ⟨by decide, rfl, by decide +kernel, by decide +kernel⟩

/-- A message of a single fixed text is this text. -/
theorem message_of_fixed {kind : Kind} {content message : String} {arguments : List Argument}
    (fixed : kind.template = [.text content])
    (formatted : kind.template.format arguments = .ok message) : message = content := by
  rw [fixed] at formatted
  cases arguments with
  | nil =>
    cases formatted
    simp [Template.written, Piece.written]
  | cons argument arguments => cases formatted

namespace Spaced

variable {general question colon kind other : Kind} {closing message : String}
  {arguments others : List Argument} (spaced : Spaced general question colon closing)
include spaced

/-- The kind of a complaint about the spaces beside a symbol. -/
theorem exists_symbol (among : kind ∈ [general, question, colon]) (telling : kind.Telling arguments)
    (formatted : kind.template.format arguments = .ok message) :
    ∃ symbol : String, message = "operator '" ++ (symbol ++ closing) ∧
      kind = if symbol = "?" then question else if symbol = ":" then colon else general := by
  simp only [List.mem_cons, List.not_mem_nil, or_false] at among
  rcases among with rfl | rfl | rfl
  · obtain ⟨symbol, rfl, noQuestion, noColon⟩ := telling.operator spaced.operator
    rw [spaced.template] at formatted
    obtain ⟨_, later, rfl⟩ := Template.exists_of_fill_text formatted
    obtain ⟨_, last, rfl⟩ := Template.exists_of_fill_word later
    obtain ⟨_, ended, rfl⟩ := Template.exists_of_fill_text last
    cases ended
    exact ⟨symbol, by rw [String.append_empty], by rw [if_neg noQuestion, if_neg noColon]⟩
  · exact ⟨"?", message_of_fixed spaced.question formatted, by rw [if_pos rfl]⟩
  · exact ⟨":", message_of_fixed spaced.colon formatted, by rw [if_neg (by decide), if_pos rfl]⟩

theorem eq_of_format (among : kind ∈ [general, question, colon])
    (amongToo : other ∈ [general, question, colon]) (telling : kind.Telling arguments)
    (tellingToo : other.Telling others) (formatted : kind.template.format arguments = .ok message)
    (formattedToo : other.template.format others = .ok message) : kind = other := by
  obtain ⟨symbol, written, rfl⟩ := spaced.exists_symbol among telling formatted
  obtain ⟨symbolToo, writtenToo, rfl⟩ := spaced.exists_symbol amongToo tellingToo formattedToo
  have same := congrArg String.toList (written.symm.trans writtenToo)
  simp only [String.toList_append, List.append_cancel_left_eq, List.append_cancel_right_eq,
    String.toList_inj] at same
  rw [same]

end Spaced

/-- The two kinds of complaints about the names that `typedef` gives. -/
def aliasNames : List Kind :=
  [.typedefFuncPtrName, .typedefAliasName]

/-- The kinds that read alike. -/
def lookalikes : List (List Kind) :=
  [[.operatorSpaceBefore, .ternaryQuestionSpaceBefore, .ternaryColonSpaceBefore],
    [.operatorSpaceAfter, .ternaryQuestionSpaceAfter, .ternaryColonSpaceAfter], aliasNames]

theorem cases_of_alike_eq {kind other : Kind} (same : kind.alike = other.alike) :
    kind = other ∨ ∃ group ∈ lookalikes, kind ∈ group ∧ other ∈ group := by
  have all : ∀ kind ∈ Kind.all, ∀ other ∈ Kind.all, kind.alike = other.alike →
      kind = other ∨ ∃ group ∈ lookalikes, kind ∈ group ∧ other ∈ group := by
    decide +kernel
  exact all kind kind.mem_all other other.mem_all same

/-- A message tells the kind of its complaint, unless the complaint is about a name that `typedef`
gives. -/
theorem eq_of_message_eq {kind other : Kind} {arguments others : List Argument} {message : String}
    (formatted : kind.template.format arguments = .ok message)
    (formattedToo : other.template.format others = .ok message) (telling : kind.Telling arguments)
    (tellingToo : other.Telling others) :
    kind = other ∨ kind ∈ aliasNames ∧ other ∈ aliasNames := by
  have here := ofMessage_of_format formatted telling
  rw [ofMessage_of_format formattedToo tellingToo, Option.some.injEq] at here
  rcases cases_of_alike_eq here.symm with same | ⟨group, member, among, amongToo⟩
  · exact .inl same
  · simp only [lookalikes, List.mem_cons, List.not_mem_nil, or_false] at member
    rcases member with rfl | rfl | rfl
    · exact .inl (spaced_before.eq_of_format among amongToo telling tellingToo formatted
        formattedToo)
    · exact .inl (spaced_after.eq_of_format among amongToo telling tellingToo formatted
        formattedToo)
    · exact .inr ⟨among, amongToo⟩

end HouseStyle.Kind
