import HouseStyle.Diagnostic.Template

/-!
Contract: the catalogue of everything the checker can complain about.

Owns: the kinds, and for each its printed name, its severity and its message template.
Does not own: the rules that find them.
-/

namespace HouseStyle

/-- How grave a complaint is. -/
inductive Severity where
  | error
  | warning
deriving DecidableEq, Repr

def Severity.name : Severity → String
  | .error => "ERROR"
  | .warning => "WARNING"

/-- What the checker can complain about. -/
inductive Kind where
  -- whole files
  | recursiveInclusion
  | systemIncludesFirst
  | systemIncludesUnsorted
  | projectIncludesUnsorted
  | includeIndented
  | pragmaOnceAndGuard
  | missingHeaderGuard
  | missingEofNewline
  | trailingBlankLines
  | missingBlankAfterFunction
  | tooManyBlanksBetweenFunctions
  | pointerCouldBeConst
  -- lines and their layout
  | lineTooLong
  | tooManyBlankLines
  | blankLineIndented
  | trailingWhitespace
  | nonAsciiCharacter
  | todoComment
  | indentationMismatch
  -- spacing
  | spaceBeforeSemicolon
  | spaceInsideParens
  | spaceInsideBrackets
  | commaSpacing
  | multipleSpaces
  | operatorSpaceBefore
  | operatorSpaceAfter
  | ternaryQuestionSpaceBefore
  | ternaryQuestionSpaceAfter
  | ternaryColonSpaceBefore
  | ternaryColonSpaceAfter
  | keywordSpaceBeforeParen
  | spaceBeforeCallParen
  | functionNameSpaceBeforeParen
  -- pointers and allocation
  | pointerFormat
  | pointerCastDetached
  | allocNotCast
  -- safety
  | insecureFunction
  | magicNumber
  -- macro definitions
  | macroNameNotScreaming
  | macroParamNotSnake
  | macroBodyIdentNotSnake
  | macroBodyNoSpace
  | macroBodyNotParenthesized
  -- functions and parameters
  | functionNameNotModuleCamel
  | paramNameNotSnake
  | paramLineIndent
  | paramLineNoComma
  | returnTypeSeparateLine
  | functionBraceOwnLine
  -- labels
  | labelIndented
  | labelNotSnake
  | colonNotAttached
  -- braces
  | allmanBraceOwnLine
  | krSpaceBeforeBrace
  | krBraceSameLine
  | krElseSameLine
  | closingBraceOwnLine
  | spaceAfterClosingBrace
  -- switch cases
  | caseBlockBraces
  | caseMissingBreak
  -- one-line blocks
  | inlineEmptyBraces
  | inlineNestedBraces
  | inlineOneStatement
  | inlineControlStatement
  | inlineSpaceAfterParen
  | spaceAfterOpeningBrace
  | spaceBeforeClosingBrace
  -- types and declarations
  | instanceNotSnake
  | instanceEndsWithT
  | typeTagNotCamel
  | typedefTypeName
  | typedefNameMissing
  | typedefFuncPtrName
  | typedefAliasName
  | enumElementNotScreaming
  | fieldNameNotSnake
  | uninitializedDeclaration
  | variableEndsWithT
  | variableNotSnake
  | multipleDeclarations
deriving DecidableEq, Repr

namespace Kind

/-- Every kind, in catalogue order. -/
def all : List Kind :=
  [.recursiveInclusion, .systemIncludesFirst, .systemIncludesUnsorted, .projectIncludesUnsorted,
   .includeIndented, .pragmaOnceAndGuard, .missingHeaderGuard, .missingEofNewline,
   .trailingBlankLines, .missingBlankAfterFunction, .tooManyBlanksBetweenFunctions,
   .pointerCouldBeConst, .lineTooLong, .tooManyBlankLines, .blankLineIndented,
   .trailingWhitespace, .nonAsciiCharacter, .todoComment, .indentationMismatch,
   .spaceBeforeSemicolon, .spaceInsideParens, .spaceInsideBrackets, .commaSpacing,
   .multipleSpaces, .operatorSpaceBefore, .operatorSpaceAfter, .ternaryQuestionSpaceBefore,
   .ternaryQuestionSpaceAfter, .ternaryColonSpaceBefore, .ternaryColonSpaceAfter,
   .keywordSpaceBeforeParen, .spaceBeforeCallParen, .functionNameSpaceBeforeParen,
   .pointerFormat, .pointerCastDetached, .allocNotCast, .insecureFunction, .magicNumber,
   .macroNameNotScreaming, .macroParamNotSnake, .macroBodyIdentNotSnake, .macroBodyNoSpace,
   .macroBodyNotParenthesized, .functionNameNotModuleCamel, .paramNameNotSnake, .paramLineIndent,
   .paramLineNoComma, .returnTypeSeparateLine, .functionBraceOwnLine, .labelIndented,
   .labelNotSnake, .colonNotAttached, .allmanBraceOwnLine, .krSpaceBeforeBrace, .krBraceSameLine,
   .krElseSameLine, .closingBraceOwnLine, .spaceAfterClosingBrace, .caseBlockBraces,
   .caseMissingBreak, .inlineEmptyBraces, .inlineNestedBraces, .inlineOneStatement,
   .inlineControlStatement, .inlineSpaceAfterParen, .spaceAfterOpeningBrace,
   .spaceBeforeClosingBrace, .instanceNotSnake, .instanceEndsWithT, .typeTagNotCamel,
   .typedefTypeName, .typedefNameMissing, .typedefFuncPtrName, .typedefAliasName,
   .enumElementNotScreaming, .fieldNameNotSnake, .uninitializedDeclaration, .variableEndsWithT,
   .variableNotSnake, .multipleDeclarations]

def name : Kind → String
  | .recursiveInclusion => "RECURSIVE_INCLUSION"
  | .systemIncludesFirst => "SYSTEM_INCLUDES_FIRST"
  | .systemIncludesUnsorted => "SYSTEM_INCLUDES_UNSORTED"
  | .projectIncludesUnsorted => "PROJECT_INCLUDES_UNSORTED"
  | .includeIndented => "INCLUDE_INDENTED"
  | .pragmaOnceAndGuard => "PRAGMA_ONCE_AND_GUARD"
  | .missingHeaderGuard => "MISSING_HEADER_GUARD"
  | .missingEofNewline => "MISSING_EOF_NEWLINE"
  | .trailingBlankLines => "TRAILING_BLANK_LINES"
  | .missingBlankAfterFunction => "MISSING_BLANK_AFTER_FUNCTION"
  | .tooManyBlanksBetweenFunctions => "TOO_MANY_BLANKS_BETWEEN_FUNCTIONS"
  | .pointerCouldBeConst => "POINTER_COULD_BE_CONST"
  | .lineTooLong => "LINE_TOO_LONG"
  | .tooManyBlankLines => "TOO_MANY_BLANK_LINES"
  | .blankLineIndented => "BLANK_LINE_INDENTED"
  | .trailingWhitespace => "TRAILING_WHITESPACE"
  | .nonAsciiCharacter => "NON_ASCII_CHARACTER"
  | .todoComment => "TODO_COMMENT"
  | .indentationMismatch => "INDENTATION_MISMATCH"
  | .spaceBeforeSemicolon => "SPACE_BEFORE_SEMICOLON"
  | .spaceInsideParens => "SPACE_INSIDE_PARENS"
  | .spaceInsideBrackets => "SPACE_INSIDE_BRACKETS"
  | .commaSpacing => "COMMA_SPACING"
  | .multipleSpaces => "MULTIPLE_SPACES"
  | .operatorSpaceBefore => "OPERATOR_SPACE_BEFORE"
  | .operatorSpaceAfter => "OPERATOR_SPACE_AFTER"
  | .ternaryQuestionSpaceBefore => "TERNARY_QUESTION_SPACE_BEFORE"
  | .ternaryQuestionSpaceAfter => "TERNARY_QUESTION_SPACE_AFTER"
  | .ternaryColonSpaceBefore => "TERNARY_COLON_SPACE_BEFORE"
  | .ternaryColonSpaceAfter => "TERNARY_COLON_SPACE_AFTER"
  | .keywordSpaceBeforeParen => "KEYWORD_SPACE_BEFORE_PAREN"
  | .spaceBeforeCallParen => "SPACE_BEFORE_CALL_PAREN"
  | .functionNameSpaceBeforeParen => "FUNCTION_NAME_SPACE_BEFORE_PAREN"
  | .pointerFormat => "POINTER_FORMAT"
  | .pointerCastDetached => "POINTER_CAST_DETACHED"
  | .allocNotCast => "ALLOC_NOT_CAST"
  | .insecureFunction => "INSECURE_FUNCTION"
  | .magicNumber => "MAGIC_NUMBER"
  | .macroNameNotScreaming => "MACRO_NAME_NOT_SCREAMING"
  | .macroParamNotSnake => "MACRO_PARAM_NOT_SNAKE"
  | .macroBodyIdentNotSnake => "MACRO_BODY_IDENT_NOT_SNAKE"
  | .macroBodyNoSpace => "MACRO_BODY_NO_SPACE"
  | .macroBodyNotParenthesized => "MACRO_BODY_NOT_PARENTHESIZED"
  | .functionNameNotModuleCamel => "FUNCTION_NAME_NOT_MODULE_CAMEL"
  | .paramNameNotSnake => "PARAM_NAME_NOT_SNAKE"
  | .paramLineIndent => "PARAM_LINE_INDENT"
  | .paramLineNoComma => "PARAM_LINE_NO_COMMA"
  | .returnTypeSeparateLine => "RETURN_TYPE_SEPARATE_LINE"
  | .functionBraceOwnLine => "FUNCTION_BRACE_OWN_LINE"
  | .labelIndented => "LABEL_INDENTED"
  | .labelNotSnake => "LABEL_NOT_SNAKE"
  | .colonNotAttached => "COLON_NOT_ATTACHED"
  | .allmanBraceOwnLine => "ALLMAN_BRACE_OWN_LINE"
  | .krSpaceBeforeBrace => "KR_SPACE_BEFORE_BRACE"
  | .krBraceSameLine => "KR_BRACE_SAME_LINE"
  | .krElseSameLine => "KR_ELSE_SAME_LINE"
  | .closingBraceOwnLine => "CLOSING_BRACE_OWN_LINE"
  | .spaceAfterClosingBrace => "SPACE_AFTER_CLOSING_BRACE"
  | .caseBlockBraces => "CASE_BLOCK_BRACES"
  | .caseMissingBreak => "CASE_MISSING_BREAK"
  | .inlineEmptyBraces => "INLINE_EMPTY_BRACES"
  | .inlineNestedBraces => "INLINE_NESTED_BRACES"
  | .inlineOneStatement => "INLINE_ONE_STATEMENT"
  | .inlineControlStatement => "INLINE_CONTROL_STATEMENT"
  | .inlineSpaceAfterParen => "INLINE_SPACE_AFTER_PAREN"
  | .spaceAfterOpeningBrace => "SPACE_AFTER_OPENING_BRACE"
  | .spaceBeforeClosingBrace => "SPACE_BEFORE_CLOSING_BRACE"
  | .instanceNotSnake => "INSTANCE_NOT_SNAKE"
  | .instanceEndsWithT => "INSTANCE_ENDS_WITH_T"
  | .typeTagNotCamel => "TYPE_TAG_NOT_CAMEL"
  | .typedefTypeName => "TYPEDEF_TYPE_NAME"
  | .typedefNameMissing => "TYPEDEF_NAME_MISSING"
  | .typedefFuncPtrName => "TYPEDEF_FUNC_PTR_NAME"
  | .typedefAliasName => "TYPEDEF_ALIAS_NAME"
  | .enumElementNotScreaming => "ENUM_ELEMENT_NOT_SCREAMING"
  | .fieldNameNotSnake => "FIELD_NAME_NOT_SNAKE"
  | .uninitializedDeclaration => "UNINITIALIZED_DECLARATION"
  | .variableEndsWithT => "VARIABLE_ENDS_WITH_T"
  | .variableNotSnake => "VARIABLE_NOT_SNAKE"
  | .multipleDeclarations => "MULTIPLE_DECLARATIONS"

/-- Warnings are the kinds that need a human eye; every other kind is an error. -/
def severity : Kind → Severity
  | .trailingBlankLines | .tooManyBlanksBetweenFunctions | .pointerCouldBeConst |
    .tooManyBlankLines | .nonAsciiCharacter | .todoComment | .insecureFunction | .magicNumber |
    .caseBlockBraces | .caseMissingBreak | .typedefFuncPtrName | .typedefAliasName |
    .uninitializedDeclaration => .warning
  | _ => .error

def template : Kind → Template
  | .recursiveInclusion => [.text "recursive inclusion of '", .word, .text "' detected"]
  | .systemIncludesFirst =>
    [.text "system includes (<...>) should come before project includes (\"", .word, .text "\")"]
  | .systemIncludesUnsorted => [.text "system includes (<...>) are not in alphabetical order"]
  | .projectIncludesUnsorted =>
    [.text "project includes (\"", .word, .text "\") are not in alphabetical order"]
  | .includeIndented => [.text "include directive must have no indentation"]
  | .pragmaOnceAndGuard =>
    [.text "do not use #pragma once and include-guard simultaneously; choose one"]
  | .missingHeaderGuard =>
    [.text "header file must be protected by include-guard '", .word, .text "' or #pragma once"]
  | .missingEofNewline => [.text "file must end with a newline"]
  | .trailingBlankLines =>
    [.text "file ends with ", .decimal, .text " blank line(s); remove excess"]
  | .missingBlankAfterFunction => [.text "missing blank line after function definition"]
  | .tooManyBlanksBetweenFunctions =>
    [.text "more than one blank line (", .decimal, .text ") between functions"]
  | .pointerCouldBeConst =>
    [.text "pointer '", .word, .text "' is not modified; consider declaring it 'const ", .word,
     .text "'"]
  | .lineTooLong =>
    [.text "line length must not exceed ", .decimal, .text " characters, found ", .decimal]
  | .tooManyBlankLines => [.text "more than 1 blank line consecutively (", .decimal, .text ")"]
  | .blankLineIndented => [.text "blank line must have no indentation"]
  | .trailingWhitespace => [.text "whitespace at the end of the line"]
  | .nonAsciiCharacter => [.text "unexpected non-ASCII character: 0x", .hexadecimal]
  | .todoComment => [.text "found TODO/FIXME comment - check pending tasks before submitting"]
  | .indentationMismatch =>
    [.text "line should be indented to ", .decimal, .text " spaces (found ", .decimal, .text ")"]
  | .spaceBeforeSemicolon => [.text "no space before ';'"]
  | .spaceInsideParens => [.text "no space allowed inside parentheses"]
  | .spaceInsideBrackets => [.text "no space allowed after '[' or before ']'"]
  | .commaSpacing => [.text "comma must be followed by a single space and not preceded by one"]
  | .multipleSpaces => [.text "multiple consecutive spaces between tokens"]
  | .operatorSpaceBefore => [.text "operator '", .word, .text "' must have space before it"]
  | .operatorSpaceAfter => [.text "operator '", .word, .text "' must have space after it"]
  | .ternaryQuestionSpaceBefore => [.text "operator '?' must have space before it"]
  | .ternaryQuestionSpaceAfter => [.text "operator '?' must have space after it"]
  | .ternaryColonSpaceBefore => [.text "operator ':' must have space before it"]
  | .ternaryColonSpaceAfter => [.text "operator ':' must have space after it"]
  | .keywordSpaceBeforeParen => [.text "keyword must have a space before '('"]
  | .spaceBeforeCallParen => [.text "space before '(' in function call is not allowed"]
  | .functionNameSpaceBeforeParen => [.text "no space allowed between function name and '('"]
  | .pointerFormat =>
    [.text "pointer must be formatted as:\n",
     .text "- 'type *ptr' for declarations\n",
     .text "- '*ptr' or '*type' for dereferences\n",
     .text "- 'type *' for casting"]
  | .pointerCastDetached =>
    [.text "pointer cast must be attached to the operand:\n",
     .text "- use '(t *)x' or '(t *)(x)', not '(t *) x'"]
  | .allocNotCast =>
    [.text "allocation via ", .word, .text " must be cast to the target pointer type"]
  | .insecureFunction =>
    [.text "use of insecure function '", .word, .text "'; consider using ", .word]
  | .magicNumber => [.text "magic number '", .word, .text "' detected; extract to constant"]
  | .macroNameNotScreaming => [.text "macro name '", .word, .text "' must be SCREAMING_SNAKE_CASE"]
  | .macroParamNotSnake => [.text "macro parameter '", .word, .text "' must be snake_lower_case"]
  | .macroBodyIdentNotSnake =>
    [.text "identifier '", .word, .text "' in macro body must be snake_lower_case"]
  | .macroBodyNoSpace => [.text "macro body must be preceded by a space after parameter list"]
  | .macroBodyNotParenthesized =>
    [.text "function-like macro body must be parenthesized, e.g. ((x)*(x))"]
  | .functionNameNotModuleCamel =>
    [.text "function name '", .word, .text "' must follow MODULE_camelCase"]
  | .paramNameNotSnake => [.text "parameter name '", .word, .text "' must be snake_lower_case"]
  | .paramLineIndent =>
    [.text "parameter line should be indented to ", .decimal, .text " spaces (found ", .decimal,
     .text ")"]
  | .paramLineNoComma => [.text "parameter line must end with ','"]
  | .returnTypeSeparateLine => [.text "return type must be on the same line as the function name"]
  | .functionBraceOwnLine => [.text "function opening must be on its own line"]
  | .labelIndented => [.text "label must have no indentation"]
  | .labelNotSnake => [.text "label '", .word, .text "' must be snake_lower_case"]
  | .colonNotAttached => [.text "':' must be attached without space to preceding token"]
  | .allmanBraceOwnLine => [.text "opening brace must be on its own line (", .word, .text ")"]
  | .krSpaceBeforeBrace => [.text "missing space before '\x7b' in control statement"]
  | .krBraceSameLine => [.text "opening brace must be on the same line as ", .word]
  | .krElseSameLine =>
    [.text "\"else\" must be on the same line as the closing '\x7d' (K&R style)"]
  | .closingBraceOwnLine => [.text "closing brace must be on its own line"]
  | .spaceAfterClosingBrace => [.text "expected space after '\x7d'"]
  | .caseBlockBraces => [.text "case blocks must not use '\x7b \x7d'"]
  | .caseMissingBreak =>
    [.text "'", .word, .text "' block must end with a break; or have a '// fall-through' comment"]
  | .inlineEmptyBraces => [.text "\x7b\x7d must have a space: use \x7b \x7d"]
  | .inlineNestedBraces => [.text "inline block must not contain nested braces"]
  | .inlineOneStatement => [.text "inline block must contain exactly one statement"]
  | .inlineControlStatement => [.text "inline block must not contain control statements"]
  | .inlineSpaceAfterParen => [.text "expected space after ')'"]
  | .spaceAfterOpeningBrace => [.text "expected space after '\x7b'"]
  | .spaceBeforeClosingBrace => [.text "expected space before '\x7d'"]
  | .instanceNotSnake => [.word, .text " instance '", .word, .text "' must be snake_lower_case"]
  | .instanceEndsWithT => [.word, .text " instance '", .word, .text "' must not end with '_t'"]
  | .typeTagNotCamel => [.word, .text " tag '", .word, .text "' must be camelCase"]
  | .typedefTypeName =>
    [.word, .text " typedef name '", .word, .text "' must be snake_lower_case and end with '_t'"]
  | .typedefNameMissing =>
    [.word, .text " typedef must declare a snake_lower_case name ending with '_t'"]
  | .typedefFuncPtrName =>
    [.text "typedef name '", .word, .text "' must be snake_lower_case and end with '_t'"]
  | .typedefAliasName =>
    [.text "typedef name '", .word, .text "' must be snake_lower_case and end with '_t'"]
  | .enumElementNotScreaming =>
    [.text "enum element '", .word, .text "' must be SCREAMING_SNAKE_CASE"]
  | .fieldNameNotSnake => [.word, .text " field name '", .word, .text "' must be snake_lower_case"]
  | .uninitializedDeclaration => [.text "'", .word, .text "' declared without initialization"]
  | .variableEndsWithT => [.text "variable name '", .word, .text "' must not end with '_t'"]
  | .variableNotSnake => [.text "variable name '", .word, .text "' must be snake_lower_case"]
  | .multipleDeclarations =>
    [.text "multiple variable declarations not allowed; use one line per variable"]

end Kind

end HouseStyle
