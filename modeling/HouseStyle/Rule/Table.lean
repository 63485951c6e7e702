import HouseStyle.Rule.Brace
import HouseStyle.Rule.Call
import HouseStyle.Rule.Definition
import HouseStyle.Rule.FunctionHead
import HouseStyle.Rule.Member
import HouseStyle.Rule.Operator
import HouseStyle.Rule.Spacing
import HouseStyle.Rule.Variable

/-!
Contract: the rules of each phase, in the order in which they run.

Owns: the table of rules, and running all rules of a phase on a line.
Does not own: the rules themselves.
-/

namespace HouseStyle.Rule

/-- A rule that cannot fail. -/
def total (name : String) (phase : Phase) (kinds : List Kind) (check : View → List Finding) :
    Rule :=
  ⟨name, phase, kinds, fun view => .ok (check view)⟩

/-- The rules on every line that is not blank. -/
def rawRules : List Rule :=
  [total "line_length" .raw [.lineTooLong] Spacing.lineLength,
    total "trailing_whitespace" .raw [.trailingWhitespace] Spacing.trailingWhitespace,
    total "todo_comment" .raw [.todoComment] Spacing.todoComment]

/-- The rules on every line with code. -/
def contentRules : List Rule :=
  [total "semicolon_space" .content [.spaceBeforeSemicolon] Spacing.semicolonSpace,
    total "paren_space" .content [.spaceInsideParens] Spacing.parenSpace,
    total "bracket_space" .content [.spaceInsideBrackets] Spacing.bracketSpace,
    total "comma_spacing" .content [.commaSpacing] Spacing.commaSpacing,
    total "multiple_spaces" .content [.multipleSpaces] Spacing.multipleSpaces,
    total "pointer_format" .content [.pointerFormat, .pointerCastDetached] Pointer.pointerFormat,
    total "operator_spacing" .content [.operatorSpaceBefore, .operatorSpaceAfter]
      Operator.operatorSpacing,
    total "ternary_spacing" .content
      [.ternaryQuestionSpaceBefore, .ternaryQuestionSpaceAfter, .ternaryColonSpaceBefore,
        .ternaryColonSpaceAfter]
      Spacing.ternarySpacing,
    total "keyword_space_before_paren" .content [.keywordSpaceBeforeParen]
      Spacing.keywordSpaceBeforeParen,
    ⟨"magic_number", .content, [.magicNumber], Call.magicNumber⟩,
    total "insecure_function" .content [.insecureFunction] Call.insecureFunction,
    total "alloc_cast" .content [.allocNotCast] Call.allocCast,
    total "call_space" .content [.spaceBeforeCallParen] Call.callSpace,
    total "non_ascii" .content [.nonAsciiCharacter] Call.nonAscii,
    ⟨"macro_definition", .content,
      [.macroNameNotScreaming, .macroParamNotSnake, .macroBodyNoSpace, .macroBodyNotParenthesized,
        .macroBodyIdentNotSnake],
      Definition.definitionLine⟩]

/-- The rules that need the settled state of the scanner. -/
def statementRules : List Rule :=
  [⟨"function_declaration", .statement,
      [.functionNameNotModuleCamel, .functionNameSpaceBeforeParen, .paramNameNotSnake,
        .functionBraceOwnLine],
      FunctionHead.functionDeclaration⟩,
    total "return_type_line" .statement [.returnTypeSeparateLine] FunctionHead.returnTypeLine,
    ⟨"kr_else", .statement, [.krElseSameLine], Brace.krElse⟩,
    ⟨"kr_brace", .statement, [.krSpaceBeforeBrace, .krBraceSameLine], Brace.krBrace⟩,
    total "allman_brace" .statement [.allmanBraceOwnLine] Brace.allmanBrace,
    ⟨"closing_brace_own_line", .statement, [.closingBraceOwnLine], Brace.closingBraceOwnLine⟩,
    total "uninitialized_declaration" .statement [.uninitializedDeclaration]
      Variable.uninitializedDeclaration,
    total "variable_naming" .statement [.variableEndsWithT, .variableNotSnake]
      Variable.variableNaming,
    total "multiple_declarations" .statement [.multipleDeclarations] Variable.multipleDeclarations,
    total "typedef_names" .statement [.typedefFuncPtrName, .typedefAliasName] Variable.typedefNames,
    total "type_members" .statement [.enumElementNotScreaming, .fieldNameNotSnake]
      Member.typeMembers]

def ofPhase : Phase → List Rule
  | .raw => rawRules
  | .content => contentRules
  | .statement => statementRules

def all : List Rule :=
  rawRules ++ contentRules ++ statementRules

def runPhase (phase : Phase) (view : View) : Except Fault (List Finding) := do
  let findings ← (ofPhase phase).mapM fun rule => rule.check view
  return findings.flatten

end HouseStyle.Rule
