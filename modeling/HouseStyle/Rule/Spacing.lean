import HouseStyle.Rule.View

/-!
Contract: spaces around punctuation.

Owns: the rules on semicolons, parentheses, brackets, commas, runs of spaces, the ternary operator,
and keywords before a parenthesis, with the rules on line length and line ends.
Does not own: operators and pointers, which `Rule.Operator` and `Rule.Pointer` treat.
-/

namespace HouseStyle.Spacing

/-- One finding for each match of the pattern. -/
def matchFindings (kind : Kind) (pattern : Pattern) (text : List Char) : List Finding :=
  (pattern.findAll text).map fun found => kind.on found.whole

/-- Spaces and tabs at the end of a line. -/
def trailingSpaces : Pattern :=
  .spaces ++ .atEnd

/-- Holds after a character that is not blank. -/
def afterInk : Pattern :=
  .behind fun c => !Text.isBlank c

/-- Holds before a character that is not blank. -/
def beforeInk : Pattern :=
  .ahead fun c => !Text.isBlank c

def spacedSemicolon : Pattern :=
  afterInk ++ .spaces ++ .char ';'

def spacedInside (opener closer : Char) : Pattern :=
  (.char opener ++ .spaces) <|> (afterInk ++ .spaces ++ .char closer)

/-- A comma with a space before it, with none after it, or with more than one after it. -/
def spacedComma : Pattern :=
  (.spaces ++ .char ',') <|> (.char ',' ++ beforeInk) <|>
    (.char ',' ++ .char ' ' ++ .several (· == ' ') ++ beforeInk)

def spaceRun : Pattern :=
  afterInk ++ .char ' ' ++ .several (· == ' ') ++ beforeInk

/-- A keyword directly before a parenthesis. -/
def attachedKeyword : Pattern :=
  .boundary ++
    .capture .keyword
      (.oneOf ["if", "else", "for", "while", "return", "switch", "case", "do", "typedef", "struct",
        "union", "enum", "static", "const", "extern", "unsigned", "signed"]) ++
    .char '('

def todoMarker : Pattern :=
  .boundary ++ .oneOf ["TODO", "FIXME"] ++ .boundary

/-- A case or default label; what follows the colon is the rest. -/
def caseLabel : Pattern :=
  .atStart ++ .blanks ++
    .capture .label ((.word "case" ++ .boundary ++ .lazyStar .any) <|> .word "default") ++
    .capture .gap .manySpaces ++ .char ':' ++ .notAhead (· == ':') ++
    .capture .rest .anything ++ .atEnd

/-- A line that holds a label and nothing else. -/
def gotoLabel : Pattern :=
  .atStart ++ .blanks ++ .capture .name Lexicon.ident ++ .capture .gap .manySpaces ++
    .char ':' ++ .blanks ++ .atEnd

/-- A line longer than the limit. -/
def lineLength (view : View) : List Finding :=
  let limit := view.settings.limit
  let length : Int := view.line.raw.length
  if limit < length then
    [⟨.lineTooLong, limit, length - limit,
      [.number (.exceeded limit), .number (.measure length)]⟩]
  else []

def trailingWhitespace (view : View) : List Finding :=
  matchFindings .trailingWhitespace trailingSpaces view.line.raw

/-- The first pending-work marker of each comment. -/
def todoComment (view : View) : List Finding :=
  view.line.comments.filterMap fun comment =>
    (todoMarker.search? comment.text).map fun found =>
      (Kind.todoComment.on found.whole).shift comment.start

def semicolonSpace (view : View) : List Finding :=
  matchFindings .spaceBeforeSemicolon spacedSemicolon view.masked

def parenSpace (view : View) : List Finding :=
  matchFindings .spaceInsideParens (spacedInside '(' ')') view.masked

def bracketSpace (view : View) : List Finding :=
  matchFindings .spaceInsideBrackets (spacedInside '[' ']') view.masked

/-- A comma that is not followed by exactly one space or that follows one. -/
def commaSpacing (view : View) : List Finding :=
  matchFindings .commaSpacing spacedComma view.masked

/-- More than one space between two tokens. -/
def multipleSpaces (view : View) : List Finding :=
  matchFindings .multipleSpaces spaceRun view.masked

/-- The places at which a character stands, each with its neighbours. -/
def neighbours (target : Char) : Nat → Option Char → List Char →
    List (Nat × Option Char × Option Char)
  | _, _, [] => []
  | position, previous, c :: rest =>
    let others := neighbours target (position + 1) (some c) rest
    if c == target then (position, previous, rest.head?) :: others else others

/-- The findings about a character that needs a space on either side. -/
def isolated (target : Char) (before after : Kind) (text : List Char) : List Finding :=
  (neighbours target 0 none text).flatMap fun (position, previous, next) =>
    (if previous.any fun c => !Text.isBlank c then [before.atColumn position] else []) ++
      (if next.any fun c => !Text.isBlank c then [after.atColumn position] else [])

/-- A question mark or colon without spaces around it; the colon of a label is exempt. -/
def ternarySpacing (view : View) : List Finding :=
  isolated '?' .ternaryQuestionSpaceBefore .ternaryQuestionSpaceAfter view.masked ++
    (if caseLabel.fits view.code || gotoLabel.fits view.code then []
    else isolated ':' .ternaryColonSpaceBefore .ternaryColonSpaceAfter view.masked)

/-- A keyword directly before a parenthesis. -/
def keywordSpaceBeforeParen (view : View) : List Finding :=
  (attachedKeyword.findAll view.masked).filterMap fun found =>
    (found.part? .keyword).map Kind.keywordSpaceBeforeParen.on

end HouseStyle.Spacing
