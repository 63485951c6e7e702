import HouseStyle.Rule.Pointer

/-!
Contract: spaces around binary operators.

Owns: the operators, which of them are unary or exempt, and the rule on the spaces around the rest.
Does not own: the stars of pointers, which `Rule.Pointer` recognises.
-/

namespace HouseStyle.Operator

/-- An operator; longer ones come first. -/
def operator : Pattern :=
  .oneOf ["<<=", ">>=", "->", "++", "--", "&&", "||", "<<", ">>", ">=", "<=", "==", "!=", "+=",
    "-=", "*=", "/=", "%=", "&=", "|=", "^="] <|>
  .anyOf ['=', '+', '-', '*', '/', '%', '<', '>', '?', ':']

/-- The operators that need no spaces or have a rule of their own. -/
def exempt : List (List Char) :=
  ["++", "--", "->", "?", ":"].map String.toList

def signs : List (List Char) :=
  [['+'], ['-'], ['*']]

def unaryContext : List Char :=
  "([\x7b,;=!~?:&|^<>+-*/%".toList

def unaryWord : Pattern :=
  .boundary ++ .oneOf ["return", "case", "sizeof"] ++ .atEnd

def exponentMark : Pattern :=
  .notBehind Lexicon.isIdentStart ++ .several Text.isDecimal ++
    .opt (.char '.' ++ .many Text.isDecimal) ++ .anyOf ['e', 'E'] ++ .atEnd

/-- Whether the operator after the given text is unary or the sign of an exponent. -/
def isUnary (before : List Char) (operator : List Char) : Bool :=
  signs.contains operator &&
    match (Text.trimRight before).getLast? with
    | none => true
    | some previous =>
      unaryContext.contains previous || unaryWord.occurs (Text.trimRight before) ||
        (operator != ['*'] && exponentMark.occurs before)

def isInside (ranges : List Excerpt) (excerpt : Excerpt) : Bool :=
  ranges.any fun range => range.start ≤ excerpt.start && excerpt.stop ≤ range.stop

/-- Whether an operator is a binary one whose spaces count. -/
def isBinary (text : List Char) (ranges : List Excerpt) (operator : Excerpt) : Bool :=
  !exempt.contains operator.text && !(operator.text == ['*'] && isInside ranges operator) &&
    !isUnary (text.take operator.start) operator.text

/-- The findings about the spaces around one binary operator. -/
def spaceFindings (text : List Char) (operator : Excerpt) : List Finding :=
  (if 0 < operator.start && text[operator.start - 1]?.any fun c => !Text.isBlank c then
    [Kind.operatorSpaceBefore.quoting operator] else []) ++
  (if text[operator.stop]?.any fun c => !Text.isBlank c then
    [Kind.operatorSpaceAfter.quoting operator] else [])

def findings (text : List Char) : List Finding :=
  let ranges := Pointer.ranges text
  ((operator.findAll text).map Match.whole).filter (isBinary text ranges) |>.flatMap
    (spaceFindings text)

/-- Binary operators without spaces around them. -/
def operatorSpacing (view : View) : List Finding :=
  findings view.masked

end HouseStyle.Operator
