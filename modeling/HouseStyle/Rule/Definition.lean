import HouseStyle.Naming
import HouseStyle.Rule.View

/-!
Contract: definitions for the preprocessor.

Owns: the rules on the name, the parameters and the body of a `#define` line.
Does not own: other directives, and the lines that continue a definition.
-/

namespace HouseStyle.Definition

open Lexicon

/-- A definition with parameters: its name, the text between the parentheses, and the rest. -/
def withParameters : Pattern :=
  definition ++ .char '(' ++ .capture .parameters (.manyBut [')']) ++ .char ')' ++
    .capture .rest .anything ++ .atEnd

/-- A parameter list with a character directly after it. -/
def bodyAttached : Pattern :=
  directive "define" ++ .gap ++ ident ++ .char '(' ++ .manyBut [')'] ++ .char ')' ++
    .ahead fun c => !Text.isBlank c

/-- The parameters of a definition, without blanks around them and without the ellipsis. -/
def parameters (list : Excerpt) : List Excerpt :=
  ((list.splitOn ',').map Excerpt.trim).filter fun parameter =>
    !parameter.text.isEmpty && parameter.text != "...".toList

def parameterFindings (list : Excerpt) : List Finding :=
  (parameters list).filterMap fun parameter =>
    if Naming.isSnake parameter.text then none else some (Kind.macroParamNotSnake.quoting parameter)

def isEnclosed (body : List Char) : Bool :=
  body.getLast? == some '\\' || (body.head? == some '(' && body.getLast? == some ')')

/-- The finding about a body that is not in parentheses. -/
def bodyFindings (code : List Char) (rest : Excerpt) : Except Fault (List Finding) := do
  let body := Text.trim rest.text
  if body.isEmpty || isEnclosed body then return []
  let position ← Text.index body rest.start code
  return [⟨.macroBodyNotParenthesized, position, body.length, []⟩]

/-- Whether an identifier of a body may have any form: it is the defined name, a parameter, a
keyword, reserved, a constant, called, or the end of a number. -/
def isFree (name : Excerpt) (list : Excerpt) (body : List Char) (identifier : Excerpt) : Bool :=
  identifier.text == name.text ||
    ((parameters list).map Excerpt.text).contains identifier.text ||
    isKeyword identifier.text ||
    ['_', '_'].isPrefixOf identifier.text ||
    Naming.isScreaming identifier.text ||
    (Text.trimLeft (body.drop identifier.stop)).head? == some '(' ||
    (0 < identifier.start && body[identifier.start - 1]?.any Text.isDigitSign)

def identifierFindings (name list rest : Excerpt) : List Finding :=
  ((ident.findAll rest.text).map Match.whole).filterMap fun identifier =>
    if isFree name list rest.text identifier || Naming.isSnake identifier.text then none
    else some ((Kind.macroBodyIdentNotSnake.quoting identifier).shift rest.start)

/-- The findings about the parameters and the body of a definition. -/
def bodyAndParameterFindings (code : List Char) (name list rest : Excerpt) :
    Except Fault (List Finding) := do
  let attached :=
    if bodyAttached.fits code then [Kind.macroBodyNoSpace.atColumn list.stop] else []
  let enclosing ← bodyFindings code rest
  return parameterFindings list ++ attached ++ enclosing ++ identifierFindings name list rest

/-- Definitions that do not follow the conventions. -/
def definitionLine (view : View) : Except Fault (List Finding) := do
  let code := view.code
  let some name := (definition.matchStart? code).bind fun found => found.part? .name | return []
  let nameFindings :=
    if Naming.isScreaming name.text then [] else [Kind.macroNameNotScreaming.quoting name]
  let some found := withParameters.matchStart? code | return nameFindings
  let some list := found.part? .parameters | return nameFindings
  let some rest := found.part? .rest | return nameFindings
  let others ← bodyAndParameterFindings code name list rest
  return nameFindings ++ others

end HouseStyle.Definition
