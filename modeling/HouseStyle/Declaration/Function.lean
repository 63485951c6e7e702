import HouseStyle.Declaration.Parameter

/-!
Contract: the head of a function on one line.

Owns: recognising a head, a whole prototype, and a return type on a line of its own; the rule on
function names.
Does not own: parameter lists over several lines, which `Scan.ParamBlock` follows, and bodies.
-/

namespace HouseStyle.Function

open Lexicon

/-- The words and stars before a function's name. -/
def returnType : Pattern :=
  .capture .returnType
    (.plus ((ident ++ .gap) <|> (ident ++ .blanks ++ stars ++ .blanks)))

/-- A return type, a name and an opening parenthesis. -/
def headPattern : Pattern :=
  .atStart ++ .blanks ++ returnType ++ .capture .name ident ++ .capture .gap .blanks ++ .char '('

def prototypePattern : Pattern :=
  headPattern ++ .capture .parameters .anything ++ .char ')' ++ .blanks ++
    .opt (.capture .ending (.char ';' <|> .char '{')) ++ .blanks ++ .atEnd

/-- A name and an opening parenthesis at the start of a line. -/
def nameOnly : Pattern :=
  .atStart ++ .blanks ++ .capture .name ident ++ .blanks ++ .char '('

/-- The head of a function: its return type, its name, the space after the name, and the position
after the opening parenthesis. -/
structure Head where
  returnType : Excerpt
  name : Excerpt
  gap : Excerpt
  stop : Nat
deriving DecidableEq, Repr

/-- A head with its parameters, and the semicolon or brace after them. -/
structure Prototype where
  returnType : Excerpt
  name : Excerpt
  gap : Excerpt
  parameters : Excerpt
  ending : Option Excerpt
deriving DecidableEq, Repr

/-- Whether the words before a name and the name itself can be a declaration. -/
def isDeclaration (returnType name : Excerpt) : Bool :=
  let before := identifiers returnType.text
  !before.isEmpty && !before.any isStatementWord && !isKeyword name.text

def head? (code : List Char) : Option Head := do
  let found ← headPattern.matchStart? code
  let returnType ← found.part? .returnType
  let name ← found.part? .name
  let gap ← found.part? .gap
  if isDeclaration returnType name then some ⟨returnType, name, gap, found.stop⟩ else none

def prototype? (code : List Char) : Option Prototype := do
  let found ← prototypePattern.matchStart? code
  let returnType ← found.part? .returnType
  let name ← found.part? .name
  let gap ← found.part? .gap
  let parameters ← found.part? .parameters
  if isDeclaration returnType name then
    some ⟨returnType, name, gap, parameters, found.part? .ending⟩
  else none

/-- The name that a line starts with, if a parenthesis follows. -/
def leadingName? (code : List Char) : Option Excerpt := do
  let found ← nameOnly.matchStart? code
  found.part? .name

/-- A return type and nothing else. -/
def bareType : Pattern :=
  .atStart ++
    .star (.oneOf ["static", "const", "extern", "inline", "unsigned", "signed", "short", "long"] ++
      .gap) ++
    (knownType <|> ident) ++ .opt (.blanks ++ stars) ++ .atEnd

/-- A text without the stars at its end. -/
def dropStars (text : List Char) : List Char :=
  (text.reverse.dropWhile (· == '*')).reverse

/-- A line that holds only a return type. -/
def isBareReturnType (code : List Char) : Bool :=
  let text := Text.trim code
  bareType.fits text && (Text.words text).head?.any fun first => !isStatementWord (dropStars first)

/-- The findings about a function's name and the space after it. -/
def nameFindings (name : Excerpt) (gap : List Char) : List Finding :=
  (if gap.isEmpty then []
    else [⟨.functionNameSpaceBeforeParen, name.stop, gap.length, []⟩]) ++
  (if name.text == "main".toList || Naming.isModuleCamel name.text then []
    else [Kind.functionNameNotModuleCamel.quoting name])

end HouseStyle.Function
