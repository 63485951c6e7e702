import HouseStyle.File.FunctionDefinition

/-!
Contract: pointer parameters that are only read.

Owns: which parameters are candidates, which uses in a body modify what they point to, and the
suggestion to declare the others constant.
Does not own: finding function definitions.
-/

namespace HouseStyle.ConstPointer

open Lexicon

/-- The name of a parameter that is a plain pointer and not yet constant. -/
def candidate? (parameter : List Char) : Option (List Char) :=
  let words := identifiers parameter
  if !parameter.contains '*' || parameter.head? == some '*' || words.contains "const".toList ||
      Text.hasWord ['*', '*'] (parameter.filter (· != ' ')) || parameter.contains '[' ||
      parameter.contains '(' then none
  else words.getLast?

def assignment : Pattern :=
  .blanks ++ .opt (.anyOf ['-', '+', '*', '/', '%', '&', '|', '^'] <|> .oneOf ["<<", ">>"]) ++
    .char '=' ++ .notAhead (· == '=')

def access : Pattern :=
  .char '[' ++ .manyBut [']'] ++ .char ']'

def increment : Pattern :=
  .oneOf ["++", "--"]

/-- A word of any script. -/
def anyWord : Pattern :=
  .several Text.isWord

/-- The uses of a name that modify what it points to or let it escape. -/
def writes (name : List Char) : List Pattern :=
  let name := Pattern.characters name
  [ -- a write through the star
    .char '*' ++ .blanks ++ name ++ assignment,
    -- a write to an element
    .boundary ++ name ++ .blanks ++ .plus (access ++ .blanks) ++ assignment,
    -- a write to a field
    .boundary ++ name ++ .blanks ++ .word "->" ++ .blanks ++ anyWord ++
      .star (.blanks ++ access) ++
      .star (.blanks ++ (.char '.' <|> .word "->") ++ .blanks ++ anyWord) ++ assignment,
    -- a new value for the pointer
    .notBehind (fun c => ['=', '!', '<', '>'].contains c) ++ .boundary ++ name ++ assignment,
    -- an increment before the name
    increment ++ .blanks ++ .opt (.char '*') ++ .blanks ++ .opt (.char '(') ++ .blanks ++
      .opt (.char '*') ++ .blanks ++ name ++ .boundary,
    -- an increment after the name
    .boundary ++ name ++ .blanks ++ .opt (.char ')') ++ .blanks ++ increment,
    -- its address
    .notBehind (fun c => c == '&' || Text.isWord c || c == ')' || c == ']') ++ .char '&' ++
      .blanks ++ name ++ .boundary,
    -- its return
    .boundary ++ .word "return" ++ .gap ++ .opt (.char '(') ++ .blanks ++ name ++ .blanks ++
      .opt (.char ')') ++ .blanks ++ .char ';']

def call : Pattern :=
  .boundary ++ .capture .name ident ++ .blanks ++ .char '('

/-- An argument that is the name, possibly cast, in parentheses or with an offset. -/
def argument (name : List Char) : Pattern :=
  .opt (.char '(') ++ .blanks ++
    .opt (.char '(' ++ .manyBut ['(', ')'] ++ .char ')' ++ .blanks) ++
    .characters name ++ .blanks ++ .opt (.char ')') ++
    .opt (.blanks ++ .anyOf ['-', '+'] ++ .blanks ++ anyWord)

/-- The number of characters up to and with the parenthesis that balances the given number of open
ones, or all characters. -/
def callLength : Nat → List Char → Nat
  | 0, _ => 0
  | _ + 1, [] => 0
  | depth + 1, c :: rest =>
    1 + callLength (if c = '(' then depth + 2 else if c = ')' then depth else depth + 1) rest

/-- The arguments of a call whose opening parenthesis ends at a position. -/
def callArguments (body : List Char) (start : Nat) : List (List Char) :=
  let rest := body.drop start
  FunctionDefinition.splitParameters (rest.take (callLength 1 rest - 1))

def isPassed (name body : List Char) : Bool :=
  (call.findAll body).any fun found =>
    (found.part? .name).any fun callee =>
      !isKeyword callee.text && (callArguments body found.stop).any (argument name).fitsWhole

def isModified (name body : List Char) : Bool :=
  (writes name).any (fun pattern => pattern.occurs body) || isPassed name body

/-- The text of a body: from after its opening brace to the end of its last line. -/
def bodyText (lines : List Line) (definition : FunctionDefinition) : List Char :=
  let body := (lines.drop definition.openLine).take (definition.closeLine + 1 - definition.openLine)
  match body.map Line.code with
  | [] => []
  | first :: rest =>
    let start := ((Text.find? ['{'] first).map (· + 1)).getD 0
    ['\n'].intercalate (first.drop start :: rest)

/-- The first place of a word in the lines from the given index on, or none. -/
def locateFrom (word : Pattern) (index : Nat) : List Line → Option (Nat × Nat)
  | [] => none
  | line :: rest =>
    match word.search? line.code with
    | some found => some (index, found.start)
    | none => locateFrom word (index + 1) rest

/-- The place of a name in a function's head, as a line index and a column; on the first line of the
head the name is looked for after the parenthesis. -/
def locate (lines : List Line) (definition : FunctionDefinition) (name : List Char) : Nat × Nat :=
  let word : Pattern := .boundary ++ .characters name ++ .boundary
  let head :=
    (lines.drop definition.headerLine).take (definition.openLine + 1 - definition.headerLine)
  match head with
  | [] => (definition.headerLine, 0)
  | first :: rest =>
    let start := ((Text.find? ['('] first.code).map (· + 1)).getD 0
    match word.searchFrom? start first.code with
    | some found => (definition.headerLine, found.start)
    | none => (locateFrom word (definition.headerLine + 1) rest).getD (definition.headerLine, 0)

/-- The suggestion for one parameter, if it could be constant. -/
def suggestion? (lines : List Line) (definition : FunctionDefinition) (parameter : List Char) :
    Except Fault (Option Diagnostic) :=
  match candidate? parameter with
  | none => return none
  | some name =>
    if isModified name (bodyText lines definition) then return none
    else do
      let (index, column) := locate lines definition name
      let diagnostic ← Kind.pointerCouldBeConst.diagnostic (index + 1) column name.length
        [.word (String.ofList name), .word (String.ofList parameter)]
      return some diagnostic

def diagnostics (lines : List Line) : Except Fault (List Diagnostic) := do
  let found ← (FunctionDefinition.findAll lines).mapM fun definition =>
    definition.parameters.mapM (suggestion? lines definition)
  return found.flatten.filterMap id

end HouseStyle.ConstPointer
