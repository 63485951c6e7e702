import HouseStyle.Declaration.Function

/-!
Contract: the function definitions of a file.

Owns: finding definitions by their braces, and splitting parameter lists.
Does not own: the rules on definitions.

At file scope, lines without a brace are collected until a line with an opening brace shows whether
they head a function. A definition ends with the line on which its braces balance.
-/

namespace HouseStyle

/-- A function definition: its name, the indices of the lines that start its head, open its body and
close it, and its parameters. -/
structure FunctionDefinition where
  name : List Char
  headerLine : Nat
  openLine : Nat
  closeLine : Nat
  parameters : List (List Char)
deriving DecidableEq, Repr

namespace FunctionDefinition

open Lexicon

/-- The pieces of a text between the commas at which the given number of parentheses is open less
closed is zero. -/
def splitTopLevel (depth : Int) : List Char → List (List Char)
  | [] => [[]]
  | c :: rest =>
    if c = ',' ∧ depth = 0 then [] :: splitTopLevel depth rest
    else
      let next := if c = '(' then depth + 1 else if c = ')' then depth - 1 else depth
      match splitTopLevel next rest with
      | [] => [[c]]
      | piece :: pieces => (c :: piece) :: pieces

/-- The parameters of a list, without blanks around them; an empty last one is none. -/
def splitParameters (text : List Char) : List (List Char) :=
  let pieces := (splitTopLevel 0 text).map Text.trim
  if pieces.getLast? = some [] then pieces.dropLast else pieces

/-- A name and its parameter list at the end of a text. -/
def headAtEnd : Pattern :=
  .capture .name ident ++ .blanks ++ .char '(' ++
    .capture .parameters
      (.star (.noneOf ['(', ')'] <|> (.char '(' ++ .manyBut ['(', ')'] ++ .char ')'))) ++
    .char ')' ++ .blanks ++ .atEnd

/-- A definition whose body is open. -/
structure Opened where
  name : List Char
  headerLine : Nat
  openLine : Nat
  parameters : List (List Char)
deriving DecidableEq, Repr

/-- The name and the parameters of the function that a text heads. -/
def headOf? (text : List Char) : Option (List Char × List (List Char)) := do
  let found ← headAtEnd.search? text
  let name ← found.part? .name
  let parameters ← found.part? .parameters
  let before := text.take name.start
  let words := identifiers before
  if isKeyword name.text || words.isEmpty || words.any isStatementWord || before.contains '=' then
    none
  else some (name.text, splitParameters parameters.text)

/-- What is known between two lines: the lines that may head a function, the definition whose body
is open, and the number of open braces. -/
structure Progress where
  header : List (Nat × List Char)
  current : Option Opened
  depth : Nat
deriving DecidableEq, Repr

/-- The definition that a line with an opening brace heads, together with the lines before it. -/
def opened? (header : List (Nat × List Char)) (index : Nat) (before : List Char) :
    Option Opened := do
  let parts := header.map (fun entry => Text.trim entry.2) ++ [Text.trim before]
  let (name, parameters) ← headOf? (Text.trim ([' '].intercalate parts))
  return ⟨name, (header.head?.map Prod.fst).getD index, index, parameters⟩

/-- The progress after the braces of a line, and the definition that they close. -/
def followBraces (index : Nat) (stripped : List Char) (progress : Progress) :
    Progress × Option FunctionDefinition :=
  let depth := (progress.depth : Int) + Text.excess '{' '}' stripped
  if depth ≤ 0 then
    ({ progress with current := none, depth := 0 },
      progress.current.map fun opened =>
        ⟨opened.name, opened.headerLine, opened.openLine, index, opened.parameters⟩)
  else ({ progress with depth := depth.toNat }, none)

/-- The progress after a line of code at file scope, and the definition that it closes. -/
def fileScopeLine (index : Nat) (line : Line) (progress : Progress) :
    Progress × Option FunctionDefinition :=
  let stripped := line.stripped
  if stripped.head? == some '#' then ({ progress with header := [] }, none)
  else
    match Text.find? ['{'] line.code with
    | none =>
      if stripped.getLast? == some ';' || stripped.getLast? == some '}' then
        ({ progress with header := [] }, none)
      else ({ progress with header := progress.header ++ [(index, line.code)] }, none)
    | some brace =>
      followBraces index stripped
        { progress with
          header := []
          current := opened? progress.header index (line.code.take brace) }

/-- The progress after a line, and the definition that it closes. -/
def line (index : Nat) (line : Line) (progress : Progress) :
    Progress × Option FunctionDefinition :=
  if !line.hasCode then (progress, none)
  else if progress.depth = 0 ∧ progress.current = none then fileScopeLine index line progress
  else followBraces index line.stripped progress

/-- The definitions that lines close, from the line with the given index on. -/
def findFrom (index : Nat) (progress : Progress) : List Line → List FunctionDefinition
  | [] => []
  | head :: rest =>
    let (progress, closed) := line index head progress
    closed.toList ++ findFrom (index + 1) progress rest

/-- The function definitions of a file, in order. -/
def findAll (lines : List Line) : List FunctionDefinition :=
  findFrom 0 ⟨[], none, 0⟩ lines

end FunctionDefinition

end HouseStyle
