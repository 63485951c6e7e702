import HouseStyle.Naming
import HouseStyle.Rule.View

/-!
Contract: variables and type aliases.

Owns: the rules on uninitialised variables, on variable names, on several variables in one
declaration, and on the names that `typedef` gives.
Does not own: members of types, which `Rule.Member` checks, and parameters.
-/

namespace HouseStyle.Variable

open Lexicon

/-- A declaration of one variable, up to its initial value or its end. -/
def single : Pattern :=
  .atStart ++ .blanks ++ .capture .returnType (.plus (ident ++ .gap)) ++
    .opt (stars ++ .blanks) ++ .capture .name ident ++ .blanks ++ arrayBounds ++
    (.char '=' <|> .char ';')

def several : Pattern :=
  .atStart ++ .blanks ++ .plus (ident ++ .gap) ++ .opt (stars ++ .blanks) ++ ident ++ .blanks ++
    arrayBounds ++
    .opt (.char '=' ++ .manyBut [',', ';', '(', ')', '{', '}']) ++ .char ','

/-- A variable of a basic type without an initial value. -/
def uninitialized : Pattern :=
  .atStart ++ .blanks ++
    .star (.oneOf ["static", "const", "unsigned", "signed", "volatile", "register"] ++ .gap) ++
    .oneOf ["int", "char", "float", "double", "long", "short", "bool", "size_t"] ++
    ((.blanks ++ stars ++ .blanks) <|> .gap) ++ .capture .name ident ++ .blanks ++ .char ';' ++
    .blanks ++ .atEnd

def functionAlias : Pattern :=
  .atStart ++ .blanks ++ .word "typedef" ++ .boundary ++ .anything ++ .char '(' ++ .blanks ++
    .char '*' ++ .blanks ++ .capture .name ident ++ .blanks ++ .char ')'

/-- Any other type alias. -/
def plainAlias : Pattern :=
  .atStart ++ .blanks ++ .word "typedef" ++ .boundary ++
    .manyBut ['(', ')', '{', '}', ';'] ++ .boundary ++ .capture .name ident ++ .blanks ++
    arrayBounds ++ .char ';'

def startsAlias (view : View) : Bool :=
  "typedef".toList.isPrefixOf view.stripped

/-- Variables without an initial value. -/
def uninitializedDeclaration (view : View) : List Finding :=
  if view.scope.isSome then []
  else match (uninitialized.matchStart? view.code).bind fun found => found.part? .name with
    | some name => [Kind.uninitializedDeclaration.quoting name]
    | none => []

def declaredName? (code : List Char) : Option Excerpt := do
  let found ← single.matchStart? code
  let before ← found.part? .returnType
  let name ← found.part? .name
  if (identifiers before.text).any isStatementWord then none else some name

/-- Variables whose names do not follow the convention. -/
def variableNaming (view : View) : List Finding :=
  if view.scope.isSome || startsAlias view then []
  else match declaredName? view.code with
    | none => []
    | some name =>
      if endsWithT name.text then [Kind.variableEndsWithT.quoting name]
      else if Naming.isSnake name.text then []
      else [Kind.variableNotSnake.quoting name]

def multipleDeclarations (view : View) : List Finding :=
  if startsAlias view then []
  else match several.matchStart? view.code with
    | none => []
    | some found =>
      if (identifiers (view.code.take found.stop)).any isStatementWord then []
      else [Kind.multipleDeclarations.atColumn (found.stop - 1)]

/-- The name that a line gives to a type, and the kind of complaint about it. -/
def aliasName? (code : List Char) : Option (Kind × Excerpt) :=
  match functionAlias.matchStart? code with
  | some found => (found.part? .name).map fun name => (.typedefFuncPtrName, name)
  | none => do
    let found ← plainAlias.matchStart? code
    let name ← found.part? .name
    return (.typedefAliasName, name)

/-- Names of type aliases that do not follow the convention. -/
def typedefNames (view : View) : List Finding :=
  if !startsAlias view || view.code.contains '{' || view.code.contains '}' then []
  else match aliasName? view.code with
    | none => []
    | some (kind, name) => if Naming.isSnakeType name.text then [] else [kind.quoting name]

end HouseStyle.Variable
