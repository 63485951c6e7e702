import HouseStyle.Naming
import HouseStyle.Rule.View

/-!
Contract: the members of types.

Owns: the lines that open a type, and the rule on the names of fields and enumeration elements.
Does not own: the scope of a type, which `Scan.TypeScope` follows.
-/

namespace HouseStyle.Member

open Lexicon

/-- The start of a type: an optional `typedef`, the type word and an optional tag. -/
def typeStart : Pattern :=
  .atStart ++ .blanks ++ .opt (.capture .typedefWord (.word "typedef" ++ .gap)) ++
    .capture .keyword (.oneOf ["struct", "enum", "union"]) ++ .boundary ++ .blanks ++
    .opt (.capture .tag ident) ++ .blanks

def bareStart : Pattern :=
  typeStart ++ .atEnd

def braceStart : Pattern :=
  typeStart ++ .char '{'

def field : Pattern :=
  .atStart ++ .blanks ++ .plus (ident ++ (.gap <|> (.blanks ++ stars ++ .blanks))) ++
    .capture .name ident ++ .blanks ++ arrayBounds ++
    .opt (.char ':' ++ .blanks ++ .several Text.isWord ++ .blanks) ++ .char ';'

def element : Pattern :=
  .atStart ++ .blanks ++ .capture .name ident ++ .blanks ++
    .opt (.char '=' ++ .manyBut [',']) ++ .opt (.char ',') ++ .blanks ++ .atEnd

def functionPointer : Pattern :=
  .char '(' ++ .blanks ++ stars ++ .blanks ++ .capture .name ident ++ .blanks ++ .char ')'

def elementName? (code : List Char) : Option Excerpt := do
  let found ← element.matchStart? code
  found.part? .name

def fieldName? (code : List Char) : Option Excerpt := do
  let found ← (field.matchStart? code).or (functionPointer.search? code)
  found.part? .name

def findings (kind : TypeKind) (code : List Char) : List Finding :=
  match kind with
  | .enum =>
    match elementName? code with
    | some name =>
      if Naming.isScreaming name.text then [] else [Kind.enumElementNotScreaming.quoting name]
    | none => []
  | kind =>
    match fieldName? code with
    | some name =>
      if Naming.isSnake name.text then []
      else [Kind.fieldNameNotSnake.onWith name [.word kind.word, .word name.toString]]
    | none => []

/-- Members whose names do not follow the convention. -/
def typeMembers (view : View) : List Finding :=
  match view.scope with
  | none => []
  | some kind =>
    if bareStart.fits view.code || braceStart.fits view.code then [] else findings kind view.code

end HouseStyle.Member
