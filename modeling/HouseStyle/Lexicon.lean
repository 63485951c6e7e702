import HouseStyle.Pattern.Run

/-!
Contract: the words and the small patterns of C that the rules share.

Owns: keywords, statement words, identifiers, type names, and array bounds.
Does not own: the patterns of a single rule, which stand beside that rule.
-/

namespace HouseStyle.Lexicon

def keywords : List (List Char) :=
  ["auto", "break", "case", "char", "const", "continue", "default", "do", "double", "else", "enum",
    "extern", "float", "for", "goto", "if", "inline", "int", "long", "register", "restrict",
    "return", "short", "signed", "sizeof", "static", "struct", "switch", "typedef", "union",
    "unsigned", "void", "volatile", "while", "_Alignas", "_Alignof", "_Atomic", "_Bool",
    "_Complex", "_Generic", "_Imaginary", "_Noreturn", "_Static_assert", "_Thread_local",
    "bool"].map String.toList

def isKeyword (word : List Char) : Bool :=
  keywords.contains word

/-- The words that start a statement rather than a declaration. -/
def statementWords : List (List Char) :=
  ["break", "case", "continue", "default", "do", "else", "for", "goto", "if", "return", "sizeof",
    "switch", "typedef", "while"].map String.toList

def isStatementWord (word : List Char) : Bool :=
  statementWords.contains word

def isIdentStart (c : Char) : Bool :=
  c.isAlpha || c == '_'

def isIdentRest (c : Char) : Bool :=
  c.isAlphanum || c == '_'

def ident : Pattern :=
  .one isIdentStart ++ .many isIdentRest

def identifiers (text : List Char) : List (List Char) :=
  (ident.findAll text).map fun found => found.whole.text

def endsWithT (name : List Char) : Bool :=
  ['_', 't'].isSuffixOf name

def basicType : Pattern :=
  .oneOf ["void", "char", "short", "int", "long", "float", "double", "signed", "unsigned", "bool",
    "_Bool"]

def typedefName : Pattern :=
  .one isIdentStart ++ .many isIdentRest ++ .word "_t"

/-- A word that opens a tagged type in an expression or a declaration. -/
def tagWord : Pattern :=
  .oneOf ["struct", "union", "enum"]

/-- A tagged type: its word and its tag. -/
def taggedType : Pattern :=
  tagWord ++ .gap ++ ident

/-- A type that is known without reading declarations. -/
def knownType : Pattern :=
  basicType <|> typedefName <|> taggedType

/-- At least one star. -/
def stars : Pattern :=
  .several (· == '*')

def arrayBounds : Pattern :=
  .star (.char '[' ++ .manyBut [']'] ++ .char ']' ++ .blanks)

/-- The start of a directive: the hash and the directive's word. -/
def directive (name : String) : Pattern :=
  .atStart ++ .blanks ++ .char '#' ++ .blanks ++ .word name

/-- A stretch of definitions: the word `define` and a name. -/
def definition : Pattern :=
  directive "define" ++ .gap ++ .capture .name ident

def braceControl : Pattern :=
  .atStart ++ .opt (.char '}' ++ .blanks) ++
    .capture .keyword (.oneOf ["if", "else", "for", "while", "do", "switch"]) ++ .boundary

def controlStart : Pattern :=
  .atStart ++ .opt (.char '}' ++ .blanks) ++ .opt (.word "typedef" ++ .gap) ++
    .capture .keyword
      (.oneOf ["if", "else", "for", "while", "do", "switch", "struct", "union", "enum"]) ++
    .boundary

def inclusion : Pattern :=
  directive "include" ++ .blanks ++
    .capture .target (.anyOf ['<', '"'] ++ .severalBut ['>', '"'] ++ .anyOf ['>', '"'])

end HouseStyle.Lexicon
