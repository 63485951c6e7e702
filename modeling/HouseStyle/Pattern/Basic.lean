import HouseStyle.Text.Blank
import HouseStyle.Text.Digit

/-!
Contract: patterns of characters on a line.

Owns: the pattern language, the parts that a pattern records, and the vocabulary built from it.
Does not own: matching, which is `Pattern.run`.

A pattern consumes characters from left to right and tries its alternatives in the order in which
they are written; a repetition first tries to go on. A look consumes nothing and sees the character
before it and all characters after it.
-/

namespace HouseStyle

/-- The parts of a line that a pattern can record. -/
inductive Part where
  | name
  | returnType
  | gap
  | parameters
  | ending
  | keyword
  | typedefWord
  | tag
  | label
  | rest
  | target
deriving DecidableEq, Repr

/-- A pattern of characters. -/
inductive Pattern where
  /-- Consumes nothing. -/
  | empty
  /-- Consumes one character that passes the test. -/
  | one (test : Char → Bool)
  /-- Consumes as many characters that pass the test as possible, then fewer. -/
  | many (test : Char → Bool)
  /-- One pattern after the other. -/
  | seq (first second : Pattern)
  /-- The first pattern, or else the second. -/
  | alt (first second : Pattern)
  /-- As many copies as possible, then fewer. -/
  | star (body : Pattern)
  /-- As few copies as possible, then more. -/
  | lazyStar (body : Pattern)
  /-- Records what the body consumes. -/
  | capture (part : Part) (body : Pattern)
  /-- Holds between the character before and the characters after. -/
  | look (test : Option Char → List Char → Bool)

namespace Pattern

instance : Append Pattern := ⟨seq⟩

instance : OrElse Pattern := ⟨fun first second => alt first (second ())⟩

/-- At least one copy, and as many as possible. -/
def plus (body : Pattern) : Pattern :=
  body ++ star body

/-- The body if possible. -/
def opt (body : Pattern) : Pattern :=
  body <|> empty

def char (c : Char) : Pattern :=
  one (· == c)

def anyOf (characters : List Char) : Pattern :=
  one characters.contains

/-- One character that is none of those listed. -/
def noneOf (characters : List Char) : Pattern :=
  one fun c => !characters.contains c

/-- The characters one after the other. -/
def characters : List Char → Pattern
  | [] => empty
  | [c] => char c
  | c :: rest => char c ++ characters rest

def word (text : String) : Pattern :=
  characters text.toList

/-- The first of the words that fits. -/
def oneOf : List String → Pattern
  | [] => one fun _ => false
  | [text] => word text
  | text :: rest => word text <|> oneOf rest

/-- At least one character that passes the test, and as many as possible. -/
def several (test : Char → Bool) : Pattern :=
  one test ++ many test

/-- As many characters as possible that are none of those listed. -/
def manyBut (characters : List Char) : Pattern :=
  many fun c => !characters.contains c

/-- At least one character that is none of those listed, and as many as possible. -/
def severalBut (characters : List Char) : Pattern :=
  several fun c => !characters.contains c

/-- Any character that does not end a line. -/
def any : Pattern :=
  one (· != '\n')

/-- As many characters as possible that do not end a line. -/
def anything : Pattern :=
  many (· != '\n')

def blanks : Pattern :=
  many Text.isBlank

/-- At least one blank. -/
def gap : Pattern :=
  several Text.isBlank

def isSpaceOrTab (c : Char) : Bool :=
  c == ' ' || c == '\t'

/-- Any number of spaces and tabs. -/
def manySpaces : Pattern :=
  many isSpaceOrTab

/-- At least one space or tab. -/
def spaces : Pattern :=
  several isSpaceOrTab

/-- Holds where the next character passes the test. -/
def ahead (test : Char → Bool) : Pattern :=
  look fun _ rest => rest.head?.any test

/-- Holds where no next character passes the test. -/
def notAhead (test : Char → Bool) : Pattern :=
  look fun _ rest => !rest.head?.any test

/-- Holds where the previous character passes the test. -/
def behind (test : Char → Bool) : Pattern :=
  look fun previous _ => previous.any test

/-- Holds where no previous character passes the test. -/
def notBehind (test : Char → Bool) : Pattern :=
  look fun previous _ => !previous.any test

/-- Holds between a word character and a character or an end that is none. -/
def boundary : Pattern :=
  look fun previous rest => previous.any Text.isWord != rest.head?.any Text.isWord

/-- Holds at the start of the text. -/
def atStart : Pattern :=
  look fun previous _ => previous.isNone

/-- Holds at the end of the text, or before a line end that is its last character. -/
def atEnd : Pattern :=
  look fun _ rest => rest == [] || rest == ['\n']

end Pattern

end HouseStyle
