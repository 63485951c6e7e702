import HouseStyle.Rule.View

/-!
Contract: where a star marks a pointer, and how pointers are written.

Owns: the pointer-shaped pieces of a line, and the rules on the star and on pointer casts.
Does not own: stars that multiply, which `Rule.Operator` treats.
-/

namespace HouseStyle.Pointer

open Lexicon

/-- Holds before an identifier. -/
def beforeName : Pattern :=
  .ahead isIdentStart

/-- Holds before an identifier or an opening parenthesis. -/
def beforeOperand : Pattern :=
  .ahead fun c => isIdentStart c || c == '('

def markers : List Pattern :=
  [ -- a known type, its stars, and what is declared
    .boundary ++ knownType ++ .blanks ++ stars ++ .blanks ++ .opt (.word "const" ++ .gap) ++
      beforeOperand,
    -- the first word of a statement, and a star at the name after it
    .atStart ++ .blanks ++
      .star (.oneOf ["static", "const", "extern", "register", "volatile"] ++ .gap) ++ ident ++
      .gap ++ stars ++ beforeOperand,
    -- a parameter after a parenthesis or a comma
    .behind (fun c => c == '(' || c == ',') ++ .blanks ++ .opt (.word "const" ++ .gap) ++ ident ++
      .gap ++ stars ++ beforeName,
    -- a cast, or a parameter without a name
    .boundary ++ ident ++ .blanks ++ stars ++ .blanks ++ .ahead (fun c => c == ',' || c == ')'),
    -- an instance on the closing line of a type
    .atStart ++ .blanks ++ .char '}' ++ .blanks ++ stars ++ beforeName,
    -- a pointer to a function
    .char '(' ++ .blanks ++ stars ++ .blanks ++ ident ++ .blanks ++ .char ')']

/-- The pieces of a line in which stars mark pointers, shape by shape. -/
def ranges (text : List Char) : List Excerpt :=
  markers.flatMap fun marker => (marker.findAll text).map Match.whole

def starAtType : Pattern :=
  .boundary ++ knownType ++ .char '*'

/-- A star with space on both sides. -/
def starApart : Pattern :=
  .boundary ++ knownType ++ .gap ++ stars ++ .gap ++ beforeName

def cast : Pattern :=
  .char '(' ++ .blanks ++ .opt (.word "const" ++ .gap) ++ .opt (tagWord ++ .gap) ++ ident ++
    .blanks ++ stars ++ .blanks ++ .char ')'

/-- A cast with space between it and its operand. -/
def castApart : Pattern :=
  cast ++ .spaces ++ beforeOperand

def castAtEnd : Pattern :=
  cast ++ .blanks ++ .atEnd

def formatFindings (text : List Char) : List Finding :=
  ([starAtType, starApart].flatMap fun pattern =>
    (pattern.findAll text).map fun found => Kind.pointerFormat.on found.whole) ++
  (castApart.findAll text).map fun found => Kind.pointerCastDetached.on found.whole

/-- Pointers that are not written the way the style asks for. -/
def pointerFormat (view : View) : List Finding :=
  formatFindings view.masked

end HouseStyle.Pointer
