import HouseStyle.Lexicon

/-!
Contract: the naming conventions.

Owns: the tests for each convention.
Does not own: which names have to follow which convention.
-/

namespace HouseStyle.Naming

/-- A lower-case letter, then lower-case letters, digits and underscores. -/
def isSnake : List Char → Bool
  | [] => false
  | c :: rest => c.isLower && rest.all fun d => d.isLower || d.isDigit || d == '_'

def isSnakeType (name : List Char) : Bool :=
  isSnake name && Lexicon.endsWithT name

/-- A capital letter, then capital letters, digits and underscores. -/
def isScreaming : List Char → Bool
  | [] => false
  | c :: rest => c.isUpper && rest.all fun d => d.isUpper || d.isDigit || d == '_'

/-- A lower-case letter, then letters and digits. -/
def isCamel : List Char → Bool
  | [] => false
  | c :: rest => c.isLower && rest.all Char.isAlphanum

/-- A letter, then letters and digits. -/
def isModule : List Char → Bool
  | [] => false
  | c :: rest => c.isAlpha && rest.all Char.isAlphanum

/-- A module and a camel name, joined by the only underscore. -/
def isModuleCamel (name : List Char) : Bool :=
  match name.splitOn '_' with
  | [module, function] => isModule module && isCamel function
  | _ => false

end HouseStyle.Naming
