import HouseStyle.Fault
import HouseStyle.Text.Blank

/-!
Contract: the two brace styles and the settings of a check.

Owns: styles, their names, and reading a style from a text.
Does not own: the source of the settings, which is the command line or the service.
-/

namespace HouseStyle

/-- Where an opening brace goes: on the line of its statement, or on a line of its own. -/
inductive Style where
  | kr
  | allman
deriving DecidableEq, Repr

namespace Style

def name : Style → String
  | kr => "kr"
  | allman => "allman"

def all : List Style := [kr, allman]

/-- Lower case as far as style names need it: the Latin capitals, and the kelvin sign, which is a
capital K. -/
def lowerCase (c : Char) : Char :=
  if c == '\u212A' then 'k' else c.toLower

/-- The style that a text names, blanks around it and letter case aside. -/
def parse? (text : String) : Option Style :=
  let name := String.ofList ((Text.trim text.toList).map lowerCase)
  all.find? fun style => style.name == name

/-- The style that a text names; no text names none. -/
def parse (text : Option String) : Except Fault Style :=
  match text.bind parse? with
  | some style => .ok style
  | none => .error (.unknownStyle text)

end Style

/-- What a check depends on besides the text: the brace style, the greatest line length, and the
greatest number of control words that a line may chain, if there is one. -/
structure Settings where
  style : Style
  limit : Int
  chainLimit : Option Nat
deriving DecidableEq, Repr

namespace Settings

/-- The line length that is checked for when none is asked for. -/
def defaultLimit : Int := 80

def defaultChainLimit : Nat := 987

/-- The settings of a check with the given style and line length. -/
def of (style : Style) (limit : Int) : Settings :=
  ⟨style, limit, some defaultChainLimit⟩

/-- The settings of a check that asks for nothing in particular. -/
def default : Settings :=
  of .kr defaultLimit

end Settings

end HouseStyle
