import HouseStyle.Fault
import HouseStyle.Text.Numeral

/-!
Contract: message templates and their arguments.

Owns: the pieces of a template, its written form, and the message that arguments make of it.
Does not own: the templates of the catalogue, which `Diagnostic.Kind` lists.

Arguments fill the places from left to right. A word place takes any argument; a decimal or
hexadecimal place takes a number. In decimal digits a number is written only if it has no more of
them than a numeral may have. A template without arguments is its own message, places and all.
-/

namespace HouseStyle

/-- One part of a template: fixed text, or a place for an argument. -/
inductive Piece where
  | text (content : String)
  | word
  | decimal
  | hexadecimal
deriving DecidableEq, Repr

abbrev Template := List Piece

/-- A number in a message. One that is given may have any number of digits; a measure of a text has
few, for no text is so long that its length has many. -/
inductive Quantity where
  | given (value : Int)
  | measure (value : Int)
deriving DecidableEq, Repr

namespace Quantity

def value : Quantity → Int
  | given value => value
  | measure value => value

instance : Coe Int Quantity := ⟨given⟩

instance : Coe Quantity Int := ⟨value⟩

/-- A number that a measure exceeds. From zero on it measures a part of the same text. -/
def exceeded (value : Int) : Quantity :=
  if value < 0 then given value else measure value

/-- The sign and the decimal digits of a number, unless it has too many to be written. -/
def written : Quantity → Except Fault String
  | given value =>
    if value.natAbs < Text.numeralBound then .ok (toString value)
    else .error (.numeralTooLong none)
  | measure value => .ok (toString value)

end Quantity

/-- What fills a place of a template. -/
inductive Argument where
  | word (content : String)
  | number (quantity : Quantity)
deriving DecidableEq, Repr

def Piece.written : Piece → String
  | .text content => content
  | .word => "%s"
  | .decimal => "%d"
  | .hexadecimal => "%X"

def Template.written (template : Template) : String :=
  String.join (template.map Piece.written)

def hexUpper (value : Int) : String :=
  let digits := String.ofList ((Nat.toDigits 16 value.natAbs).map Char.toUpper)
  if value < 0 then "-" ++ digits else digits

/-- The text that an argument makes of a place, or why the two do not fit. -/
def Piece.fill : Piece → Argument → Except Fault String
  | .text content, _ => .ok content
  | .word, .word content => .ok content
  | .word, .number quantity => quantity.written
  | .decimal, .number quantity => quantity.written
  | .decimal, .word _ => .error .numberExpected
  | .hexadecimal, .number quantity => .ok (hexUpper quantity.value)
  | .hexadecimal, .word _ => .error .integerExpected

/-- The message in which the arguments stand in the places of a template, one each. -/
def Template.fill : Template → List Argument → Except Fault String
  | [], [] => .ok ""
  | [], _ :: _ => .error .unusedArgument
  | .text content :: pieces, arguments => do
    let rest ← Template.fill pieces arguments
    return content ++ rest
  | _ :: _, [] => .error .missingArgument
  | piece :: pieces, argument :: arguments => do
    let head ← piece.fill argument
    let rest ← Template.fill pieces arguments
    return head ++ rest

def Template.format (template : Template) (arguments : List Argument) : Except Fault String :=
  if arguments.isEmpty then .ok template.written else Template.fill template arguments

end HouseStyle
