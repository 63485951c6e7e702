import HouseStyle.Text.Blank
import HouseStyle.Text.Digit

/-!
Contract: reading decimal numerals.

Owns: the value of a run of digits, the length limit, and the reading of a signed numeral.
Does not own: what happens when a numeral is refused.

Digits of every script count. A numeral of more than `digitLimit` digits is never read, and
leading zeros count towards that limit.
-/

namespace HouseStyle.Text

/-- The greatest number of digits that a numeral may have. -/
def digitLimit : Nat := 4300

/-- The least number with more digits than that. -/
def numeralBound : Nat := Nat.pow 10 digitLimit

/-- The value of a run of decimal digits, most significant first. -/
def digitsValue (digits : List Char) : Nat :=
  digits.foldl (fun value c => 10 * value + (digitValue? c).getD 0) 0

/-- Blanks that may surround a numeral: every blank but the four field separators. -/
def isNumeralBlank (c : Char) : Bool :=
  isBlank c && !(0x1C ≤ c.toNat && c.toNat ≤ 0x1F)

/-- The digits of a numeral in which single underscores may stand between two digits. -/
def groupedDigits? (text : List Char) : Option (List Char) :=
  let groups := text.splitOn '_'
  if groups.all fun group => !group.isEmpty && group.all isDecimal then some groups.flatten
  else none

/-- The value of an unsigned numeral, unless it is malformed or too long. -/
def readUnsigned? (text : List Char) : Option Nat := do
  let digits ← groupedDigits? text
  if digits.length ≤ digitLimit then some (digitsValue digits) else none

/-- Reads an integer: an optional sign and a numeral, with blanks around both. -/
def readInt? (text : List Char) : Option Int :=
  let body := (text.dropWhile isNumeralBlank).reverse.dropWhile isNumeralBlank |>.reverse
  match body with
  | '+' :: rest => (readUnsigned? rest).map Int.ofNat
  | '-' :: rest => (readUnsigned? rest).map fun value => -(value : Int)
  | rest => (readUnsigned? rest).map Int.ofNat

end HouseStyle.Text
