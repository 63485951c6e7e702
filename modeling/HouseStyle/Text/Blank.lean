/-!
Contract: blank characters and trimming.

Owns: the blank test, trimming at both ends, and splitting into words at blanks.
Does not own: spaces and tabs as indentation, which `Source.indentWidth` measures.

Texts are lists of characters, so that a position counts code points.
-/

namespace HouseStyle.Text

/-- White space of every script, with the line, page and field separators. -/
def isBlank (c : Char) : Bool :=
  let code := c.toNat
  (0x09 ≤ code && code ≤ 0x0D) || (0x1C ≤ code && code ≤ 0x20) || code == 0x85 || code == 0xA0 ||
    code == 0x1680 || (0x2000 ≤ code && code ≤ 0x200A) || code == 0x2028 || code == 0x2029 ||
    code == 0x202F || code == 0x205F || code == 0x3000

/-- The text without its leading blanks. -/
def trimLeft (text : List Char) : List Char :=
  text.dropWhile isBlank

/-- The text without its trailing blanks. -/
def trimRight (text : List Char) : List Char :=
  (text.reverse.dropWhile isBlank).reverse

/-- The text without the blanks at either end. -/
def trim (text : List Char) : List Char :=
  trimRight (trimLeft text)

theorem length_trimRight_le (text : List Char) : (trimRight text).length ≤ text.length := by
  have shorter := (List.dropWhile_sublist isBlank (l := text.reverse)).length_le
  rw [List.length_reverse] at shorter
  rw [trimRight, List.length_reverse]
  exact shorter

theorem length_trim_le (text : List Char) : (trim text).length ≤ text.length :=
  Nat.le_trans (length_trimRight_le (trimLeft text)) (List.dropWhile_sublist isBlank).length_le

/-- A text of blanks only, the empty text among them. -/
def isBlankText (text : List Char) : Bool :=
  text.all isBlank

/-- The maximal runs of characters that are not blank. -/
def words (text : List Char) : List (List Char) :=
  (text.splitOnP isBlank).filter fun word => !word.isEmpty

/-- The words of a text, joined by single spaces. -/
def squeeze (text : List Char) : List Char :=
  [' '].intercalate (words text)

theorem squeeze_nil : squeeze [] = [] := by
  decide

end HouseStyle.Text
