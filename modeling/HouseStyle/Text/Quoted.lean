import HouseStyle.Text.Printable

/-!
Contract: a text as it is shown in a message, between quotes and with escapes.

Owns: the choice of quote and the escape of each character.
Does not own: the quoting of JSON strings, which `Report.Json` writes.

The quote is single unless the text has a single quote and no double one. Backslash, the chosen
quote, line feed, carriage return and tab have a two-character escape; any other character without
a visible form is written by its code point in two, four or eight hexadecimal digits.
-/

namespace HouseStyle.Text

/-- The digits of a number in lower-case hexadecimal, padded with zeros to a width. -/
def hexPadded (width : Nat) (value : Nat) : List Char :=
  let digits := Nat.toDigits 16 value
  List.replicate (width - digits.length) '0' ++ digits

/-- The form of one character between the given quotes. -/
def escapeChar (quote c : Char) : List Char :=
  if c == quote || c == '\\' then ['\\', c]
  else if c == '\n' then ['\\', 'n']
  else if c == '\r' then ['\\', 'r']
  else if c == '\t' then ['\\', 't']
  else if isPrintable c then [c]
  else if c.toNat < 0x100 then '\\' :: 'x' :: hexPadded 2 c.toNat
  else if c.toNat < 0x10000 then '\\' :: 'u' :: hexPadded 4 c.toNat
  else '\\' :: 'U' :: hexPadded 8 c.toNat

def quoteFor (text : List Char) : Char :=
  if text.contains '\'' && !text.contains '"' then '"' else '\''

/-- The text between quotes, with escapes. -/
def quoted (text : String) : String :=
  let quote := quoteFor text.toList
  String.ofList (quote :: text.toList.flatMap (escapeChar quote) ++ [quote])

end HouseStyle.Text
