/-!
Contract: where a word stands in a text, and the piece between two positions.

Owns: first and last occurrences, and slices.
Does not own: anything that needs alternatives or repetition, which is `Pattern`.

A position is the number of characters before it.
-/

namespace HouseStyle.Text

/-- The first position at which the word stands. -/
def find? (word : List Char) : List Char → Option Nat
  | [] => if word.isEmpty then some 0 else none
  | c :: rest => if word.isPrefixOf (c :: rest) then some 0 else (find? word rest).map (· + 1)

/-- The first position at or after `start` at which the word stands. -/
def findFrom? (word : List Char) (start : Nat) (text : List Char) : Option Nat :=
  (find? word (text.drop start)).map (· + start)

/-- The last position at which the character stands. -/
def findLast? (c : Char) : List Char → Option Nat
  | [] => none
  | d :: rest =>
    match findLast? c rest with
    | some position => some (position + 1)
    | none => if d == c then some 0 else none

def hasWord (word : List Char) (text : List Char) : Bool :=
  (find? word text).isSome

/-- The characters from `start` up to but excluding `stop`. -/
def slice (text : List Char) (start stop : Nat) : List Char :=
  (text.take stop).drop start

/-- The position that an integer bound names in a text of the given length: a negative bound counts
back from the end, and a bound outside the text means the nearer end. -/
def boundPosition (length : Nat) (bound : Int) : Nat :=
  if bound < 0 then (bound + length).toNat else min bound.toNat length

/-- The characters between two integer bounds. -/
def sliceBounds (text : List Char) (start stop : Int) : List Char :=
  slice text (boundPosition text.length start) (boundPosition text.length stop)

/-- How often one character exceeds another in a text: opened less closed. -/
def excess (opener closer : Char) (text : List Char) : Int :=
  (text.count opener : Int) - text.count closer

end HouseStyle.Text
