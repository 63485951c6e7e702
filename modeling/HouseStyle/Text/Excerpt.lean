import HouseStyle.Text.Blank

/-!
Contract: a piece of a text that knows where it stands.

Owns: the excerpt, its length and the position after it, and cutting it into smaller ones.
Does not own: how excerpts are found.
-/

namespace HouseStyle

/-- A piece of a text together with the position of its first character. -/
structure Excerpt where
  start : Nat
  text : List Char
deriving DecidableEq, Repr

namespace Excerpt

def length (excerpt : Excerpt) : Nat :=
  excerpt.text.length

def stop (excerpt : Excerpt) : Nat :=
  excerpt.start + excerpt.text.length

def toString (excerpt : Excerpt) : String :=
  String.ofList excerpt.text

/-- The excerpt without blanks at its ends. -/
def trim (excerpt : Excerpt) : Excerpt :=
  ⟨excerpt.start + (excerpt.text.takeWhile Text.isBlank).length, Text.trim excerpt.text⟩

/-- Texts laid out from a position on, with one character between each two. -/
def layOut : Nat → List (List Char) → List Excerpt
  | _, [] => []
  | start, text :: rest => ⟨start, text⟩ :: layOut (start + text.length + 1) rest

/-- The pieces of an excerpt between the separators. -/
def splitOn (excerpt : Excerpt) (separator : Char) : List Excerpt :=
  layOut excerpt.start (excerpt.text.splitOn separator)

end Excerpt

end HouseStyle
