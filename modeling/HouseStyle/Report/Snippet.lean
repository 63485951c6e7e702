import HouseStyle.Diagnostic.Basic

/-!
Contract: the lines shown with a diagnostic.

Owns: which lines are shown, their numbers, and the carets under the offending part.
Does not own: the rest of a report.

A diagnostic of a check starts at a column of its line or after it, and is always shown. One that
starts far before its line may need more carets than a row can hold.
-/

namespace HouseStyle.Report

def padded (width : Nat) (value : Nat) : String :=
  let digits := toString value
  String.ofList (List.replicate (width - digits.length) ' ') ++ digits

def numberedRow (index : Nat) (line : List Char) : String :=
  padded 3 (index + 1) ++ " | " ++ String.ofList line

/-- The column at which the carets under a line start, which is not beyond the line. -/
def caretColumn (diagnostic : Diagnostic) (line : List Char) : Int :=
  min diagnostic.column line.length

/-- The number of carets under a line; there is at least one, and none beyond the line otherwise. -/
def caretWidth (diagnostic : Diagnostic) (line : List Char) : Int :=
  max (min diagnostic.length (line.length - caretColumn diagnostic line)) 1

/-- The least number of carets that no row can hold. -/
def maxCarets : Int := 0x100_0000_0000

/-- Positions are at least the opposite of this number, and less than the number itself. -/
def positionBound : Int := 0x8000_0000_0000_0000

/-- Why carets cannot be shown, if they cannot. -/
def caretFault? (diagnostic : Diagnostic) (line : List Char) : Option Fault :=
  let column := caretColumn diagnostic line
  let width := caretWidth diagnostic line
  if column < -positionBound then some .widthOutOfRange
  else if width ≤ line.length then none
  else if positionBound ≤ width then some .widthOutOfRange
  else if maxCarets ≤ width then some .textTooLong
  else none

/-- The row with the carets under the offending part of a line. -/
def caretRow (diagnostic : Diagnostic) (line : List Char) : Except Fault String :=
  match caretFault? diagnostic line with
  | some fault => .error fault
  | none =>
    .ok ("    | " ++ String.ofList
      (List.replicate (caretColumn diagnostic line).toNat ' ' ++
        List.replicate (caretWidth diagnostic line).toNat '^'))

/-- The rows for the line with the given index, if it is the offending line or next to it. -/
def rowsFor (diagnostic : Diagnostic) (index : Nat) (line : List Char) :
    Except Fault (List String) := do
  if diagnostic.line - 2 ≤ index ∧ index ≤ diagnostic.line then
    if (index : Int) = diagnostic.line - 1 then
      return [numberedRow index line, ← caretRow diagnostic line]
    else return [numberedRow index line]
  else return []

def rowsFrom (diagnostic : Diagnostic) (index : Nat) :
    List (List Char) → Except Fault (List String)
  | [] => return []
  | line :: rest => do
    let rows ← rowsFor diagnostic index line
    let others ← rowsFrom diagnostic (index + 1) rest
    return rows ++ others

/-- The offending line between its neighbours, with carets under it. -/
def snippet (lines : List (List Char)) (diagnostic : Diagnostic) : Except Fault (List String) :=
  rowsFrom diagnostic 0 lines

/-- Carets that start in a line can be shown. -/
theorem caretFault?_eq_none {diagnostic : Diagnostic} (line : List Char)
    (inside : 0 ≤ diagnostic.column) : caretFault? diagnostic line = none := by
  unfold caretFault? caretWidth caretColumn positionBound maxCarets
  grind

end HouseStyle.Report
