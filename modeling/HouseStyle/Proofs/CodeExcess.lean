import HouseStyle.Proofs.Text

/-!
Contract: how often the lines with code of a file have one character more than another.

Owns: the excess over several lines, and its change from line to line.
Does not own: which braces or parentheses belong together.

A line without code shows blanks and hidden characters only, so that it adds nothing, and the excess
changes with every line by what the code view of that line has.
-/

namespace HouseStyle.Line

/-- How often one character exceeds another in the lines with code. -/
def codeExcess (opener closer : Char) (lines : List Line) : Int :=
  Text.excess opener closer ((lines.filter Line.hasCode).flatMap Line.code)

/-- A character that makes a line one with code. -/
def isCodeCharacter (c : Char) : Bool :=
  !Text.isBlank c && c != maskCharacter

variable {opener closer : Char}

/-- A line without code has as many of both characters, namely none. -/
theorem excess_of_codeless (openerCode : isCodeCharacter opener) (closerCode : isCodeCharacter closer)
    {line : Line} (codeless : line.hasCode = false) :
    Text.excess opener closer line.code = 0 := by
  rw [hasCode, List.any_eq_false] at codeless
  apply Text.excess_of_not_mem
  · intro member
    exact codeless opener member openerCode
  · intro member
    exact codeless closer member closerCode

theorem codeExcess_append (first second : List Line) :
    codeExcess opener closer (first ++ second) =
      codeExcess opener closer first + codeExcess opener closer second := by
  rw [codeExcess, List.filter_append, List.flatMap_append, Text.excess_append]
  rfl

theorem codeExcess_singleton (openerCode : isCodeCharacter opener)
    (closerCode : isCodeCharacter closer) (line : Line) :
    codeExcess opener closer [line] = Text.excess opener closer line.code := by
  unfold codeExcess
  cases coded : line.hasCode with
  | true => rw [List.filter_cons_of_pos coded, List.filter_nil, List.flatMap_singleton]
  | false =>
    rw [List.filter_cons_of_neg (by simp [coded]), excess_of_codeless openerCode closerCode coded]
    rfl

/-- The braces that the lines with code open and do not close. -/
def openBraces (lines : List Line) : Int :=
  codeExcess '{' '}' lines

theorem openBraces_append (first second : List Line) :
    openBraces (first ++ second) = openBraces first + openBraces second :=
  codeExcess_append first second

theorem openBraces_singleton (line : Line) :
    openBraces [line] = Text.excess '{' '}' line.code :=
  codeExcess_singleton (by decide) (by decide) line

theorem openBraces_cons (line : Line) (rest : List Line) :
    openBraces (line :: rest) = Text.excess '{' '}' line.code + openBraces rest := by
  rw [← openBraces_singleton, ← openBraces_append]
  rfl

end HouseStyle.Line
