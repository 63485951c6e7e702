import HouseStyle.Rule.View

/-!
Contract: the places of braces.

Owns: the rules of either style on opening braces and on `else`, and the rule on closing braces.
Does not own: braces of functions and of one-line statements.
-/

namespace HouseStyle.Brace

open Lexicon

def elseWord : Pattern :=
  .word "else" ++ .boundary

/-- An opening brace directly after a parenthesis or `else`. -/
def attachedBrace : Pattern :=
  (.char ')' <|> (.boundary ++ .word "else")) ++ .char '{'

def controlWord? (stripped : List Char) : Option Excerpt := do
  let found ← controlStart.matchStart? stripped
  found.part? .keyword

/-- In the first style, an `else` on the line after its closing brace. -/
def krElse (view : View) : Except Fault (List Finding) := do
  if view.settings.style != .kr || !elseWord.fits view.stripped then return []
  if view.previousCode?.any fun line => line.stripped == ['}'] then
    let column ← Text.index "else".toList 0 view.code
    return [⟨.krElseSameLine, column, "else".length, []⟩]
  return []

/-- In the first style, braces that touch what is before them. -/
def krAttachedFindings (view : View) : List Finding :=
  if (controlWord? view.stripped).isSome then
    (attachedBrace.findAll view.code).map fun found =>
      Kind.krSpaceBeforeBrace.atColumn (found.stop - 1)
  else []

/-- In the first style, a brace on the line after its statement. -/
def krApartFindings (view : View) : Except Fault (List Finding) := do
  if view.stripped != ['{'] then return []
  let some previous := view.previousCode? | return []
  if previous.stripped.getLast? == some ';' then return []
  let some keyword := controlWord? previous.stripped | return []
  let column ← Text.index ['{'] 0 view.code
  return [⟨.krBraceSameLine, column, 1, [.word keyword.toString]⟩]

/-- In the first style, opening braces that are not where they belong. -/
def krBrace (view : View) : Except Fault (List Finding) := do
  if view.settings.style != .kr then return []
  let apart ← krApartFindings view
  return krAttachedFindings view ++ apart

/-- In the second style, an opening brace at the end of its statement's line. -/
def allmanBrace (view : View) : List Finding :=
  if view.settings.style != .allman || view.stripped.getLast? != some '{' then []
  else match controlWord? view.stripped, Text.findLast? '{' view.code with
    | some keyword, some brace =>
      [⟨.allmanBraceOwnLine, brace, 1, [.word keyword.toString]⟩]
    | _, _ => []

/-- A closing brace after other code on its line. -/
def closingBraceOwnLine (view : View) : Except Fault (List Finding) := do
  let text := view.stripped
  if text.head? == some '}' || Text.excess '}' '{' text ≤ 0 then return []
  let column ← Text.index ['}'] 0 view.code
  return [Kind.closingBraceOwnLine.atColumn column]

end HouseStyle.Brace
