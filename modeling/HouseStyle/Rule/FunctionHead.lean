import HouseStyle.Declaration.Function

/-!
Contract: the line on which a function is named.

Owns: the rules on a function's name, its parameters on the same line, its brace, and a return type
on a line of its own.
Does not own: heads over several lines, which `Scan.ParamBlock` follows.
-/

namespace HouseStyle.FunctionHead

def prototypeFindings (code : List Char) (prototype : Function.Prototype) : List Finding :=
  Function.nameFindings prototype.name prototype.gap.text ++
    Parameter.findingsBetween code prototype.parameters.start prototype.parameters.stop ++
    (match prototype.ending with
      | some ending => if ending.text == ['{'] then [Kind.functionBraceOwnLine.on ending] else []
      | none => [])

/-- The findings about a name whose return type stands on the line before. -/
def splitFindings (view : View) (name : Excerpt) : Except Fault (List Finding) := do
  let code := view.code
  let paren ← Text.index ['('] name.stop code
  let nameFindings := Function.nameFindings name (Text.slice code name.stop paren)
  let parameterFindings :=
    match Text.findLast? ')' code with
    | some close =>
      if paren < close then Parameter.findingsBetween code (paren + 1) close else []
    | none => []
  let braceFindings :=
    if view.stripped.getLast? == some '{' then
      match Text.findLast? '{' code with
      | some brace => [Kind.functionBraceOwnLine.atColumn brace]
      | none => []
    else []
  return nameFindings ++ parameterFindings ++ braceFindings

/-- The name, the parameters and the brace of a function. -/
def functionDeclaration (view : View) : Except Fault (List Finding) :=
  match Function.prototype? view.code with
  | some prototype => return prototypeFindings view.code prototype
  | none =>
    match Function.leadingName? view.code with
    | some name =>
      if Function.isBareReturnType view.previousCode && !Lexicon.isKeyword name.text then
        splitFindings view name
      else return []
    | none => return []

def returnTypeLine (view : View) : List Finding :=
  if Function.isBareReturnType view.code &&
      view.nextCode?.any fun next => (Function.leadingName? next.code).isSome then
    [⟨.returnTypeSeparateLine, Source.leadingLength view.line.raw, view.stripped.length, []⟩]
  else []

end HouseStyle.FunctionHead
