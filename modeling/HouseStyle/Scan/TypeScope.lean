import HouseStyle.Rule.Member
import HouseStyle.Scan.State

/-!
Contract: the scopes of structures, unions and enumerations.

Owns: the lines that open and close a type, types on one line, and the rules on tags, instances and
alias names.
Does not own: the members on lines of their own, which `Rule.Member` checks.
-/

namespace HouseStyle.TypeScope

open Lexicon

def closing : Pattern :=
  .atStart ++ .blanks ++ .char '}' ++ .blanks ++ .opt (stars ++ .blanks) ++
    .opt (.capture .name ident) ++ .blanks ++ arrayBounds ++
    .opt (.char '=' ++ .manyBut [';']) ++ .opt (.char ';') ++ .blanks ++ .atEnd

def headOf? (index : Nat) (found : Match) : Option TypeHead := do
  let word ← found.part? .keyword
  let kind ← TypeKind.ofWord? word.text
  let tag := found.part? .tag
  return {
    kind
    isTypedef := (found.part? .typedefWord).isSome
    tag := tag.map Excerpt.text
    tagLine := index + 1
    tagColumn := (tag.map Excerpt.start).getD 0 }

def nameDiagnostics (head : TypeHead) (number : Nat) (brace : Nat) (name : Option Excerpt) :
    Except Fault (List Diagnostic) :=
  let kind := Argument.word head.kind.word
  match name with
  | none =>
    if head.isTypedef then
      [(⟨.typedefNameMissing, brace, 1, [kind]⟩ : Finding)].mapM fun finding => finding.onLine number
    else .ok []
  | some name =>
    let arguments := [kind, .word name.toString]
    let attached :=
      if name.start = brace + 1 then [Kind.spaceAfterClosingBrace.atColumn (brace + 1)] else []
    let named :=
      if head.isTypedef then
        if Naming.isSnakeType name.text then []
        else [Kind.typedefTypeName.onWith name arguments]
      else
        (if Naming.isSnake name.text then []
          else [Kind.instanceNotSnake.onWith name arguments]) ++
        (if endsWithT name.text then [Kind.instanceEndsWithT.onWith name arguments] else [])
    (attached ++ named).mapM fun finding => finding.onLine number

/-- The diagnostics about the tag of a type, on the line that opened it. -/
def tagDiagnostics (head : TypeHead) : Except Fault (List Diagnostic) :=
  match head.tag with
  | none => .ok []
  | some tag =>
    if Naming.isCamel tag then .ok []
    else do
      let diagnostic ← Kind.typeTagNotCamel.diagnostic head.tagLine head.tagColumn tag.length
        [.word head.kind.word, .word (String.ofList tag)]
      return [diagnostic]

def closingDiagnostics (head : TypeHead) (number : Nat) (code : List Char) (found : Match) :
    Except Fault (List Diagnostic) := do
  let brace ← Text.index ['}'] 0 code
  let named ← nameDiagnostics head number brace (found.part? .name)
  let tagged ← tagDiagnostics head
  return named ++ tagged

def memberDiagnostics (kind : TypeKind) (number : Nat) (inside : Excerpt) :
    Except Fault (List Diagnostic) := do
  let members := (inside.splitOn (if kind = .enum then ',' else ';')).filter fun member =>
    !Text.isBlankText member.text
  let findings := members.flatMap fun member =>
    let text := if kind = .enum then member.text else member.text ++ [';']
    (Member.findings kind text).map fun finding => finding.shift member.start
  findings.mapM fun finding => finding.onLine number

/-- The diagnostics about a type that opens and closes on one line. -/
def oneLineDiagnostics (head : TypeHead) (number : Nat) (code : List Char) (bodyStart close : Nat) :
    Except Fault (List Diagnostic) := do
  let members ← memberDiagnostics head.kind number ⟨bodyStart, Text.slice code bodyStart close⟩
  let ending := List.replicate close ' ' ++ code.drop close
  match closing.matchStart? ending with
  | some found =>
    let closed ← closingDiagnostics head number ending found
    return members ++ closed
  | none => return members

/-- What a line does to the open types: the diagnostics about a closed type, if it closed one, and
the state after it. -/
abbrev Outcome := Option (List Diagnostic) × ScanState

/-- The outcome of a line that opens a type together with its brace. -/
def openWithBrace (index : Nat) (code : List Char) (head : TypeHead) (bodyStart : Nat)
    (state : ScanState) : Except Fault Outcome :=
  match Text.findLast? '}' code with
  | some close =>
    if bodyStart ≤ close then do
      let diagnostics ← oneLineDiagnostics head (index + 1) code bodyStart close
      return (some diagnostics, state)
    else return (none, state.openType head)
  | none => return (none, state.openType head)

/-- The outcome of a line that may close the innermost type. -/
def closeInnermost (index : Nat) (code : List Char) (state : ScanState) : Except Fault Outcome := do
  let some scope := state.types.head? | return (none, state)
  if (Text.trim code).head? == some '}' && state.depth + 1 == scope.depth then
    let outside ← state.closeType
    match closing.matchStart? code with
    | some found =>
      let diagnostics ← closingDiagnostics scope.head (index + 1) code found
      return (some diagnostics, outside)
    | none => return (some [], outside)
  else return (none, state)

/-- The outcome of a line when no earlier line waits for its brace. -/
def openOrClose (index : Nat) (code : List Char) (state : ScanState) : Except Fault Outcome :=
  match (Member.bareStart.matchStart? code).bind (headOf? index) with
  | some head => return (none, { state with pendingType := some ⟨head, index⟩ })
  | none =>
    match Member.braceStart.matchStart? code with
    | some found =>
      match headOf? index found with
      | some head => openWithBrace index code head found.stop state
      | none => closeInnermost index code state
    | none => closeInnermost index code state

/-- The outcome of a line of code. A type that waits for its brace is opened by a brace at the start
of this line and given up by anything else. -/
def step (index : Nat) (code : List Char) (state : ScanState) : Except Fault Outcome :=
  match state.pendingType with
  | some pending =>
    if pending.line = index then openOrClose index code state
    else
      let settled := { state with pendingType := none }
      if (Text.trim code).head? == some '{' then return (none, settled.openType pending.head)
      else openOrClose index code settled
  | none => openOrClose index code state

end HouseStyle.TypeScope
