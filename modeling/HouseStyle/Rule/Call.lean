import HouseStyle.Declaration.Function
import HouseStyle.Rule.Pointer
import HouseStyle.Text.Numeral

/-!
Contract: calls and constants that deserve a second look.

Owns: the rules on magic numbers, insecure functions, uncast allocations, space before a call's
parenthesis, and characters beyond ASCII.
Does not own: the names of functions, which `Rule.FunctionHead` checks.
-/

namespace HouseStyle.Call

open Lexicon

/-- A decimal number that is no part of a word or a fraction. -/
def number : Pattern :=
  .notBehind (fun c => Text.isWord c || c == '.') ++ .several Text.isDecimal ++
    .notAhead fun c => Text.isWord c || c == '.'

/-- The word that opens an enumeration, anywhere on a line. -/
def enumWord : Pattern :=
  .boundary ++ .word "enum" ++ .boundary

/-- The value of a number in the text; too long a number has none. -/
def numberValue (number : Excerpt) : Except Fault Nat :=
  if number.length ≤ Text.digitLimit then .ok (Text.digitsValue number.text)
  else .error (.numeralTooLong (some number.length))

/-- The finding about one number: numbers from two on need a name. -/
def numberFinding? (number : Excerpt) : Except Fault (Option Finding) := do
  let value ← numberValue number
  return if 2 ≤ value then some (Kind.magicNumber.quoting number) else none

def definesConstants (view : View) : Bool :=
  view.isDefinition || view.scope == some .enum || enumWord.occurs view.code

def magicNumber (view : View) : Except Fault (List Finding) := do
  if definesConstants view then return []
  let findings ← (number.findAll view.masked).mapM fun found => numberFinding? found.whole
  return findings.filterMap id

def insecureFunctions : List (String × String) :=
  [("gets", "fgets(buffer, size, stdin)"),
    ("strcpy", "strlcpy(dest, src, dest_size) // or strncpy(dest, src, n)"),
    ("strcat", "strlcat(dest, src, dest_size) // or strncat(dest, src, n)"),
    ("sprintf", "snprintf(buffer, size, ...)"),
    ("vsprintf", "vsnprintf(buffer, size, ap)"),
    ("scanf", "fgets(line, size, stdin) and then sscanf(line, \"%…\", &…)"),
    ("fscanf", "fgets(line, size, file) and then sscanf(line, \"%…\", &…)"),
    ("sscanf", "sscanf(line, \"%width…\", &…) // use width specifiers"),
    ("tmpnam", "mkstemp(template) // or tmpfile()"),
    ("getwd", "getcwd(buffer, size)")]

def insecureCall : Pattern :=
  .boundary ++ .capture .name (.oneOf (insecureFunctions.map Prod.fst)) ++ .blanks ++ .char '('

def insecureFunction (view : View) : List Finding :=
  (insecureCall.findAll view.masked).filterMap fun found => do
    let name ← found.part? .name
    let advice ← insecureFunctions.lookup name.toString
    return Kind.insecureFunction.onWith name [.word name.toString, .word advice]

def allocation : Pattern :=
  .boundary ++ .capture .name (.oneOf ["malloc", "calloc", "realloc"]) ++ .blanks ++ .char '('

/-- Allocations that are not cast to the pointer type they are for. -/
def allocCast (view : View) : List Finding :=
  (allocation.findAll view.masked).filterMap fun found => do
    let name ← found.part? .name
    if Pointer.castAtEnd.occurs (view.masked.take found.start) then none
    else some (Kind.allocNotCast.quoting name)

/-- An identifier, spaces and an opening parenthesis. -/
def spacedCall : Pattern :=
  .capture .name ident ++ .spaces ++ .char '('

def declaredAt? (code : List Char) : Option Nat :=
  ((Function.head? code).map fun head => head.name.start).or
    ((Function.prototype? code).map fun prototype => prototype.name.start)

/-- Space between a called function and its parenthesis. -/
def callSpace (view : View) : List Finding :=
  if view.isDirective then []
  else
    let declared := declaredAt? view.code
    (spacedCall.findAll view.masked).filterMap fun found => do
      let name ← found.part? .name
      if isKeyword name.text || endsWithT name.text || declared == some name.start then none
      else some (Kind.spaceBeforeCallParen.on name)

/-- The first character beyond ASCII that is not blank in the code view. -/
def firstForeign? : Nat → List Char → List Char → Option (Nat × Char)
  | position, c :: raw, d :: code =>
    if 127 < c.toNat && d != ' ' then some (position, c) else firstForeign? (position + 1) raw code
  | _, _, _ => none

/-- The first character beyond ASCII outside comments. -/
def nonAscii (view : View) : List Finding :=
  match firstForeign? 0 view.line.raw view.code with
  | some (position, c) => [⟨.nonAsciiCharacter, position, 1, [.number (.given c.toNat)]⟩]
  | none => []

end HouseStyle.Call
