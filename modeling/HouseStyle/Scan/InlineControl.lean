import HouseStyle.Rule.View

/-!
Contract: control statements with their whole body on the same line.

Owns: splitting a control line into keyword, condition and body; the test for a one-line statement,
and the rules on it.
Does not own: the indentation of bodies on lines of their own.

Main statement: the body of a split line is shorter than the line (`length_body_lt`), so the test
for a chain of one-line statements comes to an end. A check may limit how long a chain it follows.
-/

namespace HouseStyle.InlineControl

def controlKeyword : Pattern :=
  .atStart ++
    .capture .keyword ((.word "else" ++ .gap ++ .word "if") <|>
      .oneOf ["if", "for", "while", "switch", "else", "do"]) ++
    .boundary

def innerControl : Pattern :=
  .boundary ++ .oneOf ["if", "for", "while", "switch", "do"] ++ .boundary

/-- The parts of a control line: its keyword, the position after it, the positions of the
parentheses around its condition, and the position at which its body starts. -/
structure Split where
  keyword : List Char
  keywordEnd : Nat
  parens : Option (Nat × Nat)
  bodyStart : Nat
deriving DecidableEq, Repr

/-- The position of the parenthesis that closes the last open one, reading from a position at which
the given number of parentheses is open. -/
def closingParen? : Nat → Nat → List Char → Option Nat
  | _, _, [] => none
  | depth, position, c :: rest =>
    if c = '(' then closingParen? (depth + 1) (position + 1) rest
    else if c = ')' then
      if depth ≤ 1 then some position else closingParen? (depth - 1) (position + 1) rest
    else closingParen? depth (position + 1) rest

/-- The condition's parentheses, if they come next and are closed on the line. -/
def condition? (code : List Char) (keywordEnd : Nat) : Option (Nat × Nat) := do
  let opener ← Text.findFrom? ['('] keywordEnd code
  if Text.isBlankText (Text.slice code keywordEnd opener) then
    let closer ← closingParen? 0 opener (code.drop opener)
    return (opener, closer)
  else none

/-- The parts of a control line, if its keyword and its condition are complete. -/
def split? (code : List Char) : Option Split := do
  let offset := (code.takeWhile Text.isBlank).length
  let found ← controlKeyword.matchStart? (Text.trimLeft code)
  let word ← found.part? .keyword
  let keyword := Text.squeeze word.text
  let keywordEnd := offset + word.stop
  if keyword == "else".toList || keyword == "do".toList then
    return ⟨keyword, keywordEnd, none, keywordEnd⟩
  else
    let (opener, closer) ← condition? code keywordEnd
    return ⟨keyword, keywordEnd, some (opener, closer), closer + 1⟩

/-- The body of a split line, without blanks around it. -/
def Split.body (split : Split) (code : List Char) : List Char :=
  Text.trim (code.drop split.bodyStart)

/-- A split line does not start with its body. -/
theorem bodyStart_pos {code : List Char} {split : Split} (found : split? code = some split) :
    0 < split.bodyStart := by
  unfold split? at found
  obtain ⟨start, _, found⟩ := Option.bind_eq_some_iff.mp found
  obtain ⟨word, _, found⟩ := Option.bind_eq_some_iff.mp found
  by_cases bare : Text.squeeze word.text == "else".toList || Text.squeeze word.text == "do".toList
  · have written : word.text ≠ [] := by
      intro nothing
      rw [nothing, Text.squeeze_nil] at bare
      exact absurd bare (by decide)
    have positive := List.length_pos_iff.mpr written
    rw [if_pos bare] at found
    cases found
    show 0 < (code.takeWhile Text.isBlank).length + word.stop
    unfold Excerpt.stop
    omega
  · rw [if_neg bare] at found
    obtain ⟨parens, _, found⟩ := Option.bind_eq_some_iff.mp found
    cases found
    exact Nat.succ_pos _

/-- The body of a split line is shorter than the line. -/
theorem length_body_lt {code : List Char} {split : Split} (found : split? code = some split)
    (inked : split.body code ≠ []) : (split.body code).length < code.length := by
  have later := bodyStart_pos found
  have shorter := Text.length_trim_le (code.drop split.bodyStart)
  have some := List.length_pos_iff.mpr inked
  rw [List.length_drop] at shorter
  unfold Split.body at *
  omega

/-- A control line that carries its whole body. After `else` the body may be a control line
itself. -/
def isInline (code : List Char) : Bool :=
  match found : split? code with
  | none => false
  | some split =>
    let body := split.body code
    if inked : body = [] then false
    else if body.head? == some '{' then
      body.getLast? == some '}' && body.count '{' == body.count '}'
    else if body.contains '{' || body.contains '}' then false
    else if split.keyword == "else".toList && controlKeyword.fits body then
      have := length_body_lt found inked
      isInline body
    else body.getLast? == some ';'
termination_by code.length

/-- The control line that is the body of a line with `else`, unless braces are in it. -/
def chained? (code : List Char) : Option (List Char) := do
  let split ← split? code
  let body := split.body code
  if split.keyword == "else".toList && controlKeyword.fits body &&
      !body.contains '{' && !body.contains '}' then
    return body
  else none

/-- Whether a line chains more control words than given. -/
def chainsMoreThan : Nat → List Char → Bool
  | 0, _ => true
  | count + 1, code =>
    match chained? code with
    | some body => chainsMoreThan count body
    | none => false

/-- Whether a line is a control line that carries its whole body, where no more control words are
followed than allowed. -/
def isInlineWithin (limit : Option Nat) (code : List Char) : Except Fault Bool :=
  if limit.any fun count => chainsMoreThan count code then .error .chainTooLong
  else .ok (isInline code)

/-- Without a limit the test does not fail. -/
@[simp]
theorem isInlineWithin_none (code : List Char) : isInlineWithin none code = .ok (isInline code) :=
  rfl

def afterParenFindings (code : List Char) (split : Split) : List Finding :=
  match split.parens with
  | none => []
  | some (_, closer) =>
    if code[closer + 1]?.any fun c => !Text.isBlank c then
      [Kind.inlineSpaceAfterParen.atColumn (closer + 1)]
    else []

/-- The findings about the statements inside a body that starts at a column. -/
def statementFindings (column : Nat) (inner : List Char) : List Finding :=
  let statements := (inner.splitOn ';').filter fun part => !Text.isBlankText part
  (if !Text.isBlankText inner && statements.length != 1 then
    [⟨.inlineOneStatement, column, inner.length, []⟩] else []) ++
  (match innerControl.search? inner with
    | some found => [(Kind.inlineControlStatement.on found.whole).shift column]
    | none => [])

/-- The findings about the spaces and braces just inside a pair of braces; the inside starts at a
column and ends before the closing brace. -/
def insideFindings (column : Nat) (closer : Int) (inner : List Char) : List Finding :=
  (if inner.head?.any fun c => !Text.isBlank c then
    [Kind.spaceAfterOpeningBrace.atColumn column] else []) ++
  (if inner.getLast?.any fun c => !Text.isBlank c then
    [⟨.spaceBeforeClosingBrace, closer - 1, 1, []⟩] else []) ++
  (match inner.findIdx? fun c => c == '{' || c == '}' with
    | some nested => [Kind.inlineNestedBraces.atColumn (column + nested)]
    | none => [])

def bodyFindings (code : List Char) (split : Split) : List Finding :=
  match Text.findFrom? ['{'] split.bodyStart code with
  | some opener =>
    let closer : Int := match Text.findLast? '}' code with
      | some position => position
      | none => -1
    let inner := Text.sliceBounds code (opener + 1) closer
    if inner.isEmpty then [⟨.inlineEmptyBraces, opener, 2, []⟩]
    else insideFindings (opener + 1) closer inner ++ statementFindings (opener + 1) inner
  | none => statementFindings split.bodyStart (Text.trimRight (code.drop split.bodyStart))

def findings (code : List Char) : List Finding :=
  match split? code with
  | none => []
  | some split => afterParenFindings code split ++ bodyFindings code split

end HouseStyle.InlineControl
