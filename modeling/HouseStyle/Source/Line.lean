import HouseStyle.Text.Blank
import HouseStyle.Text.Excerpt

/-!
Contract: a line with its comments and literals marked.

Owns: the segments of a line, and the views of it in which comments and literals are hidden.
Does not own: the meaning of the code that remains.

A line falls into segments: single characters of code, comments and literals. In the masked view
comments and literals are replaced by the mask character; in the code view comments become spaces
and only literals are masked. Both views keep every column in place. A block comment goes on from
line to line, and a literal ends with its line at the latest.

Main statements: nothing of a line is lost in its segments (`flatMap_raw_segments`), and both views
have the length of the line (`length_masked_ofRaw`, `length_code_ofRaw`).
-/

namespace HouseStyle

def maskCharacter : Char := '\uFFFD'

/-- Whether a line start lies in a block comment. -/
inductive CommentState where
  | code
  | block
deriving DecidableEq, Repr

/-- A piece of a line. -/
inductive Segment where
  | code (c : Char)
  | comment (text : List Char)
  | literal (text : List Char)
deriving DecidableEq, Repr

namespace Segment

def raw : Segment → List Char
  | code c => [c]
  | comment text => text
  | literal text => text

/-- The characters of a segment with comments and literals hidden. -/
def masked : Segment → List Char
  | code c => [c]
  | comment text => text.map fun _ => maskCharacter
  | literal text => text.map fun _ => maskCharacter

/-- The characters of a segment with comments blank and literals hidden. -/
def visible : Segment → List Char
  | code c => [c]
  | comment text => text.map fun _ => ' '
  | literal text => text.map fun _ => maskCharacter

@[simp] theorem length_masked (segment : Segment) : segment.masked.length = segment.raw.length := by
  cases segment <;> simp [masked, raw]

@[simp] theorem length_visible (segment : Segment) :
    segment.visible.length = segment.raw.length := by
  cases segment <;> simp [visible, raw]

end Segment

namespace Source

/-- A comment body up to and with its end, and the text after it, if it ends. -/
def splitComment : List Char → List Char × Option (List Char)
  | [] => ([], none)
  | '*' :: '/' :: rest => (['*', '/'], some rest)
  | c :: rest =>
    let (comment, after) := splitComment rest
    (c :: comment, after)

/-- A literal up to and with its closing quote, and the text after it. A backslash takes the
character after it along. -/
def splitLiteral (quote : Char) : List Char → List Char × List Char
  | [] => ([], [])
  | ['\\'] => (['\\'], [])
  | '\\' :: c :: rest =>
    let (literal, after) := splitLiteral quote rest
    ('\\' :: c :: literal, after)
  | c :: rest =>
    if c = quote then ([c], rest)
    else
      let (literal, after) := splitLiteral quote rest
      (c :: literal, after)

theorem splitComment_eq_append {text comment rest : List Char}
    (split : splitComment text = (comment, some rest)) : comment ++ rest = text := by
  fun_induction splitComment text generalizing comment with
  | case1 => simp at split
  | case2 =>
    simp only [Prod.mk.injEq, Option.some.injEq] at split
    rw [← split.1, ← split.2]
    rfl
  | case3 c tail _ inner after eq ih =>
    simp only [Prod.mk.injEq] at split
    have := ih (show splitComment tail = (inner, some rest) by rw [eq, split.2])
    rw [← split.1, List.cons_append, this]

theorem splitComment_eq_self {text comment : List Char}
    (split : splitComment text = (comment, none)) : comment = text := by
  fun_induction splitComment text generalizing comment with
  | case1 => simp_all
  | case2 => simp at split
  | case3 c tail _ inner after eq ih =>
    simp only [Prod.mk.injEq] at split
    rw [← split.1, ih (show splitComment tail = (inner, none) by rw [eq, split.2])]

theorem splitLiteral_append (quote : Char) (text : List Char) :
    (splitLiteral quote text).1 ++ (splitLiteral quote text).2 = text := by
  fun_induction splitLiteral quote text with
  | case1 => rfl
  | case2 => rfl
  | case3 c rest literal after eq ih => simp_all
  | case4 rest => rfl
  | case5 c rest _ _ _ literal after eq ih => simp_all

theorem splitComment_shorter {text comment rest : List Char}
    (split : splitComment text = (comment, some rest)) : rest.length < text.length := by
  fun_induction splitComment text generalizing comment with
  | case1 => simp at split
  | case2 =>
    simp only [Prod.mk.injEq, Option.some.injEq] at split
    simp only [List.length_cons, split.2]
    omega
  | case3 c tail _ inner after eq ih =>
    simp only [Prod.mk.injEq] at split
    have := ih (show splitComment tail = (inner, some rest) by rw [eq, split.2])
    simp only [List.length_cons]
    omega

theorem splitLiteral_no_longer (quote : Char) (text : List Char) :
    (splitLiteral quote text).2.length ≤ text.length := by
  fun_induction splitLiteral quote text with
  | case1 => simp
  | case2 => simp
  | case3 c rest literal after eq ih => simp_all; omega
  | case4 rest => simp
  | case5 c rest _ _ _ literal after eq ih => simp_all; omega

/-- The segments of a line and the comment state after it. -/
def segments (state : CommentState) (text : List Char) : List Segment × CommentState :=
  match state, text with
  | state, [] => ([], state)
  | .block, c :: rest =>
    match split : splitComment (c :: rest) with
    | (comment, none) => ([.comment comment], .block)
    | (comment, some after) =>
      have := splitComment_shorter split
      let (following, state) := segments .code after
      (.comment comment :: following, state)
  | .code, '/' :: '/' :: rest => ([.comment ('/' :: '/' :: rest)], .code)
  | .code, '/' :: '*' :: rest =>
    match split : splitComment rest with
    | (comment, none) => ([.comment ('/' :: '*' :: comment)], .block)
    | (comment, some after) =>
      have := splitComment_shorter split
      let (following, state) := segments .code after
      (.comment ('/' :: '*' :: comment) :: following, state)
  | .code, c :: rest =>
    if c = '"' ∨ c = '\'' then
      have := splitLiteral_no_longer c rest
      let (following, state) := segments .code (splitLiteral c rest).2
      (.literal (c :: (splitLiteral c rest).1) :: following, state)
    else
      let (following, state) := segments .code rest
      (.code c :: following, state)
termination_by text.length
decreasing_by
  all_goals simp only [List.length_cons] at *; omega

/-- Nothing of a line is lost in its segments. -/
theorem flatMap_raw_segments (state : CommentState) (text : List Char) :
    (segments state text).1.flatMap Segment.raw = text := by
  fun_induction segments state text with
  | case1 => rfl
  | case2 c rest comment split =>
    simp [Segment.raw, splitComment_eq_self split]
  | case3 c rest comment after split _ following state eq ih =>
    rw [eq] at ih
    simp only [List.flatMap_cons, Segment.raw, ih]
    exact splitComment_eq_append split
  | case4 => simp [Segment.raw]
  | case5 rest comment split =>
    simp [Segment.raw, splitComment_eq_self split]
  | case6 rest comment after split _ following state eq ih =>
    rw [eq] at ih
    simp only [List.flatMap_cons, Segment.raw, ih, List.cons_append]
    rw [splitComment_eq_append split]
  | case7 c rest _ _ _ _ following state eq ih =>
    rw [eq] at ih
    simp only [List.flatMap_cons, Segment.raw, ih, List.cons_append]
    rw [splitLiteral_append]
  | case8 c rest _ _ _ following state eq ih =>
    rw [eq] at ih
    simp [Segment.raw, ih]

def commentsFrom (column : Nat) : List Segment → List Excerpt
  | [] => []
  | .comment text :: rest => ⟨column, text⟩ :: commentsFrom (column + text.length) rest
  | segment :: rest => commentsFrom (column + segment.raw.length) rest

end Source

/-- One physical line: as written, with comments and literals hidden, with comments blank and
literals hidden, its comments, and whether it starts and ends in a block comment. -/
structure Line where
  raw : List Char
  masked : List Char
  code : List Char
  comments : List Excerpt
  before : CommentState
  after : CommentState
deriving DecidableEq, Repr

namespace Line

def ofRaw (before : CommentState) (raw : List Char) : Line :=
  let (pieces, after) := Source.segments before raw
  { raw
    masked := pieces.flatMap Segment.masked
    code := pieces.flatMap Segment.visible
    comments := Source.commentsFrom 0 pieces
    before
    after }

@[simp] theorem raw_ofRaw (before : CommentState) (raw : List Char) :
    (ofRaw before raw).raw = raw :=
  rfl

private theorem length_flatMap_view {view : Segment → List Char}
    (same : ∀ segment, (view segment).length = segment.raw.length) (pieces : List Segment) :
    (pieces.flatMap view).length = (pieces.flatMap Segment.raw).length := by
  induction pieces with
  | nil => rfl
  | cons piece pieces ih => simp only [List.flatMap_cons, List.length_append, same, ih]

/-- The masked view keeps every column. -/
@[simp] theorem length_masked_ofRaw (before : CommentState) (raw : List Char) :
    (ofRaw before raw).masked.length = raw.length := by
  show ((Source.segments before raw).1.flatMap Segment.masked).length = raw.length
  rw [length_flatMap_view Segment.length_masked, Source.flatMap_raw_segments]

/-- The code view keeps every column. -/
@[simp] theorem length_code_ofRaw (before : CommentState) (raw : List Char) :
    (ofRaw before raw).code.length = raw.length := by
  show ((Source.segments before raw).1.flatMap Segment.visible).length = raw.length
  rw [length_flatMap_view Segment.length_visible, Source.flatMap_raw_segments]

/-- Consecutive lines, the first of which starts in the given comment state. -/
def ofRawsFrom (before : CommentState) : List (List Char) → List Line
  | [] => []
  | raw :: rest =>
    let line := ofRaw before raw
    line :: ofRawsFrom line.after rest

def ofRaws (raws : List (List Char)) : List Line :=
  ofRawsFrom .code raws

/-- A line of blanks only. -/
def isBlank (line : Line) : Bool :=
  Text.isBlankText line.raw

/-- A line with a character that is neither blank nor hidden. -/
def hasCode (line : Line) : Bool :=
  line.code.any fun c => !Text.isBlank c && c != maskCharacter

/-- A line with characters but no code. -/
def isSkipped (line : Line) : Bool :=
  !line.isBlank && !line.hasCode

/-- The comments of a line, joined by spaces. -/
def commentText (line : Line) : List Char :=
  [' '].intercalate (line.comments.map Excerpt.text)

/-- The code view without blanks at its ends. -/
def stripped (line : Line) : List Char :=
  Text.trim line.code

end Line

end HouseStyle
