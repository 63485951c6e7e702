import HouseStyle.Proofs.Lines
import HouseStyle.Text.Search
import Mathlib

/-!
Contract: the segments of lines agree with one automaton over the whole text.

Owns: a character automaton for comments and literals, the region that it gives to every character,
and the agreement of a line's views, comments and comment states with it.
Does not own: how a text falls into lines, which `Source.splitLines` says.

The automaton reads the lines joined by line feeds, one character at a time, and sees the character
after the one it reads. It knows nothing of segments: a segment is found by searching for its end,
and the automaton only remembers its mode.

Main statement: every line shows what the automaton saw (`ofRaws_follows_automaton`).
-/

namespace HouseStyle.Lexing

/-! ## The automaton -/

/-- What a character of a text belongs to; the marks at either end of a comment or a literal belong
to it. -/
inductive Region where
  | code
  | comment
  | literal
deriving DecidableEq, Repr

/-- Where the automaton stands between two characters. -/
inductive Mode where
  | code
  | lineComment
  /-- Between the slash and the star that open a block comment. -/
  | opening
  | blockComment
  /-- Between the star and the slash that close a block comment. -/
  | closing
  | literal (quote : Char)
  /-- After a backslash in a literal. -/
  | escaped (quote : Char)
deriving DecidableEq, Repr

/-- The region of the character that is read and the mode after it, given the character that comes
next. -/
def step (mode : Mode) (c : Char) (next : Option Char) : Region × Mode :=
  match mode with
  | .code =>
    if c = '/' ∧ next = some '/' then (.comment, .lineComment)
    else if c = '/' ∧ next = some '*' then (.comment, .opening)
    else if c = '"' ∨ c = '\'' then (.literal, .literal c)
    else (.code, .code)
  | .lineComment => if c = '\n' then (.code, .code) else (.comment, .lineComment)
  | .opening => (.comment, .blockComment)
  | .blockComment =>
    if c = '*' ∧ next = some '/' then (.comment, .closing) else (.comment, .blockComment)
  | .closing => (.comment, .code)
  | .literal quote =>
    if c = '\n' then (.code, .code)
    else if c = '\\' then (.literal, .escaped quote)
    else if c = quote then (.literal, .code)
    else (.literal, .literal quote)
  | .escaped quote => if c = '\n' then (.code, .code) else (.literal, .literal quote)

/-- The regions of a piece of text and the mode after it, given the character after the piece. -/
def run (next : Option Char) : Mode → List Char → List Region × Mode
  | mode, [] => ([], mode)
  | mode, c :: rest =>
    let (first, between) := step mode c (rest.head?.or next)
    let (others, after) := run next between rest
    (first :: others, after)

/-- The region of the character at a position of a text. -/
def regionAt (text : List Char) (position : Nat) : Option Region :=
  (run none .code text).1[position]?

/-- The mode before the character at a position of a text. -/
def modeAt (text : List Char) (position : Nat) : Mode :=
  (run text[position]? .code (text.take position)).2

/-- Whether a mode is inside a block comment. -/
def Mode.inBlock : Mode → Bool
  | .opening | .blockComment | .closing => true
  | _ => false

/-- The lines, joined by line feeds. -/
def joined (raws : List (List Char)) : List Char :=
  ['\n'].intercalate raws

/-- The position of the first character of a line in the joined lines. -/
def offset (raws : List (List Char)) (index : Nat) : Nat :=
  ((raws.take index).map fun raw => raw.length + 1).sum

/-! ## What a line has to show -/

/-- The characters of the masked view and of the code view for a character of a region. -/
def Region.shown (c : Char) : Region → Char × Char
  | .code => (c, c)
  | .comment => (maskCharacter, ' ')
  | .literal => (maskCharacter, maskCharacter)

/-- A line shows what the automaton saw of it in a text, from the line's first character on. -/
structure Follows (text : List Char) (start : Nat) (line : Line) : Prop where
  /-- The masked view keeps every column. -/
  length_masked : line.masked.length = line.raw.length
  /-- The code view keeps every column. -/
  length_code : line.code.length = line.raw.length
  /-- Every character lies in a region, and both views show it as that region demands. -/
  shown : ∀ column c, line.raw[column]? = some c →
    ∃ region, regionAt text (start + column) = some region ∧
      line.masked[column]? = some (region.shown c).1 ∧ line.code[column]? = some (region.shown c).2
  /-- The line starts in a block comment exactly if the automaton does. -/
  before : line.before = .block ↔ (modeAt text start).inBlock
  /-- The line ends in a block comment exactly if the automaton does. -/
  after : line.after = .block ↔ (modeAt text (start + line.raw.length)).inBlock
  /-- Every comment is a piece of the line as written. -/
  slices : ∀ comment ∈ line.comments, comment.stop ≤ line.raw.length ∧
    comment.text = Text.slice line.raw comment.start comment.stop
  /-- The comments stand in order and apart. -/
  ordered : line.comments.Pairwise fun first second =>
    first.start < second.start ∧ first.stop ≤ second.start
  /-- The comments hold exactly the characters that are in comments. -/
  covered : ∀ column, column < line.raw.length →
    (regionAt text (start + column) = some .comment ↔
      ∃ comment ∈ line.comments, comment.start ≤ column ∧ column < comment.stop)

/-! ## Running over pieces -/

theorem run_append (next : Option Char) (mode : Mode) (first second : List Char) :
    run next mode (first ++ second) =
      ((run (second.head?.or next) mode first).1 ++
          (run next (run (second.head?.or next) mode first).2 second).1,
        (run next (run (second.head?.or next) mode first).2 second).2) := by
  induction first generalizing mode with
  | nil => rfl
  | cons c first inductionHypothesis =>
    have ahead : (first ++ second).head?.or next = first.head?.or (second.head?.or next) := by
      rw [List.head?_append, Option.or_assoc]
    simp only [List.cons_append, run, ahead, inductionHypothesis]

theorem length_run (next : Option Char) (mode : Mode) (text : List Char) :
    (run next mode text).1.length = text.length := by
  induction text generalizing mode with
  | nil => rfl
  | cons c text inductionHypothesis => simp only [run, List.length_cons, inductionHypothesis]

/-- A character that starts no comment when a slash comes before it and ends none after a star. -/
def Neutral (next : Option Char) : Prop :=
  next ≠ some '/' ∧ next ≠ some '*'

/-- A block comment that ends is read to its end, whatever comes after it. -/
theorem run_splitComment_some {text comment rest : List Char}
    (split : Source.splitComment text = (comment, some rest)) (next : Option Char) :
    run next .blockComment comment = (comment.map fun _ => .comment, .code) := by
  fun_induction Source.splitComment text generalizing comment with
  | case1 => simp at split
  | case2 =>
    simp only [Prod.mk.injEq] at split
    rw [← split.1]
    rfl
  | case3 c tail apart inner after eq inductionHypothesis =>
    simp only [Prod.mk.injEq] at split
    have closed : Source.splitComment tail = (inner, some rest) := by rw [eq, split.2]
    have whole := Source.splitComment_eq_append closed
    have others := inductionHypothesis closed
    have stays : step .blockComment c (inner.head?.or next) = (.comment, .blockComment) := by
      apply if_neg
      rintro ⟨isStar, slash⟩
      cases inner with
      | nil => simp [run] at others
      | cons d inner =>
        simp only [List.head?_cons, Option.some_or, Option.some.injEq] at slash
        apply apart (inner ++ rest) isStar
        rw [← whole, slash]
        rfl
    rw [← split.1]
    simp only [run, stays, others, List.map_cons]

/-- A block comment that does not end is read to the end of its line. -/
theorem run_splitComment_none {text comment : List Char}
    (split : Source.splitComment text = (comment, none)) {next : Option Char}
    (neutral : Neutral next) :
    run next .blockComment text = (text.map fun _ => .comment, .blockComment) := by
  fun_induction Source.splitComment text generalizing comment with
  | case1 => rfl
  | case2 => simp at split
  | case3 c tail apart inner after eq inductionHypothesis =>
    simp only [Prod.mk.injEq] at split
    have stays : step .blockComment c (tail.head?.or next) = (.comment, .blockComment) := by
      apply if_neg
      rintro ⟨isStar, slash⟩
      cases tail with
      | nil => exact neutral.1 slash
      | cons d tail =>
        simp only [List.head?_cons, Option.some_or, Option.some.injEq] at slash
        exact apart tail isStar (by rw [slash])
    have rest := inductionHypothesis (show Source.splitComment tail = (inner, none) by
      rw [eq, split.2])
    simp only [run, stays, rest, List.map_cons]

private theorem not_backslash {c : Char} {rest : List Char} (noEnd : c = '\\' → rest = [] → False)
    (noMore : ∀ d tail, c = '\\' → rest = d :: tail → False) : c ≠ '\\' := by
  intro isBackslash
  cases rest with
  | nil => exact noEnd isBackslash rfl
  | cons d tail => exact noMore d tail isBackslash rfl

/-- A literal is read to its closing quote, or else to the end of its line. -/
theorem run_splitLiteral (quote : Char) {text : List Char} (flat : '\n' ∉ text)
    (next : Option Char) :
    ∃ mode, run next (.literal quote) (Source.splitLiteral quote text).1 =
        ((Source.splitLiteral quote text).1.map fun _ => .literal, mode) ∧
      (mode = .code ∨ (Source.splitLiteral quote text).2 = [] ∧
        (mode = .literal quote ∨ mode = .escaped quote)) := by
  fun_induction Source.splitLiteral quote text with
  | case1 => exact ⟨.literal quote, rfl, .inr ⟨rfl, .inl rfl⟩⟩
  | case2 => exact ⟨.escaped quote, rfl, .inr ⟨rfl, .inr rfl⟩⟩
  | case3 c rest literal after eq inductionHypothesis =>
    simp only [List.mem_cons, not_or] at flat
    obtain ⟨mode, read, ending⟩ := inductionHypothesis flat.2.2
    rw [eq] at read ending
    refine ⟨mode, ?_, ending⟩
    have backslash : step (.literal quote) '\\' (some c) = (.literal, .escaped quote) := rfl
    have taken : step (.escaped quote) c (literal.head?.or next) = (.literal, .literal quote) :=
      if_neg (Ne.symm flat.2.1)
    simp only [run, List.head?_cons, Option.some_or, backslash, taken, read, List.map_cons]
  | case4 rest noEnd noMore =>
    have plain := not_backslash noEnd noMore
    simp only [List.mem_cons, not_or] at flat
    have closes : step (.literal quote) quote next = (.literal, .code) := by
      simp only [step, Ne.symm flat.1, plain, if_false, if_true]
    exact ⟨.code, by simp [run, closes], .inl rfl⟩
  | case5 c rest noEnd noMore other literal after eq inductionHypothesis =>
    have plain := not_backslash noEnd noMore
    simp only [List.mem_cons, not_or] at flat
    obtain ⟨mode, read, ending⟩ := inductionHypothesis flat.2
    rw [eq] at read ending
    have stays : step (.literal quote) c (literal.head?.or next) = (.literal, .literal quote) := by
      simp only [step, Ne.symm flat.1, plain, other, if_false]
    exact ⟨mode, by simp only [run, stays, read, List.map_cons], ending⟩

/-! ## Running over a line -/

/-- The mode in which a line starts. -/
def Mode.ofState : CommentState → Mode
  | .code => .code
  | .block => .blockComment

/-- The comment state of a mode at the end of a line; within the marks of a block comment there is
no line end. -/
def Mode.state? : Mode → Option CommentState
  | .opening | .closing => none
  | .blockComment => some .block
  | _ => some .code

theorem Mode.inBlock_iff {mode : Mode} {state : CommentState} (rests : mode.state? = some state) :
    state = .block ↔ mode.inBlock := by
  cases mode <;> simp_all [Mode.state?, Mode.inBlock, eq_comm]

/-- A line feed carries the comment state of a line over to the next one. -/
theorem step_lineFeed {mode : Mode} {state : CommentState} (rests : mode.state? = some state)
    (next : Option Char) : (step mode '\n' next).2 = Mode.ofState state := by
  cases mode <;> simp_all [Mode.state?, Mode.ofState, step, eq_comm]

/-- The regions of the characters of a segment. -/
def regions : Segment → List Region
  | .code _ => [.code]
  | .comment text => text.map fun _ => .comment
  | .literal text => text.map fun _ => .literal

theorem run_lineComment {text : List Char} (flat : '\n' ∉ text) (next : Option Char) :
    run next .lineComment text = (text.map fun _ => .comment, .lineComment) := by
  induction text with
  | nil => rfl
  | cons c text inductionHypothesis =>
    simp only [List.mem_cons, not_or] at flat
    have stays : step .lineComment c (text.head?.or next) = (.comment, .lineComment) :=
      if_neg (Ne.symm flat.1)
    simp only [run, stays, inductionHypothesis flat.2, List.map_cons]

theorem run_blockOpening (next : Option Char) (rest : List Char) :
    run next .code ('/' :: '*' :: rest) =
      (.comment :: .comment :: (run next .blockComment rest).1, (run next .blockComment rest).2) :=
  rfl

theorem run_quote {c : Char} (quoted : c = '"' ∨ c = '\'') (next : Option Char)
    (rest : List Char) :
    run next .code (c :: rest) =
      (.literal :: (run next (.literal c) rest).1, (run next (.literal c) rest).2) := by
  have opened : step .code c (rest.head?.or next) = (.literal, .literal c) := by
    rcases quoted with rfl | rfl <;> rfl
  simp only [run, opened]

/-- A character that opens neither a comment nor a literal is code. -/
theorem step_code {c : Char} {rest : List Char} {next : Option Char} (neutral : Neutral next)
    (notLine : ∀ tail, c = '/' → rest = '/' :: tail → False)
    (notBlock : ∀ tail, c = '/' → rest = '*' :: tail → False)
    (unquoted : ¬ (c = '"' ∨ c = '\'')) :
    step .code c (rest.head?.or next) = (.code, .code) := by
  have noSlash : ¬ (c = '/' ∧ rest.head?.or next = some '/') := by
    intro opens
    cases rest with
    | nil => exact neutral.1 opens.2
    | cons d rest => exact notLine rest opens.1 (by rw [Option.some.inj opens.2])
  have noStar : ¬ (c = '/' ∧ rest.head?.or next = some '*') := by
    intro opens
    cases rest with
    | nil => exact neutral.2 opens.2
    | cons d rest => exact notBlock rest opens.1 (by rw [Option.some.inj opens.2])
  simp only [step, noSlash, noStar, unquoted, if_false]

/-- Over a line, the automaton sees the segments of the line and ends in their comment state. -/
theorem run_segments (state : CommentState) {text : List Char} (flat : '\n' ∉ text)
    {next : Option Char} (neutral : Neutral next) :
    ∃ mode, run next (.ofState state) text =
        ((Source.segments state text).1.flatMap regions, mode) ∧
      mode.state? = some (Source.segments state text).2 := by
  fun_induction Source.segments state text with
  | case1 state => cases state <;> exact ⟨_, rfl, rfl⟩
  | case2 c rest comment split =>
    refine ⟨.blockComment, ?_, rfl⟩
    rw [Mode.ofState, run_splitComment_none split neutral, Source.splitComment_eq_self split]
    simp [regions]
  | case3 c rest comment after split _ following state eq inductionHypothesis =>
    have whole := Source.splitComment_eq_append split
    rw [← whole, List.mem_append, not_or] at flat
    obtain ⟨mode, read, ending⟩ := inductionHypothesis flat.2
    rw [eq] at read ending
    refine ⟨mode, ?_, ending⟩
    rw [← whole, run_append, Mode.ofState, run_splitComment_some split]
    exact congrArg (fun others => ((comment.map fun _ => Region.comment) ++ others.1, others.2)) read
  | case4 rest =>
    simp only [List.mem_cons, not_or] at flat
    refine ⟨.lineComment, ?_, rfl⟩
    have opened : run next .code ('/' :: '/' :: rest) =
        (.comment :: (run next .lineComment ('/' :: rest)).1,
          (run next .lineComment ('/' :: rest)).2) := rfl
    rw [Mode.ofState, opened, run_lineComment (by simpa using flat.2)]
    simp [regions]
  | case5 rest comment split =>
    refine ⟨.blockComment, ?_, rfl⟩
    rw [Mode.ofState, run_blockOpening, run_splitComment_none split neutral,
      Source.splitComment_eq_self split]
    simp [regions]
  | case6 rest comment after split _ following state eq inductionHypothesis =>
    have whole := Source.splitComment_eq_append split
    simp only [← whole, List.mem_cons, List.mem_append, not_or] at flat
    obtain ⟨mode, read, ending⟩ := inductionHypothesis flat.2.2.2
    rw [eq] at read ending
    refine ⟨mode, ?_, ending⟩
    rw [Mode.ofState, run_blockOpening, ← whole, run_append, run_splitComment_some split]
    rw [Mode.ofState] at read
    simp [read, regions]
  | case7 c rest notLine notBlock quoted _ following state eq inductionHypothesis =>
    have whole := Source.splitLiteral_append c rest
    simp only [List.mem_cons, not_or] at flat
    obtain ⟨inside, literal, closed⟩ := run_splitLiteral c flat.2
      ((Source.splitLiteral c rest).2.head?.or next)
    rw [← whole, List.mem_append, not_or] at flat
    obtain ⟨mode, read, ending⟩ := inductionHypothesis flat.2.2
    rw [eq] at read ending
    rw [Mode.ofState, run_quote quoted, ← whole, run_append, literal, whole]
    rcases closed with rfl | ⟨nothing, open'⟩
    · refine ⟨mode, ?_, ending⟩
      rw [Mode.ofState] at read
      simp [read, regions]
    · rw [nothing, Source.segments] at eq
      obtain ⟨rfl, rfl⟩ := Prod.mk.inj eq
      refine ⟨inside, ?_, ?_⟩
      · simp [nothing, run, regions]
      · rcases open' with rfl | rfl <;> rfl
  | case8 c rest notLine notBlock unquoted following state eq inductionHypothesis =>
    simp only [List.mem_cons, not_or] at flat
    obtain ⟨mode, read, ending⟩ := inductionHypothesis flat.2
    rw [eq] at read ending
    have plain := step_code neutral notLine notBlock unquoted
    refine ⟨mode, ?_, ending⟩
    rw [Mode.ofState] at read
    simp only [Mode.ofState, run, plain, read, List.flatMap_cons, regions, List.singleton_append]

/-! ## The views and the comments of segments -/

theorem length_regions (segment : Segment) : (regions segment).length = segment.raw.length := by
  cases segment <;> simp [regions, Segment.raw]

/-- A view that shows the characters of every segment by their regions does so for all segments. -/
theorem flatMap_eq_zipWith {view : Segment → List Char} {shown : Region → Char → Char}
    (same : ∀ segment, view segment = List.zipWith shown (regions segment) segment.raw)
    (pieces : List Segment) :
    pieces.flatMap view =
      List.zipWith shown (pieces.flatMap regions) (pieces.flatMap Segment.raw) := by
  induction pieces with
  | nil => rfl
  | cons piece pieces inductionHypothesis =>
    rw [List.flatMap_cons, List.flatMap_cons, List.flatMap_cons,
      List.zipWith_append (length_regions piece),
      inductionHypothesis, same]

theorem zipWith_map_const {α : Type} (region : Region) (shown : Region → Char → α)
    (text : List Char) :
    List.zipWith shown (text.map fun _ => region) text = text.map (shown region) := by
  rw [List.zipWith_map_left, List.zipWith_self]

theorem masked_eq_zipWith (segment : Segment) :
    segment.masked =
      List.zipWith (fun region c => (region.shown c).1) (regions segment) segment.raw := by
  have same := fun region text =>
    (zipWith_map_const region (fun region c => (region.shown c).1) text).symm
  cases segment with
  | code c => rfl
  | comment text => exact same .comment text
  | literal text => exact same .literal text

theorem visible_eq_zipWith (segment : Segment) :
    segment.visible =
      List.zipWith (fun region c => (region.shown c).2) (regions segment) segment.raw := by
  have same := fun region text =>
    (zipWith_map_const region (fun region c => (region.shown c).2) text).symm
  cases segment with
  | code c => rfl
  | comment text => exact same .comment text
  | literal text => exact same .literal text

/-- No segment is empty. -/
theorem raw_ne_nil_of_mem_segments {state : CommentState} {text : List Char} {segment : Segment}
    (member : segment ∈ (Source.segments state text).1) : segment.raw ≠ [] := by
  fun_induction Source.segments state text with
  | case1 => simp at member
  | case2 c rest comment split =>
    rw [List.mem_singleton] at member
    rw [member, Segment.raw, Source.splitComment_eq_self split]
    exact List.cons_ne_nil _ _
  | case3 c rest comment after split shorter following state eq inductionHypothesis =>
    rw [eq] at inductionHypothesis
    rcases List.mem_cons.mp member with rfl | later
    · intro nothing
      have whole := Source.splitComment_eq_append split
      rw [show comment = [] from nothing, List.nil_append] at whole
      rw [whole] at shorter
      exact Nat.lt_irrefl _ shorter
    · exact inductionHypothesis later
  | case4 => simp_all [Segment.raw]
  | case5 => simp_all [Segment.raw]
  | case6 rest comment after split _ following state eq inductionHypothesis =>
    rw [eq] at inductionHypothesis
    rcases List.mem_cons.mp member with rfl | later
    · exact List.cons_ne_nil _ _
    · exact inductionHypothesis later
  | case7 c rest _ _ _ _ following state eq inductionHypothesis =>
    rw [eq] at inductionHypothesis
    rcases List.mem_cons.mp member with rfl | later
    · exact List.cons_ne_nil _ _
    · exact inductionHypothesis later
  | case8 c rest _ _ _ following state eq inductionHypothesis =>
    rw [eq] at inductionHypothesis
    rcases List.mem_cons.mp member with rfl | later
    · exact List.cons_ne_nil _ _
    · exact inductionHypothesis later

/-- The comment that a segment at a column is, if it is one. -/
def commentAt (column : Nat) : Segment → List Excerpt
  | .comment text => [⟨column, text⟩]
  | _ => []

theorem commentsFrom_cons (column : Nat) (piece : Segment) (pieces : List Segment) :
    Source.commentsFrom column (piece :: pieces) =
      commentAt column piece ++ Source.commentsFrom (column + piece.raw.length) pieces := by
  cases piece <;> rfl

theorem le_start_of_mem_commentsFrom {column : Nat} {pieces : List Segment} {comment : Excerpt}
    (member : comment ∈ Source.commentsFrom column pieces) : column ≤ comment.start := by
  induction pieces generalizing column with
  | nil => simp [Source.commentsFrom] at member
  | cons piece pieces inductionHypothesis =>
    rw [commentsFrom_cons, List.mem_append] at member
    rcases member with here | later
    · cases piece <;> simp_all [commentAt]
    · exact Nat.le_trans (Nat.le_add_right _ _) (inductionHypothesis later)

theorem slice_of_mem_commentsFrom (before : List Char) {pieces : List Segment} {comment : Excerpt}
    (member : comment ∈ Source.commentsFrom before.length pieces) :
    comment.stop ≤ (before ++ pieces.flatMap Segment.raw).length ∧
      comment.text =
        Text.slice (before ++ pieces.flatMap Segment.raw) comment.start comment.stop := by
  induction pieces generalizing before with
  | nil => simp [Source.commentsFrom] at member
  | cons piece pieces inductionHypothesis =>
    rw [commentsFrom_cons, List.mem_append] at member
    rw [List.flatMap_cons, ← List.append_assoc]
    rcases member with here | later
    · cases piece with
      | comment text =>
        rw [commentAt, List.mem_singleton] at here
        subst here
        simp [Excerpt.stop, Text.slice, Segment.raw, List.take_append]
      | code c => simp [commentAt] at here
      | literal text => simp [commentAt] at here
    · rw [← List.length_append] at later
      exact inductionHypothesis (before ++ piece.raw) later

theorem pairwise_commentsFrom (column : Nat) {pieces : List Segment}
    (inked : ∀ piece ∈ pieces, piece.raw ≠ []) :
    (Source.commentsFrom column pieces).Pairwise fun first second =>
      first.start < second.start ∧ first.stop ≤ second.start := by
  induction pieces generalizing column with
  | nil => exact .nil
  | cons piece pieces inductionHypothesis =>
    have others := inductionHypothesis (column + piece.raw.length)
      fun other member => inked other (List.mem_cons_of_mem _ member)
    rw [commentsFrom_cons]
    cases piece with
    | code c => exact others
    | literal text => exact others
    | comment text =>
      refine List.Pairwise.cons ?_ others
      intro second member
      have start := le_start_of_mem_commentsFrom member
      have positive := List.length_pos_iff.mpr (inked (.comment text) List.mem_cons_self)
      simp only [Segment.raw, Excerpt.stop] at *
      omega

/-- Inside a segment, the comments are the segment itself or nothing. -/
theorem region_comment_iff_here (column : Nat) {position : Nat} {piece : Segment}
    (inside : position < piece.raw.length) :
    (regions piece)[position]? = some .comment ↔
      ∃ comment ∈ commentAt column piece,
        comment.start ≤ column + position ∧ column + position < comment.stop := by
  cases piece with
  | code c => simp_all [regions, Segment.raw, commentAt]
  | literal text =>
    have elsewhere : (regions (.literal text))[position]? ≠ some .comment := by
      rw [regions, List.getElem?_map]
      cases text[position]? <;> simp
    simp [elsewhere, commentAt]
  | comment text =>
    simp only [Segment.raw] at inside
    simp [regions, commentAt, Excerpt.stop, inside]

/-- The characters in comments are those of the comment excerpts. -/
theorem region_comment_iff (column position : Nat) (pieces : List Segment) :
    (pieces.flatMap regions)[position]? = some .comment ↔
      ∃ comment ∈ Source.commentsFrom column pieces,
        comment.start ≤ column + position ∧ column + position < comment.stop := by
  induction pieces generalizing column position with
  | nil => simp [Source.commentsFrom]
  | cons piece pieces inductionHypothesis =>
    rw [List.flatMap_cons, commentsFrom_cons]
    by_cases inside : position < piece.raw.length
    · rw [List.getElem?_append_left (by rwa [length_regions]),
        region_comment_iff_here column inside]
      constructor
      · rintro ⟨comment, member, bounds⟩
        exact ⟨comment, List.mem_append_left _ member, bounds⟩
      · rintro ⟨comment, member, bounds⟩
        rcases List.mem_append.mp member with here | later
        · exact ⟨comment, here, bounds⟩
        · have start := le_start_of_mem_commentsFrom later
          omega
    · rw [List.getElem?_append_right (by rw [length_regions]; omega), length_regions,
        inductionHypothesis (column + piece.raw.length)]
      have same : column + piece.raw.length + (position - piece.raw.length) = column + position := by
        omega
      rw [same]
      constructor
      · rintro ⟨comment, member, bounds⟩
        exact ⟨comment, List.mem_append_right _ member, bounds⟩
      · rintro ⟨comment, member, bounds⟩
        rcases List.mem_append.mp member with here | later
        · cases piece <;> simp_all [commentAt, Excerpt.stop, Segment.raw]
          omega
        · exact ⟨comment, later, bounds⟩

/-! ## Running over all lines -/

theorem neutral_lineFeed : Neutral (some '\n') := by
  constructor <;> decide

/-- Lines that are ended by line feeds lead from comment state to comment state. -/
theorem run_lines (state : CommentState) {raws : List (List Char)}
    (flat : ∀ raw ∈ raws, '\n' ∉ raw) (next : Option Char) :
    (run next (.ofState state) (raws.flatMap (· ++ ['\n']))).2 =
      .ofState (Source.stateAfter state raws) := by
  induction raws generalizing state with
  | nil => rfl
  | cons raw raws inductionHypothesis =>
    obtain ⟨mode, read, rests⟩ :=
      run_segments state (flat raw List.mem_cons_self) neutral_lineFeed
    have fed := step_lineFeed rests ((raws.flatMap (· ++ ['\n'])).head?.or next)
    have others := inductionHypothesis (Source.segments state raw).2
      fun other member => flat other (List.mem_cons_of_mem _ member)
    rw [List.flatMap_cons, List.append_assoc, run_append]
    simp only [List.cons_append, List.nil_append, List.head?_cons, Option.some_or, read, run, fed,
      others]
    rfl

/-- The joined lines around one of them. -/
theorem joined_append_cons (first : List (List Char)) (raw : List Char)
    (second : List (List Char)) :
    joined (first ++ raw :: second) =
      first.flatMap (· ++ ['\n']) ++ (raw ++ second.flatMap ('\n' :: ·)) := by
  induction first with
  | nil =>
    induction second generalizing raw with
    | nil => simp [joined]
    | cons other second inductionHypothesis =>
      have rest := inductionHypothesis other
      simp only [List.nil_append, List.flatMap_nil, joined] at rest
      simp [joined, List.intercalate_cons_cons, rest]
  | cons head first inductionHypothesis =>
    cases first with
    | nil =>
      simp only [joined, List.nil_append, List.cons_append] at *
      simp [List.intercalate_cons_cons, inductionHypothesis]
    | cons other first =>
      simp only [joined, List.cons_append] at *
      simp [List.intercalate_cons_cons, inductionHypothesis]

theorem length_flatMap_lineFeed (raws : List (List Char)) :
    (raws.flatMap (· ++ ['\n'])).length = (raws.map fun raw => raw.length + 1).sum := by
  simp [List.length_flatMap]

section Site

-- One line among the others, and what the automaton reads before and after it.
variable {first : List (List Char)} (second : List (List Char)) {raw : List Char}

theorem neutral_after_line : Neutral ((second.flatMap ('\n' :: ·)).head?) := by
  cases second with
  | nil => constructor <;> simp
  | cons other second => exact neutral_lineFeed

/-- The regions and the end of a line among the others are those of its segments. -/
theorem run_line (flat : ∀ other ∈ first, '\n' ∉ other) (flatLine : '\n' ∉ raw)
    (column : Nat) (inside : column < raw.length) :
    regionAt (joined (first ++ raw :: second)) ((first.flatMap (· ++ ['\n'])).length + column) =
      ((Source.segments (Source.stateAfter .code first) raw).1.flatMap regions)[column]? := by
  have start : ∀ next, (run next .code (first.flatMap (· ++ ['\n']))).2 = _ :=
    run_lines .code flat
  obtain ⟨mode, read, -⟩ := run_segments (Source.stateAfter .code first) flatLine
    (neutral_after_line second)
  rw [regionAt, joined_append_cons, run_append, start,
    List.getElem?_append_right (by rw [length_run]; exact Nat.le_add_right _ _), length_run,
    Nat.add_sub_cancel_left, run_append, Option.or_none, read,
    List.getElem?_append_left]
  have aligned := length_run (second.flatMap ('\n' :: ·)).head?
    (.ofState (Source.stateAfter .code first)) raw
  rw [read] at aligned
  rw [aligned]
  exact inside

theorem modeAt_line_start (flat : ∀ other ∈ first, '\n' ∉ other) :
    modeAt (joined (first ++ raw :: second)) (first.flatMap (· ++ ['\n'])).length =
      .ofState (Source.stateAfter .code first) := by
  rw [modeAt, joined_append_cons, List.take_left]
  exact run_lines .code flat _

theorem modeAt_line_end (flat : ∀ other ∈ first, '\n' ∉ other) (flatLine : '\n' ∉ raw) :
    (modeAt (joined (first ++ raw :: second))
        ((first.flatMap (· ++ ['\n'])).length + raw.length)).state? =
      some (Source.segments (Source.stateAfter .code first) raw).2 := by
  have start : ∀ next, (run next .code (first.flatMap (· ++ ['\n']))).2 = _ :=
    run_lines .code flat
  obtain ⟨mode, read, rests⟩ := run_segments (Source.stateAfter .code first) flatLine
    (neutral_after_line second)
  have ahead : (joined (first ++ raw :: second))[(first.flatMap (· ++ ['\n'])).length +
      raw.length]? = (second.flatMap ('\n' :: ·)).head? := by
    rw [joined_append_cons, List.getElem?_append_right (Nat.le_add_right _ _),
      Nat.add_sub_cancel_left, List.getElem?_append_right (Nat.le_refl _), Nat.sub_self,
      List.head?_eq_getElem?]
  rw [modeAt, ahead, joined_append_cons, ← List.append_assoc,
    List.take_left' (by rw [List.length_append]), run_append, start, read]
  exact rests

end Site

/-! ## Every line -/

private theorem getElem?_zipWith_shown {shown : Region → Char → Char} {seen : List Region}
    {raw : List Char} {column : Nat} {region : Region} {c : Char}
    (here : seen[column]? = some region) (written : raw[column]? = some c) :
    (List.zipWith shown seen raw)[column]? = some (shown region c) := by
  rw [List.getElem?_zipWith, here, written]

/-- A line among the others shows what the automaton saw of it. -/
theorem follows_line {first : List (List Char)} (second : List (List Char)) {raw : List Char}
    (flat : ∀ other ∈ first, '\n' ∉ other) (flatLine : '\n' ∉ raw) :
    Follows (joined (first ++ raw :: second)) (first.flatMap (· ++ ['\n'])).length
      (Line.ofRaw (Source.stateAfter .code first) raw) := by
  have whole := Source.flatMap_raw_segments (Source.stateAfter .code first) raw
  have seen := run_line second flat flatLine
  constructor
  case length_masked => simp
  case length_code => simp
  case shown =>
    intro column c written
    have inside := (List.getElem?_eq_some_iff.mp written).1
    have aligned : column <
        ((Source.segments (Source.stateAfter .code first) raw).1.flatMap regions).length := by
      rw [← whole] at inside
      simpa only [Line.raw_ofRaw, List.length_flatMap, length_regions] using inside
    refine ⟨_, (seen column inside).trans (List.getElem?_eq_getElem aligned), ?_, ?_⟩
    · show ((Source.segments (Source.stateAfter .code first) raw).1.flatMap
        Segment.masked)[column]? = _
      rw [flatMap_eq_zipWith masked_eq_zipWith, whole]
      exact getElem?_zipWith_shown (List.getElem?_eq_getElem aligned) written
    · show ((Source.segments (Source.stateAfter .code first) raw).1.flatMap
        Segment.visible)[column]? = _
      rw [flatMap_eq_zipWith visible_eq_zipWith, whole]
      exact getElem?_zipWith_shown (List.getElem?_eq_getElem aligned) written
  case before =>
    rw [modeAt_line_start second flat, Line.before_ofRaw]
    exact Mode.inBlock_iff (by cases Source.stateAfter .code first <;> rfl)
  case after => exact Mode.inBlock_iff (modeAt_line_end second flat flatLine)
  case slices =>
    intro comment member
    have piece := slice_of_mem_commentsFrom [] member
    rwa [List.nil_append, whole] at piece
  case ordered => exact pairwise_commentsFrom 0 fun piece member => raw_ne_nil_of_mem_segments member
  case covered =>
    intro column inside
    rw [seen column inside, region_comment_iff 0, Nat.zero_add]
    rfl

/-- Every line of a list shows what the automaton saw of it in the joined lines: its characters in
both views, its comments, and whether it starts and ends in a block comment. -/
theorem ofRaws_follows_automaton (raws : List (List Char)) (flat : ∀ raw ∈ raws, '\n' ∉ raw) :
    (Line.ofRaws raws).map Line.raw = raws ∧
      ∀ index line, (Line.ofRaws raws)[index]? = some line →
        Follows (joined raws) (offset raws index) line := by
  refine ⟨Line.map_raw_ofRawsFrom .code raws, ?_⟩
  intro index line found
  rw [Line.ofRaws, Line.getElem?_ofRawsFrom, Option.map_eq_some_iff] at found
  obtain ⟨raw, written, rfl⟩ := found
  obtain ⟨inside, same⟩ := List.getElem?_eq_some_iff.mp written
  have split : raws = raws.take index ++ raw :: raws.drop (index + 1) := by
    rw [← same, ← List.drop_eq_getElem_cons inside, List.take_append_drop]
  have before : ∀ other ∈ raws.take index, '\n' ∉ other :=
    fun other member => flat other (List.mem_of_mem_take member)
  have follows := follows_line (raws.drop (index + 1)) before
    (flat raw (List.mem_of_getElem? written))
  rwa [← split, length_flatMap_lineFeed] at follows

/-- Marks that overlap: a slash after `/*` ends nothing, a backslash at a line end takes nothing
along, a comment goes on to the next line, and a quote in it opens no literal. -/
theorem ofRaws_follows_automaton_overlapping :
    (∀ raw ∈ ["a /*/ b".toList, "*/'\\".toList, "\"//*\" /* '".toList, "*/".toList], '\n' ∉ raw) ∧
      Follows (joined ["a /*/ b".toList, "*/'\\".toList, "\"//*\" /* '".toList, "*/".toList]) 8
        (Line.ofRaw .block "*/'\\".toList) := by
  have flat : ∀ raw ∈ ["a /*/ b".toList, "*/'\\".toList, "\"//*\" /* '".toList, "*/".toList],
      '\n' ∉ raw := by decide
  exact ⟨flat, (ofRaws_follows_automaton _ flat).2 1 _ (by cbv)⟩

end HouseStyle.Lexing
