import HouseStyle.Proofs.Lexing
import HouseStyle.Proofs.Literals
import HouseStyle.Proofs.Pattern.Blind
import HouseStyle.Proofs.Text

/-!
Contract: what a line shows of its comments.

Owns: lines that differ in the characters of comments only, and what the checks read of them.
Does not own: the checks, and directives, which are read as they are written.

A character of a comment is replaced by a character that is as little blank as the first. So both
lines have the same blanks, and outside comments the same characters. The marks that a comment may
hold are excluded, and with them a backslash, which at the end of a line continues a definition.

Main statements: `SameBesideComments.alike` and `SameBesideComments.isPrefix_of_clear`.
-/

namespace HouseStyle

/-! ## Lines that differ in comments -/

/-- The blanks of a text, each in its place. -/
def Text.blanks (text : List Char) : List (Option Char) :=
  text.map fun c => if isBlank c then some c else none

/-- The character that remains of one when only blanks and backslashes are shown. -/
def Text.veil (c : Char) : Char :=
  if isBlank c || c == '\\' then c else maskCharacter

namespace Text

theorem isBlank_veil (c : Char) : isBlank (veil c) = isBlank c := by
  unfold veil
  split
  · rfl
  · next shown =>
    rw [Bool.or_eq_true, not_or, Bool.not_eq_true] at shown
    rw [shown.1]
    decide

/-- Blanks and backslashes are shown, and nothing else shows as one of them. -/
theorem veil_eq_iff {c d : Char} (shown : isBlank d || d == '\\') : veil c = d ↔ c = d := by
  unfold veil
  split
  · exact Iff.rfl
  · next hidden =>
    constructor
    · rintro rfl
      exact absurd shown (by decide)
    · rintro rfl
      exact absurd shown hidden

/-- Two characters with the same blank, neither a backslash, show the same. -/
theorem veil_eq_of_blank {c d : Char}
    (shown : (if isBlank c then some c else none) = if isBlank d then some d else none)
    (other : c ≠ '\\') (otherToo : d ≠ '\\') : veil c = veil d := by
  cases blank : isBlank c <;> cases blankToo : isBlank d <;> simp_all [veil]

/-- The blanks at the start of a text are those at the start of what is shown of it. -/
theorem takeWhile_map_veil (text : List Char) :
    (text.map veil).takeWhile isBlank = text.takeWhile isBlank := by
  induction text with
  | nil => rfl
  | cons c text inductionHypothesis =>
    rw [List.map_cons, List.takeWhile_cons, List.takeWhile_cons, isBlank_veil, inductionHypothesis]
    cases blank : isBlank c with
    | true => simp [veil, blank]
    | false => rfl

/-- Whether the last character that is not blank is a backslash, is shown. -/
theorem continues_map_veil (text : List Char) :
    ((trimRight (text.map veil)).getLast? == some '\\') =
      ((trimRight text).getLast? == some '\\') := by
  have ink : (fun c => !isBlank c) ∘ veil = fun c => !isBlank c := by
    funext c
    exact congrArg (!·) (isBlank_veil c)
  rw [getLast?_trimRight, getLast?_trimRight, ← List.map_reverse, List.find?_map, ink]
  cases text.reverse.find? fun c => !isBlank c with
  | none => rfl
  | some c =>
    have shown : veil c = '\\' ↔ c = '\\' := veil_eq_iff (by decide)
    simp [shown]

end Text

/-- Spaces at the end of a line are found where they are shown. -/
theorem Spacing.blind_trailingSpaces : trailingSpaces.Blind Text.veil := by
  have spaces : ∀ c, Pattern.isSpaceOrTab (Text.veil c) = Pattern.isSpaceOrTab c := by
    intro c
    have space : Text.veil c = ' ' ↔ c = ' ' := Text.veil_eq_iff (by decide)
    have tab : Text.veil c = '\t' ↔ c = '\t' := Text.veil_eq_iff (by decide)
    simp [Pattern.isSpaceOrTab, Bool.beq_eq_decide_eq, space, tab]
  have ends : ∀ (_ : Option Char) (rest : List Char),
      (rest.map Text.veil == [] || rest.map Text.veil == ['\n']) =
        (rest == [] || rest == ['\n']) := by
    intro _ rest
    have lineFeed : ∀ c, Text.veil c = '\n' ↔ c = '\n' := fun c => Text.veil_eq_iff (by decide)
    rcases rest with - | ⟨c, - | ⟨d, rest⟩⟩
    · rfl
    · simp [lineFeed]
    · simp
  exact ⟨⟨spaces, spaces⟩, ends⟩

/-- The first character beyond ASCII does not depend on characters where the code view is blank. -/
theorem Call.firstForeign?_congr {raw otherRaw code : List Char}
    (length : raw.length = otherRaw.length)
    (same : ∀ column : Nat, raw[column]? = otherRaw[column]? ∨ code[column]? = some ' ')
    (position : Nat) :
    firstForeign? position raw code = firstForeign? position otherRaw code := by
  induction code generalizing raw otherRaw position with
  | nil => cases raw <;> cases otherRaw <;> rfl
  | cons d code inductionHypothesis =>
    cases raw with
    | nil =>
      rw [List.length_nil] at length
      rw [List.length_eq_zero_iff.mp length.symm]
    | cons c raw =>
      obtain ⟨other, others, rfl⟩ := List.exists_cons_of_length_eq_add_one length.symm
      have later := inductionHypothesis (Nat.succ.inj length) (fun column => same (column + 1))
        (position + 1)
      rcases same 0 with written | hidden
      · cases (show c = other from Option.some.inj written)
        rw [firstForeign?, firstForeign?, later]
      · cases (show d = ' ' from Option.some.inj hidden)
        simp [firstForeign?, later]

namespace Line

/-- Whether a column of a line lies in one of its comments. -/
def isCommented (line : Line) (column : Nat) : Bool :=
  line.comments.any fun comment => comment.start ≤ column && column < comment.stop

/-- The characters of a line outside its comments, each in its place. -/
def outside (line : Line) : List (Option Char) :=
  line.raw.mapIdx fun column c => if line.isCommented column then none else some c

/-- Two lines that differ in the characters of their comments only, where blanks stay and neither
the views of the line nor the places of its comments change. -/
structure SameBesideComments (line other : Line) : Prop where
  masked : line.masked = other.masked
  code : line.code = other.code
  before : line.before = other.before
  after : line.after = other.after
  comments : line.comments.map (fun comment => (comment.start, comment.length)) =
    other.comments.map fun comment => (comment.start, comment.length)
  outside : line.outside = other.outside
  blanks : Text.blanks line.raw = Text.blanks other.raw

instance (line other : Line) : Decidable (line.SameBesideComments other) :=
  decidable_of_iff (line.masked = other.masked ∧ line.code = other.code ∧
    line.before = other.before ∧ line.after = other.after ∧
    line.comments.map (fun comment => (comment.start, comment.length)) =
      other.comments.map (fun comment => (comment.start, comment.length)) ∧
    line.outside = other.outside ∧ Text.blanks line.raw = Text.blanks other.raw)
    ⟨fun ⟨masked, code, before, after, comments, outside, blanks⟩ =>
        ⟨masked, code, before, after, comments, outside, blanks⟩,
      fun ⟨masked, code, before, after, comments, outside, blanks⟩ =>
        ⟨masked, code, before, after, comments, outside, blanks⟩⟩

/-- What the checks look for in comments, and the backslash. -/
def marks : List (List Char) :=
  ["TODO".toList, "FIXME".toList, "fall-through".toList, ['\\']]

/-- A line whose comments hold none of the marks. -/
def Quiet (line : Line) : Prop :=
  ∀ comment ∈ line.comments, ∀ mark ∈ marks, Text.hasWord mark comment.text = false

instance (line : Line) : Decidable line.Quiet :=
  inferInstanceAs (Decidable (∀ comment ∈ line.comments, ∀ mark ∈ marks,
    Text.hasWord mark comment.text = false))

theorem SameBesideComments.symm {line other : Line} (same : line.SameBesideComments other) :
    other.SameBesideComments line :=
  ⟨same.masked.symm, same.code.symm, same.before.symm, same.after.symm, same.comments.symm,
    same.outside.symm, same.blanks.symm⟩

/-! ## The comments of a line -/

section Comments

variable {before : CommentState} {raw : List Char} {comment : Excerpt} {column : Nat}

/-- A comment is the piece of its line at its place. -/
theorem text_of_mem_comments (member : comment ∈ (ofRaw before raw).comments) :
    comment.stop ≤ raw.length ∧ comment.text = Text.slice raw comment.start comment.stop := by
  have piece := Lexing.slice_of_mem_commentsFrom [] member
  rwa [List.nil_append, Source.flatMap_raw_segments] at piece

theorem isCommented_iff {line : Line} :
    line.isCommented column ↔
      ∃ comment ∈ line.comments, comment.start ≤ column ∧ column < comment.stop := by
  simp only [isCommented, List.any_eq_true, Bool.and_eq_true, decide_eq_true_eq]

/-- A character at a column in a comment is one of the comment's. -/
theorem mem_text_of_isCommented {c : Char} (written : raw[column]? = some c)
    (commented : (ofRaw before raw).isCommented column) :
    ∃ comment ∈ (ofRaw before raw).comments, c ∈ comment.text := by
  obtain ⟨comment, member, starts, stops⟩ := isCommented_iff.mp commented
  refine ⟨comment, member, ?_⟩
  rw [(text_of_mem_comments member).2, Text.slice]
  apply List.mem_of_getElem?
  rw [List.getElem?_drop, List.getElem?_take_of_lt (show comment.start + (column - comment.start) <
    comment.stop by omega), Nat.add_sub_cancel' starts]
  exact written

/-- The code view is blank in comments. -/
theorem code_of_isCommented (commented : (ofRaw before raw).isCommented column) :
    (ofRaw before raw).code[column]? = some ' ' := by
  have within := isCommented_iff.mp commented
  obtain ⟨comment, member, -, stops⟩ := within
  have inside : column < raw.length :=
    Nat.lt_of_lt_of_le stops (text_of_mem_comments member).1
  have region : ((Source.segments before raw).1.flatMap Lexing.regions)[column]? =
      some .comment := by
    rw [Lexing.region_comment_iff 0, Nat.zero_add]
    exact isCommented_iff.mp commented
  show ((Source.segments before raw).1.flatMap Segment.visible)[column]? = some ' '
  rw [Lexing.flatMap_eq_zipWith Lexing.visible_eq_zipWith, Source.flatMap_raw_segments,
    List.getElem?_zipWith, region, List.getElem?_eq_getElem inside]
  rfl

theorem mem_segments_of_mem_commentsFrom {start : Nat} {pieces : List Segment}
    (member : comment ∈ Source.commentsFrom start pieces) : .comment comment.text ∈ pieces := by
  induction pieces generalizing start with
  | nil => exact absurd member List.not_mem_nil
  | cons piece pieces inductionHypothesis =>
    rw [Lexing.commentsFrom_cons, List.mem_append] at member
    rcases member with here | later
    · cases piece with
      | comment text =>
        rw [List.mem_singleton.mp here]
        exact List.mem_cons_self
      | code c => exact absurd here List.not_mem_nil
      | literal text => exact absurd here List.not_mem_nil
    · exact List.mem_cons_of_mem _ (inductionHypothesis later)

/-- On a line that starts in code every comment starts with a slash. -/
theorem slash_of_mem_comments (member : comment ∈ (ofRaw .code raw).comments) :
    raw[comment.start]? = some '/' := by
  have opened : ∀ piece ∈ (Source.segments .code raw).1,
      ∀ text, piece = .comment text → text.head? = some '/' := by
    apply Source.forall_segments (fun piece => ∀ text, piece = .comment text →
      text.head? = some '/') rfl
    · exact fun c text same => nomatch same
    · intro rest text same
      cases same
      rfl
    · exact fun quote rest _ text same => nomatch same
  have first := opened _ (mem_segments_of_mem_commentsFrom member) _ rfl
  rw [(text_of_mem_comments member).2, Text.slice, List.head?_drop, List.getElem?_take,
    Option.ite_none_right_eq_some] at first
  exact first.2

end Comments

/-! ## What quiet comments say -/

section Quiet

variable {line : Line} (quiet : line.Quiet)
include quiet

theorem not_infix_of_quiet {comment : Excerpt} (member : comment ∈ line.comments)
    {mark : List Char} (among : mark ∈ marks) : ¬ mark <:+: comment.text := by
  intro inside
  have found : Text.hasWord mark comment.text := Text.isSome_find?_iff.mpr inside
  rw [quiet comment member mark among] at found
  cases found

theorem isMarked_of_quiet : CaseBlock.isMarked line = false := by
  rw [← Bool.not_eq_true]
  intro marked
  obtain ⟨text, member, inside⟩ := Text.exists_infix_of_intercalate
    (show ' ' ∉ CaseBlock.fallThroughMarker by decide) (by decide)
    (Text.isSome_find?_iff.mp marked)
  obtain ⟨comment, among, rfl⟩ := List.mem_map.mp member
  exact not_infix_of_quiet quiet among (by decide) inside

theorem pending_of_quiet : Spacing.pending line.comments = [] := by
  rw [Spacing.pending, List.filterMap_eq_nil_iff]
  intro comment member
  rw [Option.map_eq_none_iff, Option.eq_none_iff_forall_ne_some]
  intro found first
  obtain ⟨start, inside, first⟩ := Pattern.exists_of_searchAt? first
  obtain ⟨stop, reached, -⟩ := Pattern.exists_of_matchAt? first
  simp only [Spacing.todoMarker, Pattern.boundary, Pattern.mem_outcomes_append,
    Pattern.mem_outcomes_look, Pattern.mem_outcomes_oneOf] at reached
  obtain ⟨_, ⟨_, ⟨-, rfl⟩, word, among, rest, here, -⟩, -⟩ := reached
  have marked : word.toList <:+: comment.text :=
    (List.IsPrefix.isInfix ⟨rest, here.symm⟩).trans inside.isInfix
  rcases List.mem_pair.mp among with rfl | rfl
  · exact not_infix_of_quiet quiet member (by decide) marked
  · exact not_infix_of_quiet quiet member (by decide) marked

theorem ne_backslash_of_quiet {comment : Excerpt} (member : comment ∈ line.comments) {c : Char}
    (inside : c ∈ comment.text) : c ≠ '\\' := by
  rintro rfl
  obtain ⟨first, rest, split⟩ := List.append_of_mem inside
  refine not_infix_of_quiet quiet member (show ['\\'] ∈ marks by decide) ⟨first, rest, ?_⟩
  rw [split, List.append_assoc]
  rfl

end Quiet

/-! ## What both lines show -/

namespace SameBesideComments

theorem isCommented_eq {line other : Line} (same : line.SameBesideComments other) :
    line.isCommented = other.isCommented := by
  have places : ∀ line : Line, ∀ column, line.isCommented column =
      (line.comments.map fun comment => (comment.start, comment.length)).any
        fun place => place.1 ≤ column && column < place.1 + place.2 := by
    intro line column
    rw [List.any_map]
    rfl
  funext column
  rw [places, places, same.comments]

section Raw

variable {before otherBefore : CommentState} {raw otherRaw : List Char}
  (same : (ofRaw before raw).SameBesideComments (ofRaw otherBefore otherRaw))
include same

theorem length_eq : raw.length = otherRaw.length := by
  rw [← length_code_ofRaw before raw, ← length_code_ofRaw otherBefore otherRaw, same.code]

/-- Outside comments both lines are written alike. -/
theorem getElem?_eq {column : Nat} (clear : (ofRaw before raw).isCommented column = false) :
    raw[column]? = otherRaw[column]? := by
  have here := congrArg (·[column]?) same.outside
  have clearToo : (ofRaw otherBefore otherRaw).isCommented column = false := by
    rw [← same.isCommented_eq]
    exact clear
  simp only [Line.outside, raw_ofRaw, List.getElem?_mapIdx, clear, clearToo] at here
  exact Option.map_injective (Option.some_injective Char) here

/-- A start of the line that no comment reaches into is a start of the other line. -/
theorem isPrefix_of_clear {start : List Char} (starts : start <+: raw)
    (clear : ∀ comment ∈ (ofRaw before raw).comments, start.length ≤ comment.start) :
    start <+: otherRaw := by
  rw [List.prefix_iff_getElem?]
  intro column inside
  rw [← List.prefix_iff_getElem?.mp starts column inside]
  apply (same.getElem?_eq _).symm
  rw [← Bool.not_eq_true]
  intro commented
  obtain ⟨comment, member, begun, -⟩ := isCommented_iff.mp commented
  exact Nat.lt_irrefl _ (Nat.lt_of_lt_of_le inside (Nat.le_trans (clear comment member) begun))

/-- On a line that starts in code, a start of it without a slash is a start of the other line. -/
theorem isPrefix_of_noSlash (code : before = .code) {start : List Char} (starts : start <+: raw)
    (noSlash : '/' ∉ start) : start <+: otherRaw := by
  subst code
  apply same.isPrefix_of_clear starts
  intro comment member
  by_contra reaches
  have within : comment.start < start.length := Nat.lt_of_not_le reaches
  have here := List.prefix_iff_getElem?.mp starts comment.start within
  rw [slash_of_mem_comments member, Option.some.injEq] at here
  exact noSlash (here ▸ List.getElem_mem within)

/-! ### Blanks and backslashes -/

variable (quiet : (ofRaw before raw).Quiet) (quietToo : (ofRaw otherBefore otherRaw).Quiet)
include quiet quietToo

theorem map_veil_eq : raw.map Text.veil = otherRaw.map Text.veil := by
  apply List.ext_getElem?
  intro column
  rw [List.getElem?_map, List.getElem?_map]
  cases commented : (ofRaw before raw).isCommented column with
  | false => rw [same.getElem?_eq commented]
  | true =>
    have commentedToo : (ofRaw otherBefore otherRaw).isCommented column := by
      rw [← same.isCommented_eq]
      exact commented
    have blanks := congrArg (·[column]?) same.blanks
    simp only [Text.blanks, raw_ofRaw, List.getElem?_map] at blanks
    cases here : raw[column]? with
    | none =>
      rw [here] at blanks
      rw [Option.map_eq_none_iff.mp blanks.symm]
    | some c =>
      rw [here] at blanks
      obtain ⟨d, there, shown⟩ := Option.map_eq_some_iff.mp blanks.symm
      obtain ⟨comment, member, inside⟩ := mem_text_of_isCommented here commented
      obtain ⟨commentToo, memberToo, insideToo⟩ := mem_text_of_isCommented there commentedToo
      rw [there]
      exact congrArg some (Text.veil_eq_of_blank shown.symm
        (ne_backslash_of_quiet quiet member inside)
        (ne_backslash_of_quiet quietToo memberToo insideToo))

theorem alike : (ofRaw before raw).Alike (ofRaw otherBefore otherRaw) where
  masked := same.masked
  code := same.code
  before := same.before
  after := same.after
  length := same.length_eq
  margin := by
    rw [raw_ofRaw, raw_ofRaw, ← Text.takeWhile_map_veil, same.map_veil_eq quiet quietToo,
      Text.takeWhile_map_veil]
  isMarked := (isMarked_of_quiet quiet).trans (isMarked_of_quiet quietToo).symm
  pending := (pending_of_quiet quiet).trans (pending_of_quiet quietToo).symm

theorem trailing_eq : Spacing.matchFindings .trailingWhitespace Spacing.trailingSpaces raw =
    Spacing.matchFindings .trailingWhitespace Spacing.trailingSpaces otherRaw := by
  have shown : ∀ raw : List Char,
      Spacing.matchFindings .trailingWhitespace Spacing.trailingSpaces raw =
        Spacing.matchFindings .trailingWhitespace Spacing.trailingSpaces (raw.map Text.veil) := by
    intro raw
    unfold Spacing.matchFindings
    rw [Pattern.findAll_replaced Spacing.blind_trailingSpaces, List.map_map]
    apply List.map_congr_left
    intro found _
    simp [Kind.on, Match.replaced, Excerpt.replaced, Excerpt.length]
  rw [shown, shown otherRaw, same.map_veil_eq quiet quietToo]

theorem continues_eq : ((Text.trimRight raw).getLast? == some '\\') =
    ((Text.trimRight otherRaw).getLast? == some '\\') := by
  rw [← Text.continues_map_veil, same.map_veil_eq quiet quietToo, Text.continues_map_veil]

omit quiet quietToo in
theorem firstForeign?_eq : Call.firstForeign? 0 raw (ofRaw before raw).code =
    Call.firstForeign? 0 otherRaw (ofRaw otherBefore otherRaw).code := by
  rw [← same.code]
  apply Call.firstForeign?_congr same.length_eq
  intro column
  cases commented : (ofRaw before raw).isCommented column with
  | false => exact .inl (same.getElem?_eq commented)
  | true => exact .inr (code_of_isCommented commented)

end Raw

end SameBesideComments

end Line

end HouseStyle
