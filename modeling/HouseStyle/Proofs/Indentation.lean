import HouseStyle.Proofs.Lines
import HouseStyle.Proofs.Pattern.Shift
import Mathlib.Data.List.Forall2

/-!
Contract: lines with and without their indentation.

Owns: the line that is left when leading spaces and tabs are taken away, and how each view of the
indented line begins.
Does not own: what a scan reads off either line.

A line that starts in code keeps its spaces and tabs in every view. A line that starts in a block
comment hides them like the rest of the comment: as spaces in the code view, as mask characters in
the masked view, and as part of its first comment.

Main statement: `forall₂_indents_ofRaws`.
-/

namespace HouseStyle

/-- A line without its leading spaces and tabs. -/
def Source.flush (raw : List Char) : List Char :=
  raw.dropWhile isIndentation

/-- A text that is another one after spaces and tabs. -/
def Text.Indents (text base : List Char) : Prop :=
  ∃ indentation, (∀ c ∈ indentation, Source.isIndentation c) ∧ text = indentation ++ base

theorem Text.indents_self (text : List Char) : Text.Indents text text :=
  ⟨[], fun _ member => absurd member List.not_mem_nil, rfl⟩

theorem Text.intercalate_append_cons (separator first second : List Char)
    (rest : List (List Char)) :
    separator.intercalate ((first ++ second) :: rest) =
      first ++ separator.intercalate (second :: rest) := by
  cases rest with
  | nil => simp only [List.intercalate_singleton]
  | cons other rest => simp only [List.intercalate_cons_cons, List.append_assoc]

/-- A line that reads as another one after a margin in each of its views. -/
structure Line.Indents (line base : Line) : Prop where
  raw : Text.Indents line.raw base.raw
  masked : ∃ margin, (∀ c ∈ margin, isMargin c) ∧ line.masked = margin ++ base.masked
  code : Text.Indents line.code base.code
  commentText : Text.Indents line.commentText base.commentText
  before : line.before = base.before
  after : line.after = base.after

namespace Source

theorem mem_isIndentation_cases {c : Char} (blank : isIndentation c) : c = ' ' ∨ c = '\t' := by
  simpa [isIndentation] using blank

theorem isIndentation_of_mem_takeWhile (raw : List Char) :
    ∀ c ∈ raw.takeWhile isIndentation, isIndentation c := by
  intro c member
  exact List.all_eq_true.mp List.all_takeWhile c member

theorem takeWhile_append_flush (raw : List Char) :
    raw.takeWhile isIndentation ++ flush raw = raw :=
  List.takeWhile_append_dropWhile

theorem isIndentation_map_space (text : List Char) :
    ∀ c ∈ text.map fun _ => ' ', isIndentation c := by
  intro c member
  rcases List.mem_map.mp member with ⟨-, -, rfl⟩
  rfl

theorem isMargin_map_mask (text : List Char) :
    ∀ c ∈ text.map fun _ => maskCharacter, isMargin c := by
  intro c member
  rcases List.mem_map.mp member with ⟨-, -, rfl⟩
  decide

section Segments

variable {indentation : List Char} (all : ∀ c ∈ indentation, isIndentation c)
include all

theorem segments_code_indented (text : List Char) :
    segments .code (indentation ++ text) =
      (indentation.map Segment.code ++ (segments .code text).1, (segments .code text).2) := by
  induction indentation with
  | nil => rfl
  | cons c indentation inductionHypothesis =>
    rcases List.forall_mem_cons.mp all with ⟨blank, rest⟩
    have later := inductionHypothesis rest
    rcases mem_isIndentation_cases blank with rfl | rfl
    all_goals
      rw [List.cons_append, segments, later]
      · rfl
      all_goals simp

theorem splitComment_indented (text : List Char) :
    splitComment (indentation ++ text) =
      (indentation ++ (splitComment text).1, (splitComment text).2) := by
  induction indentation with
  | nil => rfl
  | cons c indentation inductionHypothesis =>
    rcases List.forall_mem_cons.mp all with ⟨blank, rest⟩
    have later := inductionHypothesis rest
    rcases mem_isIndentation_cases blank with rfl | rfl
    all_goals
      rw [List.cons_append, splitComment, later]
      · rfl
      all_goals simp

end Segments

/-- A line that starts in a block comment: its first comment, and the code after it. -/
theorem segments_block {text : List Char} (written : text ≠ []) :
    segments .block text =
      match splitComment text with
      | (comment, none) => ([.comment comment], .block)
      | (comment, some after) =>
        (.comment comment :: (segments .code after).1, (segments .code after).2) := by
  rcases List.exists_cons_of_ne_nil written with ⟨c, rest, rfl⟩
  rw [segments]
  split <;> simp_all

theorem segments_block_indented {indentation : List Char}
    (all : ∀ c ∈ indentation, isIndentation c) {text : List Char} (written : text ≠ []) :
    ∃ comment following after,
      segments .block text = (.comment comment :: following, after) ∧
      segments .block (indentation ++ text) =
        (.comment (indentation ++ comment) :: following, after) := by
  have writtenToo : indentation ++ text ≠ [] := by simp [written]
  rw [segments_block written, segments_block writtenToo, splitComment_indented all]
  rcases splitComment text with ⟨comment, after?⟩
  cases after? with
  | none => exact ⟨comment, [], .block, rfl, rfl⟩
  | some after => exact ⟨comment, _, _, rfl, rfl⟩

/-- The texts of comments, whatever their columns. -/
theorem map_text_commentsFrom (column other : Nat) (pieces : List Segment) :
    (commentsFrom column pieces).map Excerpt.text =
      (commentsFrom other pieces).map Excerpt.text := by
  induction pieces generalizing column other with
  | nil => rfl
  | cons piece pieces inductionHypothesis =>
    cases piece with
    | code c => exact inductionHypothesis _ _
    | comment text => exact congrArg (List.cons text) (inductionHypothesis _ _)
    | literal text => exact inductionHypothesis _ _

theorem map_text_commentsFrom_code (column : Nat) (text : List Char) (pieces : List Segment) :
    (commentsFrom column (text.map Segment.code ++ pieces)).map Excerpt.text =
      (commentsFrom 0 pieces).map Excerpt.text := by
  induction text generalizing column with
  | nil => exact map_text_commentsFrom _ _ _
  | cons c text inductionHypothesis => exact inductionHypothesis _

/-- Spaces before a text widen its indentation. -/
theorem indentWidth_replicate (width : Nat) (text : List Char) :
    indentWidth (List.replicate width ' ' ++ text) = width + indentWidth text := by
  induction width with
  | zero => rw [List.replicate_zero, List.nil_append, Nat.zero_add]
  | succ width inductionHypothesis =>
    rw [List.replicate_succ, List.cons_append, indentWidth, inductionHypothesis, Nat.add_right_comm]

end Source

namespace Line

theorem indents_self (line : Line) : line.Indents line :=
  ⟨Text.indents_self _, ⟨[], fun _ member => absurd member List.not_mem_nil, rfl⟩,
    Text.indents_self _, Text.indents_self _, rfl, rfl⟩

section OfRaw

variable {indentation : List Char} (all : ∀ c ∈ indentation, Source.isIndentation c)
include all

theorem indents_ofRaw_code (text : List Char) :
    (ofRaw .code (indentation ++ text)).Indents (ofRaw .code text) := by
  have split := Source.segments_code_indented all text
  have views : ∀ {view : Segment → List Char}, (∀ c, view (.code c) = [c]) →
      (Source.segments .code (indentation ++ text)).1.flatMap view =
        indentation ++ (Source.segments .code text).1.flatMap view := by
    intro view shown
    rw [split, List.flatMap_append, List.flatMap_map]
    simp only [shown, List.flatMap_singleton']
  refine ⟨⟨indentation, all, rfl⟩, ⟨indentation, isMargin_of_indentation all, ?_⟩,
    ⟨indentation, all, ?_⟩, ?_, rfl, ?_⟩
  · exact views fun _ => rfl
  · exact views fun _ => rfl
  · have same : (ofRaw .code (indentation ++ text)).commentText =
        (ofRaw .code text).commentText := by
      show List.intercalate _ ((Source.commentsFrom 0 (Source.segments .code _).1).map _) = _
      rw [split, Source.map_text_commentsFrom_code]
      rfl
    rw [same]
    exact Text.indents_self _
  · show (Source.segments .code _).2 = _
    rw [split]
    rfl

/-- A line of spaces and tabs inside a block comment. -/
theorem indents_ofRaw_blank (written : indentation ≠ []) :
    (ofRaw .block indentation).Indents (ofRaw .block []) := by
  have split : Source.splitComment indentation = (indentation, none) := by
    have whole := Source.splitComment_indented all []
    rwa [List.append_nil, Source.splitComment, List.append_nil] at whole
  have pieces : Source.segments .block indentation = ([.comment indentation], .block) := by
    rw [Source.segments_block written, split]
  have empty : Source.segments .block [] = ([], .block) := by
    rw [Source.segments]
  unfold ofRaw
  rw [pieces, empty]
  refine ⟨⟨indentation, all, ?_⟩, ⟨_, Source.isMargin_map_mask indentation, ?_⟩,
    ⟨_, Source.isIndentation_map_space indentation, ?_⟩, ⟨indentation, all, ?_⟩, rfl, rfl⟩
  · exact (List.append_nil _).symm
  · simp [Segment.masked]
  · simp [Segment.visible]
  · simp [commentText, Source.commentsFrom, List.intercalate]

theorem indents_ofRaw_block {text : List Char} (written : text ≠ []) :
    (ofRaw .block (indentation ++ text)).Indents (ofRaw .block text) := by
  rcases Source.segments_block_indented all written with
    ⟨comment, following, after, pieces, indented⟩
  unfold ofRaw
  rw [pieces, indented]
  refine ⟨⟨indentation, all, rfl⟩, ⟨_, Source.isMargin_map_mask indentation, ?_⟩,
    ⟨_, Source.isIndentation_map_space indentation, ?_⟩, ⟨indentation, all, ?_⟩, rfl, rfl⟩
  · simp only [List.flatMap_cons, Segment.masked, List.map_append, List.append_assoc]
  · simp only [List.flatMap_cons, Segment.visible, List.map_append, List.append_assoc]
  · simp only [commentText, Source.commentsFrom, List.map_cons,
      Source.map_text_commentsFrom (0 + (indentation ++ comment).length) (0 + comment.length)]
    exact Text.intercalate_append_cons _ _ _ _

end OfRaw

/-- A line reads as the line without its spaces and tabs, after a margin. -/
theorem indents_ofRaw (before : CommentState) (raw : List Char) :
    (ofRaw before raw).Indents (ofRaw before (Source.flush raw)) := by
  have all := Source.isIndentation_of_mem_takeWhile raw
  have whole := Source.takeWhile_append_flush raw
  cases before with
  | code =>
    have indents := indents_ofRaw_code all (Source.flush raw)
    rwa [whole] at indents
  | block =>
    -- an empty line has no comment of its own that the indentation could join
    by_cases written : Source.flush raw = []
    · by_cases blank : raw.takeWhile Source.isIndentation = []
      · rw [blank, written] at whole
        rw [← whole]
        exact indents_self _
      · rw [written, List.append_nil] at whole
        rw [written]
        have indents := indents_ofRaw_blank all blank
        rwa [whole] at indents
    · have indents := indents_ofRaw_block all written
      rwa [whole] at indents

theorem forall₂_indents_ofRawsFrom (before : CommentState) (raws : List (List Char)) :
    List.Forall₂ Indents (ofRawsFrom before raws) (ofRawsFrom before (raws.map Source.flush)) := by
  induction raws generalizing before with
  | nil => exact .nil
  | cons raw raws inductionHypothesis =>
    have indents := indents_ofRaw before raw
    rw [List.map_cons, ofRawsFrom, ofRawsFrom, ← indents.after]
    exact .cons indents (inductionHypothesis _)

/-- The lines of a file read as the lines without their spaces and tabs, after margins. -/
theorem forall₂_indents_ofRaws (raws : List (List Char)) :
    List.Forall₂ Indents (ofRaws raws) (ofRaws (raws.map Source.flush)) :=
  forall₂_indents_ofRawsFrom .code raws

end Line

end HouseStyle
