import HouseStyle.Proofs.Indentation
import HouseStyle.Proofs.Rule.Alike

/-!
Contract: what a line shows of its literals.

Owns: lines that differ in the contents of literals only, and what the checks read of them.
Does not own: the checks.

A literal starts with a quote, which is neither blank nor the hash of a directive. So the blanks at
the start of a line and the question whether a hash follows them are settled by the line with its
literals hidden, and by the comment that the line starts in.

Main statements: `forall₂_alike` and `forall_plain_of_sameCode`.
-/

namespace HouseStyle

namespace Text

/-- Two texts that start with the same blanks, after which both or neither have a hash. -/
structure StartsAlike (text other : List Char) : Prop where
  margin : text.takeWhile isBlank = other.takeWhile isBlank
  hash : (trimLeft text).head? = some '#' ↔ (trimLeft other).head? = some '#'

namespace StartsAlike

variable {text other third : List Char}

theorem refl (text : List Char) : StartsAlike text text :=
  ⟨rfl, Iff.rfl⟩

theorem symm (alike : StartsAlike text other) : StartsAlike other text :=
  ⟨alike.margin.symm, alike.hash.symm⟩

theorem trans (alike : StartsAlike text other) (further : StartsAlike other third) :
    StartsAlike text third :=
  ⟨alike.margin.trans further.margin, alike.hash.trans further.hash⟩

theorem cons (c : Char) (alike : StartsAlike text other) : StartsAlike (c :: text) (c :: other) := by
  by_cases blank : isBlank c
  · refine ⟨?_, ?_⟩
    · rw [List.takeWhile_cons_of_pos blank, List.takeWhile_cons_of_pos blank, alike.margin]
    · rw [trimLeft, trimLeft, List.dropWhile_cons_of_pos blank, List.dropWhile_cons_of_pos blank]
      exact alike.hash
  · refine ⟨?_, ?_⟩
    · rw [List.takeWhile_cons_of_neg blank, List.takeWhile_cons_of_neg blank]
    · rw [trimLeft, trimLeft, List.dropWhile_cons_of_neg blank, List.dropWhile_cons_of_neg blank]
      rfl

/-- What follows a character that is not blank does not matter. -/
theorem append {c : Char} (member : c ∈ text) (ink : isBlank c = false) (rest : List Char) :
    StartsAlike (text ++ rest) text := by
  induction text with
  | nil => exact absurd member List.not_mem_nil
  | cons d text inductionHypothesis =>
    by_cases blank : isBlank d
    · have later : c ∈ text := by
        rcases List.mem_cons.mp member with rfl | later
        · rw [ink] at blank
          cases blank
        · exact later
      exact (inductionHypothesis later).cons d
    · refine ⟨?_, ?_⟩
      · rw [List.cons_append, List.takeWhile_cons_of_neg blank, List.takeWhile_cons_of_neg blank]
      · rw [List.cons_append, trimLeft, trimLeft, List.dropWhile_cons_of_neg blank,
          List.dropWhile_cons_of_neg blank]
        rfl

end StartsAlike

/-- A text that starts with a character that is neither blank nor a hash. -/
def StartsPlain (text : List Char) : Prop :=
  ∃ c rest, text = c :: rest ∧ isBlank c = false ∧ c ≠ '#'

theorem StartsPlain.alike {text other : List Char} (plain : StartsPlain text)
    (plainToo : StartsPlain other) (rest others : List Char) :
    StartsAlike (text ++ rest) (other ++ others) := by
  obtain ⟨c, text, rfl, ink, noHash⟩ := plain
  obtain ⟨d, other, rfl, inkToo, noHashToo⟩ := plainToo
  refine ⟨?_, ?_⟩
  · rw [List.cons_append, List.cons_append, List.takeWhile_cons_of_neg (by simp [ink]),
      List.takeWhile_cons_of_neg (by simp [inkToo])]
  · rw [trimLeft, trimLeft, List.cons_append, List.cons_append,
      List.dropWhile_cons_of_neg (by simp [ink]), List.dropWhile_cons_of_neg (by simp [inkToo])]
    simp [noHash, noHashToo]

theorem StartsPlain.masked {text : List Char} (plain : StartsPlain text) :
    StartsPlain (text.map fun _ => maskCharacter) := by
  obtain ⟨c, text, rfl, -, -⟩ := plain
  exact ⟨maskCharacter, _, rfl, by decide, by decide⟩

end Text

namespace Source

/-- A segment that a quote or the mark of a comment opens, unless it is code. -/
def Opened : Segment → Prop
  | .code _ => True
  | .comment text => Text.StartsPlain text
  | .literal text => Text.StartsPlain text

/-- What holds of every character, of every text after a slash as a comment and of every text after
a quote as a literal holds of all segments of a line that starts in code. -/
theorem forall_segments (Holds : Segment → Prop) {state : CommentState} {text : List Char}
    (starts : state = .code) (code : ∀ c, Holds (.code c))
    (comment : ∀ rest, Holds (.comment ('/' :: rest)))
    (literal : ∀ quote rest, quote = '"' ∨ quote = '\'' → Holds (.literal (quote :: rest))) :
    ∀ piece ∈ (segments state text).1, Holds piece := by
  fun_induction segments state text with
  | case1 => exact fun _ member => absurd member List.not_mem_nil
  | case2 => cases starts
  | case3 => cases starts
  | case4 rest => exact List.forall_mem_singleton.mpr (comment _)
  | case5 rest _ _ => exact List.forall_mem_singleton.mpr (comment _)
  | case6 rest _ after split _ following state eq inductionHypothesis =>
    rw [eq] at inductionHypothesis
    exact List.forall_mem_cons.mpr ⟨comment _, inductionHypothesis rfl⟩
  | case7 c rest _ _ quote _ following state eq inductionHypothesis =>
    rw [eq] at inductionHypothesis
    exact List.forall_mem_cons.mpr ⟨literal c _ quote, inductionHypothesis rfl⟩
  | case8 c rest _ _ _ following state eq inductionHypothesis =>
    rw [eq] at inductionHypothesis
    exact List.forall_mem_cons.mpr ⟨code c, inductionHypothesis rfl⟩

theorem opened_segments {state : CommentState} {text : List Char} (starts : state = .code) :
    ∀ piece ∈ (segments state text).1, Opened piece := by
  apply forall_segments Opened starts
  · exact fun _ => trivial
  · exact fun rest => ⟨'/', rest, rfl, by decide, by decide⟩
  · rintro quote rest (rfl | rfl) <;> exact ⟨_, rest, rfl, by decide, by decide⟩

theorem startsAlike_of_opened {pieces : List Segment} (opened : ∀ piece ∈ pieces, Opened piece) :
    Text.StartsAlike (pieces.flatMap Segment.raw) (pieces.flatMap Segment.masked) := by
  induction pieces with
  | nil => exact Text.StartsAlike.refl []
  | cons piece pieces inductionHypothesis =>
    rcases List.forall_mem_cons.mp opened with ⟨first, others⟩
    rw [List.flatMap_cons, List.flatMap_cons]
    cases piece with
    | code c => exact (inductionHypothesis others).cons c
    | comment text => exact Text.StartsPlain.alike first first.masked _ _
    | literal text => exact Text.StartsPlain.alike first first.masked _ _

/-- A comment that ends on its line holds its end. -/
theorem slash_of_splitComment {text comment rest : List Char}
    (split : splitComment text = (comment, some rest)) : '/' ∈ comment := by
  fun_induction splitComment text generalizing comment with
  | case1 => cases split
  | case2 =>
    cases split
    decide
  | case3 c tail _ inner after eq inductionHypothesis =>
    cases split
    exact List.mem_cons_of_mem _ (inductionHypothesis eq)

end Source

namespace Line

/-- The text that settles how a line starts: the comment that it starts in, or the line with
comments and literals hidden. -/
def opening (line : Line) : List Char :=
  match line.before with
  | .code => line.masked
  | .block => (line.comments.head?.map Excerpt.text).getD []

theorem startsAlike_opening (before : CommentState) (raw : List Char) :
    Text.StartsAlike raw (ofRaw before raw).opening := by
  cases before with
  | code =>
    have opened : ∀ piece ∈ (Source.segments .code raw).1, Source.Opened piece :=
      Source.opened_segments rfl
    have alike := Source.startsAlike_of_opened opened
    rwa [Source.flatMap_raw_segments] at alike
  | block =>
    by_cases nothing : raw = []
    · have bare : (ofRaw .block []).opening = [] := by
        simp [opening, ofRaw, Source.segments, Source.commentsFrom]
      rw [nothing, bare]
      exact Text.StartsAlike.refl []
    · have pieces := Source.segments_block nothing
      show Text.StartsAlike raw
        (((Source.commentsFrom 0 (Source.segments .block raw).1).head?.map Excerpt.text).getD [])
      rw [pieces]
      cases split : Source.splitComment raw with
      | mk comment after? =>
        cases after? with
        | none =>
          rw [← Source.splitComment_eq_self split]
          exact Text.StartsAlike.refl comment
        | some after =>
          rw [← Source.splitComment_eq_append split]
          exact Text.StartsAlike.append (Source.slash_of_splitComment split) (by decide) after

/-- Two lines that differ in the contents of literals only. -/
structure SameCode (line other : Line) : Prop where
  masked : line.masked = other.masked
  code : line.code = other.code
  comments : line.comments = other.comments
  before : line.before = other.before
  after : line.after = other.after

instance (line other : Line) : Decidable (line.SameCode other) :=
  decidable_of_iff (line.masked = other.masked ∧ line.code = other.code ∧
    line.comments = other.comments ∧ line.before = other.before ∧ line.after = other.after)
    ⟨fun ⟨masked, code, comments, before, after⟩ => ⟨masked, code, comments, before, after⟩,
      fun ⟨masked, code, comments, before, after⟩ => ⟨masked, code, comments, before, after⟩⟩

theorem SameCode.opening_eq {line other : Line} (same : line.SameCode other) :
    line.opening = other.opening := by
  unfold opening
  rw [same.before, same.masked, same.comments]

/-- Neither the line as it is written nor its code starts with the hash of a directive. -/
structure Plain (line : Line) : Prop where
  raw : (Text.trimLeft line.raw).head? ≠ some '#'
  code : (Text.trimLeft line.code).head? ≠ some '#'

instance (line : Line) : Decidable line.Plain :=
  decidable_of_iff ((Text.trimLeft line.raw).head? ≠ some '#' ∧
    (Text.trimLeft line.code).head? ≠ some '#')
    ⟨fun ⟨raw, code⟩ => ⟨raw, code⟩, fun ⟨raw, code⟩ => ⟨raw, code⟩⟩

section SameCode

variable {before otherBefore : CommentState} {raw otherRaw : List Char}
  (same : (ofRaw before raw).SameCode (ofRaw otherBefore otherRaw))
include same

theorem startsAlike_of_sameCode : Text.StartsAlike raw otherRaw := by
  have first := startsAlike_opening before raw
  rw [same.opening_eq] at first
  exact first.trans (startsAlike_opening otherBefore otherRaw).symm

/-- The checks read the same of lines that differ in the contents of literals only. -/
theorem alike_of_sameCode : (ofRaw before raw).Alike (ofRaw otherBefore otherRaw) where
  masked := same.masked
  code := same.code
  before := same.before
  after := same.after
  length := by
    rw [raw_ofRaw, raw_ofRaw, ← length_code_ofRaw before raw,
      ← length_code_ofRaw otherBefore otherRaw, same.code]
  margin := (startsAlike_of_sameCode same).margin
  isMarked := by rw [CaseBlock.isMarked, CaseBlock.isMarked, commentText, commentText, same.comments]
  pending := congrArg Spacing.pending same.comments

theorem plain_of_sameCode (plain : (ofRaw before raw).Plain) :
    (ofRaw otherBefore otherRaw).Plain where
  raw := fun hash => plain.raw ((startsAlike_of_sameCode same).hash.mpr hash)
  code := by
    rw [← same.code]
    exact plain.code

end SameCode

section Lines

variable {before otherBefore : CommentState} {raws others : List (List Char)}

/-- What two lines share by how they are written, lists of them share line by line. -/
theorem forall₂_of_ofRaw {given relation : Line → Line → Prop}
    (read : ∀ {before otherBefore : CommentState} {raw otherRaw : List Char},
      given (ofRaw before raw) (ofRaw otherBefore otherRaw) →
        relation (ofRaw before raw) (ofRaw otherBefore otherRaw))
    (same : List.Forall₂ given (ofRawsFrom before raws) (ofRawsFrom otherBefore others)) :
    List.Forall₂ relation (ofRawsFrom before raws) (ofRawsFrom otherBefore others) := by
  induction raws generalizing before otherBefore others with
  | nil =>
    cases others with
    | nil => exact .nil
    | cons => cases same
  | cons raw raws inductionHypothesis =>
    cases others with
    | nil => cases same
    | cons other others =>
      rw [ofRawsFrom, ofRawsFrom] at same ⊢
      cases same with
      | cons first rest => exact .cons (read first) (inductionHypothesis rest)

theorem forall₂_alike
    (same : List.Forall₂ SameCode (ofRawsFrom before raws) (ofRawsFrom otherBefore others)) :
    List.Forall₂ Alike (ofRawsFrom before raws) (ofRawsFrom otherBefore others) :=
  forall₂_of_ofRaw alike_of_sameCode same

theorem forall_plain_of_sameCode
    (same : List.Forall₂ SameCode (ofRawsFrom before raws) (ofRawsFrom otherBefore others))
    (plain : ∀ line ∈ ofRawsFrom before raws, line.Plain) :
    ∀ line ∈ ofRawsFrom otherBefore others, line.Plain := by
  have carried : List.Forall₂ (fun line other => line.Plain → other.Plain)
      (ofRawsFrom before raws) (ofRawsFrom otherBefore others) :=
    forall₂_of_ofRaw plain_of_sameCode same
  generalize ofRawsFrom before raws = lines at carried plain
  generalize ofRawsFrom otherBefore others = linesToo at carried ⊢
  induction carried with
  | nil => exact plain
  | cons first _ inductionHypothesis =>
    obtain ⟨plainFirst, plainRest⟩ := List.forall_mem_cons.mp plain
    exact List.forall_mem_cons.mpr ⟨first plainFirst, inductionHypothesis plainRest⟩

end Lines

end Line

end HouseStyle
