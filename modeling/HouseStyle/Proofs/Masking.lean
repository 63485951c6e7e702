import HouseStyle.Source.Line
import Mathlib

/-!
Contract: the views of a line are code through and through.

Owns: the texts in which no comment and no literal starts, the views as such texts, and what marking
the comments and literals of such a text gives.
Does not own: which characters of a line are hidden, which `Proofs.Lexing` says.

Hiding brings characters together that were apart in the line. Nothing can start where they meet: a
slash that stays is followed by the character that followed it in the line, or by one that hides
something, and no hiding character is part of a mark.

Main statement: both views stay as they are when they are marked again (`Line.allCode_views`).
-/

namespace HouseStyle

namespace Source

/-! ## Texts without marks -/

/-- Neither kind of comment starts with the two characters. -/
def OpensNone (c next : Char) : Prop :=
  c = '/' → next ≠ '/' ∧ next ≠ '*'

/-- A text in which neither a literal nor a comment starts. -/
structure MarkFree (text : List Char) : Prop where
  unquoted : ∀ c ∈ text, c ≠ '"' ∧ c ≠ '\''
  opensNone : text.IsChain OpensNone

theorem MarkFree.tail {c : Char} {text : List Char} (free : MarkFree (c :: text)) :
    MarkFree text where
  unquoted := fun d member => free.unquoted d (List.mem_cons_of_mem c member)
  opensNone := free.opensNone.tail

/-- A text without quotes and slashes has no marks. -/
theorem markFree_of_not_mem {text : List Char} (noDouble : '"' ∉ text) (noSingle : '\'' ∉ text)
    (noSlash : '/' ∉ text) : MarkFree text where
  unquoted := by
    intro c member
    constructor
    · rintro rfl
      exact noDouble member
    · rintro rfl
      exact noSingle member
  opensNone := by
    rw [List.isChain_iff_forall_rel_of_append_cons_cons]
    rintro c next before after rfl rfl
    exact absurd (List.mem_append_right before List.mem_cons_self) noSlash

/-- The mark of a comment does not stand in a text without marks. -/
theorem MarkFree.not_isInfix {text : List Char} (free : MarkFree text) {c : Char}
    (mark : c = '/' ∨ c = '*') : ¬ ['/', c] <:+: text := by
  intro inside
  have part : ['/', c].IsChain OpensNone := List.IsChain.infix free.opensNone inside
  obtain ⟨notSlash, notStar⟩ := List.isChain_pair.mp part rfl
  exact mark.elim notSlash notStar

/-- A text without marks falls into single characters of code. -/
theorem segments_of_markFree {state : CommentState} {text : List Char} (start : state = .code)
    (free : MarkFree text) : segments state text = (text.map Segment.code, .code) := by
  fun_induction segments state text with
  | case1 => rw [start]; rfl
  | case2 => cases start
  | case3 => cases start
  | case4 rest =>
    have opens := (List.isChain_cons_cons.mp free.opensNone).1
    exact absurd rfl (opens rfl).1
  | case5 rest comment split =>
    have opens := (List.isChain_cons_cons.mp free.opensNone).1
    exact absurd rfl (opens rfl).2
  | case6 rest comment after split _ following state eq inductionHypothesis =>
    have opens := (List.isChain_cons_cons.mp free.opensNone).1
    exact absurd rfl (opens rfl).2
  | case7 c rest _ _ quote _ following state eq inductionHypothesis =>
    obtain ⟨notDouble, notSingle⟩ := free.unquoted c List.mem_cons_self
    exact absurd quote (not_or.mpr ⟨notDouble, notSingle⟩)
  | case8 c rest _ _ noQuote following state eq inductionHypothesis =>
    have further := inductionHypothesis rfl free.tail
    rw [eq] at further
    cases further
    rfl

/-! ## Views -/

/-- A character that takes the place of a hidden one. -/
def Covers (c : Char) : Prop :=
  c = ' ' ∨ c = maskCharacter

theorem Covers.unquoted {c : Char} (covers : Covers c) : c ≠ '"' ∧ c ≠ '\'' := by
  rcases covers with rfl | rfl
  · decide
  · decide

theorem Covers.opensNone {c : Char} (covers : Covers c) (next : Char) : OpensNone c next := by
  rintro rfl
  rcases covers with space | mask
  · exact absurd space (by decide)
  · exact absurd mask (by decide)

theorem Covers.opensNone_left {next : Char} (covers : Covers next) (c : Char) :
    OpensNone c next := by
  rintro -
  rcases covers with rfl | rfl
  · decide
  · decide

/-- A covered piece before a text without marks makes none. -/
theorem MarkFree.covered_append {cover : Char} (covers : Covers cover) (hidden : List Char)
    {text : List Char} (free : MarkFree text) :
    MarkFree (hidden.map (fun _ => cover) ++ text) := by
  induction hidden with
  | nil => exact free
  | cons c hidden inductionHypothesis =>
    obtain ⟨unquoted, opensNone⟩ := inductionHypothesis
    constructor
    · exact List.forall_mem_cons.mpr ⟨covers.unquoted, unquoted⟩
    · exact List.isChain_cons.mpr ⟨fun next _ => covers.opensNone next, opensNone⟩

/-- A view that shows code and covers the rest. -/
structure Hiding (view : Segment → List Char) : Prop where
  code : ∀ c, view (.code c) = [c]
  comment : ∃ cover, Covers cover ∧ ∀ text, view (.comment text) = text.map fun _ => cover
  literal : ∃ cover, Covers cover ∧ ∀ text, view (.literal text) = text.map fun _ => cover

theorem hiding_masked : Hiding Segment.masked where
  code := fun _ => rfl
  comment := ⟨maskCharacter, .inr rfl, fun _ => rfl⟩
  literal := ⟨maskCharacter, .inr rfl, fun _ => rfl⟩

theorem hiding_visible : Hiding Segment.visible where
  code := fun _ => rfl
  comment := ⟨' ', .inl rfl, fun _ => rfl⟩
  literal := ⟨maskCharacter, .inr rfl, fun _ => rfl⟩

variable {view : Segment → List Char}

/-- Outside comments a view starts as the text does, or with a covered character. -/
theorem Hiding.head?_view (hides : Hiding view) {state : CommentState} (start : state = .code)
    (text : List Char) :
    ∀ next ∈ ((segments state text).1.flatMap view).head?, Covers next ∨ text.head? = some next := by
  obtain ⟨commentCover, commentCovers, ofComment⟩ := hides.comment
  obtain ⟨literalCover, literalCovers, ofLiteral⟩ := hides.literal
  fun_cases segments state text with
  | case1 => rintro next ⟨⟩
  | case2 => cases start
  | case3 => cases start
  | case4 rest =>
    rw [List.flatMap_cons, ofComment]
    rintro next ⟨⟩
    exact .inl commentCovers
  | case5 rest comment split =>
    rw [List.flatMap_cons, ofComment]
    rintro next ⟨⟩
    exact .inl commentCovers
  | case6 rest comment after split _ following state eq =>
    rw [List.flatMap_cons, ofComment]
    rintro next ⟨⟩
    exact .inl commentCovers
  | case7 c rest _ _ quote _ following state eq =>
    rw [List.flatMap_cons, ofLiteral]
    rintro next ⟨⟩
    exact .inl literalCovers
  | case8 c rest _ _ noQuote following state eq =>
    rw [List.flatMap_cons, hides.code]
    rintro next ⟨⟩
    exact .inr rfl

/-- A view of a line is free of marks, in whichever state the line starts. -/
theorem Hiding.markFree (hides : Hiding view) (state : CommentState) (text : List Char) :
    MarkFree ((segments state text).1.flatMap view) := by
  obtain ⟨commentCover, commentCovers, ofComment⟩ := hides.comment
  obtain ⟨literalCover, literalCovers, ofLiteral⟩ := hides.literal
  have nothing : MarkFree [] := ⟨nofun, .nil⟩
  fun_induction segments state text with
  | case1 => exact nothing
  | case2 c rest comment split =>
    rw [List.flatMap_cons, ofComment]
    exact nothing.covered_append commentCovers comment
  | case3 c rest comment after split _ following state eq inductionHypothesis =>
    rw [eq] at inductionHypothesis
    rw [List.flatMap_cons, ofComment]
    exact inductionHypothesis.covered_append commentCovers comment
  | case4 rest =>
    rw [List.flatMap_cons, ofComment]
    exact nothing.covered_append commentCovers _
  | case5 rest comment split =>
    rw [List.flatMap_cons, ofComment]
    exact nothing.covered_append commentCovers _
  | case6 rest comment after split _ following state eq inductionHypothesis =>
    rw [eq] at inductionHypothesis
    rw [List.flatMap_cons, ofComment]
    exact inductionHypothesis.covered_append commentCovers _
  | case7 c rest _ _ quote _ following state eq inductionHypothesis =>
    rw [eq] at inductionHypothesis
    rw [List.flatMap_cons, ofLiteral]
    exact inductionHypothesis.covered_append literalCovers _
  | case8 c rest noLineComment noBlockComment noQuote following state eq inductionHypothesis =>
    have head := hides.head?_view rfl rest
    rw [eq] at inductionHypothesis head
    rw [List.flatMap_cons, hides.code]
    refine ⟨List.forall_mem_cons.mpr ⟨not_or.mp noQuote, inductionHypothesis.unquoted⟩,
      List.isChain_cons.mpr ⟨fun next starts => ?_, inductionHypothesis.opensNone⟩⟩
    -- Whatever follows the character now either covers something or followed it in the line.
    rcases head next starts with covers | follows
    · exact covers.opensNone_left c
    · obtain ⟨others, rfl⟩ := List.head?_eq_some_iff.mp follows
      rintro rfl
      constructor
      · rintro rfl
        exact noLineComment others rfl rfl
      · rintro rfl
        exact noBlockComment others rfl rfl

theorem commentsFrom_map_code (column : Nat) (text : List Char) :
    commentsFrom column (text.map Segment.code) = [] := by
  induction text generalizing column with
  | nil => rfl
  | cons c text inductionHypothesis => exact inductionHypothesis _

end Source

namespace Line

open Source

/-- A text that is code only: it holds no quote and no start of a comment, and marking its comments
and literals finds none and changes nothing. -/
structure AllCode (text : List Char) : Prop where
  noDoubleQuote : '"' ∉ text
  noSingleQuote : '\'' ∉ text
  noLineComment : ¬ ['/', '/'] <:+: text
  noBlockComment : ¬ ['/', '*'] <:+: text
  unchanged : ofRaw .code text =
    { raw := text, masked := text, code := text, comments := [], before := .code, after := .code }

theorem allCode_of_markFree {text : List Char} (free : MarkFree text) : AllCode text where
  noDoubleQuote := fun member => (free.unquoted _ member).1 rfl
  noSingleQuote := fun member => (free.unquoted _ member).2 rfl
  noLineComment := free.not_isInfix (.inl rfl)
  noBlockComment := free.not_isInfix (.inr rfl)
  unchanged := by
    have shown {view : Segment → List Char} (hides : Hiding view) :
        (text.map Segment.code).flatMap view = text := by
      rw [List.flatMap_map, List.flatMap_congr fun c _ => hides.code c, List.flatMap_singleton']
    unfold ofRaw
    rw [segments_of_markFree rfl free]
    simp only [shown hiding_masked, shown hiding_visible, commentsFrom_map_code]

/-- Both views of every line are code only, whether it starts in a comment or not. -/
theorem allCode_views (before : CommentState) (raw : List Char) :
    AllCode (ofRaw before raw).masked ∧ AllCode (ofRaw before raw).code :=
  ⟨allCode_of_markFree (hiding_masked.markFree before raw),
    allCode_of_markFree (hiding_visible.markFree before raw)⟩

end Line

end HouseStyle
