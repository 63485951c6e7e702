import HouseStyle.Proofs.CodeExcess
import HouseStyle.Proofs.Pattern.Reading
import HouseStyle.Proofs.Scan.Advance
import Mathlib

/-!
Contract: what the look-ahead of a label finds is the body of the label.

Owns: the body of a label as a set of lines, its end, and the agreement of the look-ahead with both.
Does not own: the frames of bodies in a scan, which `Proofs.Scan.Nesting` follows.

A body is said without a scan: which lines lie in it depends on the depth at which each line is met,
that is on the braces of all lines with code before it. The look-ahead reads one line after the other
and remembers the depth, the last line with code and whether a mark was seen. Both agree from any
depth on, since a body that goes on behind a line is the body that is read from the depth behind it.

Main statement: `analyze_body`.
-/

namespace HouseStyle.CaseBlock

/-! ## Labels, breaks and marks -/

/-- A text that starts with `case` as a word, or with `default` and a colon. -/
def StartsLabel (text : List Char) : Prop :=
  (∃ rest, text = "case".toList ++ rest ∧ rest.head?.any Text.isWord = false) ∨
    ∃ blanks rest, text = "default".toList ++ blanks ++ ':' :: rest ∧ ∀ c ∈ blanks, Text.isBlank c

/-- A text that starts with the statement `break;`, blanks before the semicolon aside. -/
def StartsBreak (text : List Char) : Prop :=
  ∃ blanks rest, text = "break".toList ++ blanks ++ ';' :: rest ∧ ∀ c ∈ blanks, Text.isBlank c

/-- A line with the mark of a case that runs on in one of its comments. -/
def SaysFallThrough (line : Line) : Prop :=
  ∃ comment ∈ line.comments, fallThroughMarker <:+: comment.text

theorem labelStart_fits_iff {text : List Char} : labelStart.fits text ↔ StartsLabel text := by
  have word : Text.isWord 'e' = true := by decide
  rw [Pattern.fits_iff_reads]
  constructor
  · rintro ⟨_, after, rfl, _, piece, rfl, ⟨rfl, -⟩, ⟨_, _, rfl, named, rfl, edge⟩ | other⟩
    · rw [Pattern.reads_word.mp named] at edge ⊢
      refine .inl ⟨after, rfl, ?_⟩
      simpa [word] using edge
    · obtain ⟨_, _, rfl, ⟨_, blanks, rfl, named, all⟩, colon⟩ := other
      rw [Pattern.reads_word.mp named, Pattern.reads_char.mp colon]
      exact .inr ⟨blanks, after, by simp, all⟩
  · rintro (⟨rest, rfl, edge⟩ | ⟨blanks, rest, rfl, all⟩)
    · refine ⟨_, rest, rfl, [], _, rfl, ⟨rfl, rfl⟩, .inl ⟨_, [], (List.append_nil _).symm,
        Pattern.reads_word.mpr rfl, rfl, ?_⟩⟩
      show (Text.isWord 'e' != rest.head?.any Text.isWord) = true
      rw [word, edge]
      rfl
    · refine ⟨"default".toList ++ blanks ++ [':'], rest, by simp, [], _, rfl, ⟨rfl, rfl⟩, .inr
        ⟨_, [':'], rfl, ⟨_, blanks, rfl, Pattern.reads_word.mpr rfl, all⟩,
          Pattern.reads_char.mpr rfl⟩⟩

theorem breakStatement_fits_iff {text : List Char} :
    breakStatement.fits text ↔ StartsBreak text := by
  rw [Pattern.fits_iff_reads]
  constructor
  · rintro ⟨_, after, rfl, _, _, rfl, ⟨_, blanks, rfl, ⟨_, _, rfl, ⟨rfl, -⟩, named⟩, all⟩, colon⟩
    rw [Pattern.reads_word.mp named, Pattern.reads_char.mp colon]
    exact ⟨blanks, after, by simp, all⟩
  · rintro ⟨blanks, rest, rfl, all⟩
    refine ⟨"break".toList ++ blanks ++ [';'], rest, by simp, _, [';'], rfl, ⟨"break".toList, blanks,
      rfl, ⟨[], "break".toList, rfl, ⟨rfl, rfl⟩, Pattern.reads_word.mpr rfl⟩, all⟩,
      Pattern.reads_char.mpr rfl⟩

theorem isMarked_iff {line : Line} : isMarked line ↔ SaysFallThrough line := by
  rw [isMarked, Text.hasWord, Text.isSome_find?_iff]
  constructor
  · intro inside
    obtain ⟨text, member, inside⟩ := Text.exists_infix_of_intercalate
      (show ' ' ∉ fallThroughMarker by decide) (by decide) inside
    obtain ⟨comment, among, rfl⟩ := List.mem_map.mp member
    exact ⟨comment, among, inside⟩
  · rintro ⟨comment, among, inside⟩
    exact inside.trans (Text.isInfix_intercalate _ (List.mem_map_of_mem among))

/-- A line that starts with a `break` has code. -/
theorem hasCode_of_startsBreak {line : Line} (breaks : StartsBreak line.stripped) : line.hasCode := by
  obtain ⟨blanks, rest, written, -⟩ := breaks
  have first : 'b' ∈ line.stripped := by
    rw [written]
    exact List.mem_append_left _ (List.mem_append_left _ List.mem_cons_self)
  exact List.any_eq_true.mpr ⟨'b', (Text.isInfix_trim line.code).subset first, by decide⟩

/-! ## The lines of a body -/

/-- The depth at which the line of an index is met, if the lines are read from a depth on. -/
def metAt (depth : Int) (lines : List Line) (index : Nat) : Int :=
  depth + Line.openBraces (lines.take index)

/-- A line with code, met at depth zero, that belongs to the switch again: a label, or the brace that
closes the switch. -/
def EndsBefore (depth : Int) (lines : List Line) (index : Nat) : Prop :=
  ∃ line ∈ lines[index]?, line.hasCode ∧ metAt depth lines index = 0 ∧
    (StartsLabel line.stripped ∨ line.stripped.head? = some '}')

/-- A line that brings the depth below zero. -/
def Overcloses (depth : Int) (lines : List Line) (index : Nat) : Prop :=
  metAt depth lines (index + 1) < 0

/-- A line of the body: no line up to it ends the body before, and none before it brings the depth
below zero. -/
structure InBody (depth : Int) (lines : List Line) (index : Nat) : Prop where
  inFile : index < lines.length
  unended : ∀ earlier ≤ index, ¬ EndsBefore depth lines earlier
  unclosed : ∀ earlier < index, ¬ Overcloses depth lines earlier

/-- A line of the body with code. -/
def CodeAt (depth : Int) (lines : List Line) (index : Nat) : Prop :=
  InBody depth lines index ∧ ∃ line ∈ lines[index]?, line.hasCode

/-- A line of the body, met at depth zero, that starts with a `break`. -/
def BreaksAt (depth : Int) (lines : List Line) (index : Nat) : Prop :=
  InBody depth lines index ∧ metAt depth lines index = 0 ∧
    ∃ line ∈ lines[index]?, StartsBreak line.stripped

/-- A line of the body that does not bring the depth below zero and says that the case runs on. -/
def MarksAt (depth : Int) (lines : List Line) (index : Nat) : Prop :=
  InBody depth lines index ∧ ¬ Overcloses depth lines index ∧
    ∃ line ∈ lines[index]?, SaysFallThrough line

/-- The last line of the body: the first that breaks, or else the last with code. -/
inductive LastAt (depth : Int) (lines : List Line) (index : Nat) : Prop where
  | atBreak (breaks : BreaksAt depth lines index)
      (first : ∀ earlier < index, ¬ BreaksAt depth lines earlier)
  | atCode (unbroken : ∀ line, ¬ BreaksAt depth lines line) (code : CodeAt depth lines index)
      (last : ∀ line, CodeAt depth lines line → line ≤ index)

theorem BreaksAt.codeAt {depth : Int} {lines : List Line} {index : Nat}
    (breaks : BreaksAt depth lines index) : CodeAt depth lines index := by
  obtain ⟨inBody, -, line, there, starts⟩ := breaks
  exact ⟨inBody, line, there, hasCode_of_startsBreak starts⟩

theorem LastAt.codeAt {depth : Int} {lines : List Line} {index : Nat}
    (ends : LastAt depth lines index) : CodeAt depth lines index := by
  cases ends with
  | atBreak breaks first => exact breaks.codeAt
  | atCode unbroken code last => exact code

/-- What the look-ahead has to find on lines, given what it found before them. -/
structure Body.Means (depth : Int) (lines : List Line) (start : Nat) (last : Option Nat)
    (marked : Bool) (body : Body) : Prop where
  hasBreak : body.hasBreak ↔ ∃ index, BreaksAt depth lines index
  marked : body.hasBreak = false → (body.marked ↔ marked ∨ ∃ index, MarksAt depth lines index)
  last : body.last = last ∧ (∀ index, ¬ CodeAt depth lines index) ∨
    ∃ index, LastAt depth lines index ∧ body.last = some (start + index)

section Decidable

variable (text : List Char) (line : Line) (depth : Int) (lines : List Line) (index : Nat)

instance : Decidable (StartsLabel text) :=
  decidable_of_iff _ labelStart_fits_iff

instance : Decidable (StartsBreak text) :=
  decidable_of_iff _ breakStatement_fits_iff

instance : Decidable (SaysFallThrough line) :=
  decidable_of_iff _ isMarked_iff

instance : Decidable (EndsBefore depth lines index) := by
  unfold EndsBefore
  infer_instance

instance : Decidable (Overcloses depth lines index) := by
  unfold Overcloses
  infer_instance

instance : Decidable (InBody depth lines index) :=
  decidable_of_iff (index < lines.length ∧
      (∀ earlier ≤ index, ¬ EndsBefore depth lines earlier) ∧
        ∀ earlier < index, ¬ Overcloses depth lines earlier)
    ⟨fun ⟨inFile, unended, unclosed⟩ => ⟨inFile, unended, unclosed⟩,
      fun inBody => ⟨inBody.inFile, inBody.unended, inBody.unclosed⟩⟩

instance : Decidable (CodeAt depth lines index) := by
  unfold CodeAt
  infer_instance

instance : Decidable (BreaksAt depth lines index) := by
  unfold BreaksAt
  infer_instance

instance : Decidable (MarksAt depth lines index) := by
  unfold MarksAt
  infer_instance

end Decidable

variable {depth : Int} {line : Line} {lines rest : List Line} {index start : Nat}
  {last : Option Nat} {marked : Bool}

/-! ## The first line and those behind it -/

theorem metAt_zero : metAt depth lines 0 = depth :=
  Int.add_zero depth

theorem metAt_succ : metAt depth (line :: rest) (index + 1) =
    metAt (depth + Text.excess '{' '}' line.code) rest index := by
  rw [metAt, metAt, List.take_succ_cons, Line.openBraces_cons, Int.add_assoc]

theorem overcloses_zero :
    Overcloses depth (line :: rest) 0 ↔ depth + Text.excess '{' '}' line.code < 0 := by
  rw [Overcloses, metAt_succ, metAt_zero]

theorem overcloses_succ : Overcloses depth (line :: rest) (index + 1) ↔
    Overcloses (depth + Text.excess '{' '}' line.code) rest index := by
  rw [Overcloses, metAt_succ]
  rfl

theorem endsBefore_zero : EndsBefore depth (line :: rest) 0 ↔
    line.hasCode ∧ depth = 0 ∧
      (labelStart.fits line.stripped ∨ line.stripped.head? = some '}') := by
  simp [EndsBefore, metAt_zero, labelStart_fits_iff]

theorem endsBefore_succ : EndsBefore depth (line :: rest) (index + 1) ↔
    EndsBefore (depth + Text.excess '{' '}' line.code) rest index := by
  rw [EndsBefore, metAt_succ, List.getElem?_cons_succ]
  rfl

theorem inBody_zero (unended : ¬ EndsBefore depth (line :: rest) 0) :
    InBody depth (line :: rest) 0 where
  inFile := Nat.zero_lt_succ _
  unended := by
    rintro _ ⟨⟩
    exact unended
  unclosed := fun _ before => absurd before (Nat.not_lt_zero _)

/-- If the body goes on behind a line, it goes on as the body that is read from there. -/
theorem inBody_succ (unended : ¬ EndsBefore depth (line :: rest) 0)
    (unclosed : ¬ Overcloses depth (line :: rest) 0) :
    InBody depth (line :: rest) (index + 1) ↔
      InBody (depth + Text.excess '{' '}' line.code) rest index := by
  constructor
  · rintro ⟨inFile, notEnded, notClosed⟩
    refine ⟨Nat.lt_of_succ_lt_succ inFile, fun earlier before => ?_, fun earlier before => ?_⟩
    · exact mt endsBefore_succ.mpr (notEnded (earlier + 1) (Nat.succ_le_succ before))
    · exact mt overcloses_succ.mpr (notClosed (earlier + 1) (Nat.succ_lt_succ before))
  · rintro ⟨inFile, notEnded, notClosed⟩
    refine ⟨Nat.succ_lt_succ inFile, fun earlier before => ?_, fun earlier before => ?_⟩
    · cases earlier with
      | zero => exact unended
      | succ earlier => exact mt endsBefore_succ.mp (notEnded earlier (Nat.le_of_succ_le_succ before))
    · cases earlier with
      | zero => exact unclosed
      | succ earlier => exact mt overcloses_succ.mp (notClosed earlier (Nat.lt_of_succ_lt_succ before))

/-- Behind the line that ends the body before there is none of it. -/
theorem not_inBody_of_endsBefore (ends : EndsBefore depth (line :: rest) 0) :
    ¬ InBody depth (line :: rest) index :=
  fun inBody => inBody.unended 0 (Nat.zero_le index) ends

/-- Behind the line that brings the depth below zero there is none of the body. -/
theorem eq_zero_of_overcloses (closes : Overcloses depth (line :: rest) 0)
    (inBody : InBody depth (line :: rest) index) : index = 0 := by
  by_contra later
  exact inBody.unclosed 0 (Nat.pos_of_ne_zero later) closes

theorem means_of_empty (empty : ∀ index, ¬ InBody depth lines index) :
    Body.Means depth lines start last marked ⟨last, false, marked⟩ where
  hasBreak := by
    refine ⟨nofun, ?_⟩
    rintro ⟨index, inBody, -⟩
    exact absurd inBody (empty index)
  marked := by
    intro _
    refine ⟨.inl, ?_⟩
    rintro (already | ⟨index, inBody, -⟩)
    · exact already
    · exact absurd inBody (empty index)
  last := .inl ⟨rfl, fun index code => empty index code.1⟩

theorem means_of_break (unended : ¬ EndsBefore 0 (line :: rest) 0)
    (breaks : StartsBreak line.stripped) :
    Body.Means 0 (line :: rest) start last marked ⟨some start, true, marked⟩ := by
  have here : BreaksAt 0 (line :: rest) 0 := ⟨inBody_zero unended, metAt_zero, line, rfl, breaks⟩
  refine ⟨⟨fun _ => ⟨0, here⟩, fun _ => rfl⟩, nofun, .inr ⟨0, .atBreak here ?_, rfl⟩⟩
  exact fun earlier before => absurd before (Nat.not_lt_zero _)

theorem means_of_overcloses (coded : line.hasCode) (unended : ¬ EndsBefore depth (line :: rest) 0)
    (goesOn : ¬ (depth = 0 ∧ StartsBreak line.stripped))
    (closes : Overcloses depth (line :: rest) 0) :
    Body.Means depth (line :: rest) start last marked ⟨some start, false, marked⟩ := by
  have unbroken : ∀ index, ¬ BreaksAt depth (line :: rest) index := by
    rintro index ⟨inBody, met, written, there, breaks⟩
    cases eq_zero_of_overcloses closes inBody
    cases there
    exact goesOn ⟨metAt_zero.symm.trans met, breaks⟩
  refine ⟨⟨nofun, fun ⟨index, breaks⟩ => absurd breaks (unbroken index)⟩, fun _ => ⟨.inl, ?_⟩,
    .inr ⟨0, .atCode unbroken ⟨inBody_zero unended, line, rfl, coded⟩ ?_, rfl⟩⟩
  · rintro (already | ⟨index, inBody, open', -⟩)
    · exact already
    · cases eq_zero_of_overcloses closes inBody
      exact absurd closes open'
  · exact fun index code => Nat.le_of_eq (eq_zero_of_overcloses closes code.1)

section Further

variable (unended : ¬ EndsBefore depth (line :: rest) 0)
  (unclosed : ¬ Overcloses depth (line :: rest) 0)
include unended unclosed

theorem breaksAt_succ : BreaksAt depth (line :: rest) (index + 1) ↔
    BreaksAt (depth + Text.excess '{' '}' line.code) rest index := by
  rw [BreaksAt, inBody_succ unended unclosed, metAt_succ, List.getElem?_cons_succ]
  rfl

theorem codeAt_succ : CodeAt depth (line :: rest) (index + 1) ↔
    CodeAt (depth + Text.excess '{' '}' line.code) rest index := by
  rw [CodeAt, inBody_succ unended unclosed, List.getElem?_cons_succ]
  rfl

theorem marksAt_succ : MarksAt depth (line :: rest) (index + 1) ↔
    MarksAt (depth + Text.excess '{' '}' line.code) rest index := by
  rw [MarksAt, inBody_succ unended unclosed, overcloses_succ, List.getElem?_cons_succ]
  rfl

theorem marksAt_zero : MarksAt depth (line :: rest) 0 ↔ SaysFallThrough line := by
  simp [MarksAt, inBody_zero unended, unclosed]

/-- The end of what is read behind a line is the end of the body, if the line is no `break`. -/
theorem lastAt_succ (unbroken : ¬ BreaksAt depth (line :: rest) 0)
    (ends : LastAt (depth + Text.excess '{' '}' line.code) rest index) :
    LastAt depth (line :: rest) (index + 1) := by
  cases ends with
  | atBreak breaks first =>
    refine .atBreak ((breaksAt_succ unended unclosed).mpr breaks) fun earlier before => ?_
    cases earlier with
    | zero => exact unbroken
    | succ earlier =>
      exact mt (breaksAt_succ unended unclosed).mp (first earlier (Nat.lt_of_succ_lt_succ before))
  | atCode unbrokenToo code last =>
    refine .atCode (fun line => ?_) ((codeAt_succ unended unclosed).mpr code) fun line codeToo => ?_
    · cases line with
      | zero => exact unbroken
      | succ line => exact mt (breaksAt_succ unended unclosed).mp (unbrokenToo line)
    · cases line with
      | zero => exact Nat.zero_le _
      | succ line => exact Nat.succ_le_succ (last line ((codeAt_succ unended unclosed).mp codeToo))

/-- A body that goes on behind a line has what it has from there on, and the line. -/
theorem means_cons (goesOn : ¬ (depth = 0 ∧ StartsBreak line.stripped)) {body : Body}
    (means : Body.Means (depth + Text.excess '{' '}' line.code) rest (start + 1)
      (if line.hasCode then some start else last) (marked || isMarked line) body) :
    Body.Means depth (line :: rest) start last marked body := by
  have unbroken : ¬ BreaksAt depth (line :: rest) 0 := by
    rintro ⟨-, met, written, there, breaks⟩
    cases there
    exact goesOn ⟨metAt_zero.symm.trans met, breaks⟩
  refine ⟨?_, fun noBreak => ?_, ?_⟩
  · rw [means.hasBreak, ← @Nat.or_exists_add_one (BreaksAt depth (line :: rest)),
      or_iff_right unbroken]
    simp only [breaksAt_succ unended unclosed]
  · rw [means.marked noBreak, ← @Nat.or_exists_add_one (MarksAt depth (line :: rest)),
      marksAt_zero unended unclosed, Bool.or_eq_true, isMarked_iff, or_assoc]
    simp only [marksAt_succ unended unclosed]
  · rcases means.last with ⟨same, codeless⟩ | ⟨index, ends, found⟩
    · rw [same]
      by_cases coded : line.hasCode
      · rw [if_pos coded]
        refine .inr ⟨0, .atCode ?_ ⟨inBody_zero unended, line, rfl, coded⟩ ?_, rfl⟩
        · intro index breaks
          cases index with
          | zero => exact unbroken breaks
          | succ index =>
            exact codeless index ((breaksAt_succ unended unclosed).mp breaks).codeAt
        · intro index code
          cases index with
          | zero => exact Nat.le_refl 0
          | succ index => exact absurd ((codeAt_succ unended unclosed).mp code) (codeless index)
      · rw [if_neg coded]
        refine .inl ⟨rfl, fun index code => ?_⟩
        cases index with
        | zero =>
          obtain ⟨-, written, there, codedToo⟩ := code
          cases there
          exact coded codedToo
        | succ index => exact codeless index ((codeAt_succ unended unclosed).mp code)
    · refine .inr ⟨index + 1, lastAt_succ unended unclosed unbroken ends, ?_⟩
      rw [found, Nat.add_assoc, Nat.add_comm 1]

end Further

/-! ## The look-ahead -/

/-- The look-ahead finds what the body means, from whichever depth it reads. -/
theorem scanBody_means (inside : 0 ≤ depth) (lines : List Line) (start : Nat) (last : Option Nat)
    (marked : Bool) :
    (scanBody start depth last marked lines).Means depth lines start last marked := by
  induction lines generalizing depth start last marked with
  | nil => exact means_of_empty fun index inBody => absurd inBody.inFile (Nat.not_lt_zero index)
  | cons line rest inductionHypothesis =>
    have trimmed : Text.excess '{' '}' line.stripped = Text.excess '{' '}' line.code :=
      Text.excess_trim line.code rfl rfl
    rw [scanBody]
    by_cases coded : line.hasCode
    · rw [if_pos coded]
      dsimp only
      rw [trimmed]
      by_cases ends : depth = 0 ∧ (labelStart.fits line.stripped ∨ line.stripped.head? = some '}')
      · rw [if_pos ends]
        have ended : EndsBefore depth (line :: rest) 0 := endsBefore_zero.mpr ⟨coded, ends⟩
        exact means_of_empty fun index => not_inBody_of_endsBefore ended
      have unended : ¬ EndsBefore depth (line :: rest) 0 := fun ended =>
        ends (endsBefore_zero.mp ended).2
      rw [if_neg ends]
      by_cases breaks : depth = 0 ∧ breakStatement.fits line.stripped
      · rw [if_pos breaks]
        obtain ⟨rfl, breaks⟩ := breaks
        exact means_of_break unended (breakStatement_fits_iff.mp breaks)
      rw [if_neg breaks]
      rw [breakStatement_fits_iff] at breaks
      by_cases closes : depth + Text.excess '{' '}' line.code < 0
      · rw [if_pos closes]
        exact means_of_overcloses coded unended breaks (overcloses_zero.mpr closes)
      · rw [if_neg closes]
        refine means_cons unended (mt overcloses_zero.mp closes) breaks ?_
        rw [if_pos coded]
        exact inductionHypothesis (Int.not_lt.mp closes) _ _ _
    · have codeless : line.hasCode = false := by simpa using coded
      have balanced : Text.excess '{' '}' line.code = 0 :=
        Line.excess_of_codeless (by decide) (by decide) codeless
      have unclosed : ¬ Overcloses depth (line :: rest) 0 := by
        rw [overcloses_zero, balanced, Int.add_zero]
        exact Int.not_lt.mpr inside
      rw [if_neg coded]
      refine means_cons (mt (fun ended => (endsBefore_zero.mp ended).1) coded) unclosed
        (fun breaks => coded (hasCode_of_startsBreak breaks.2)) ?_
      rw [if_neg coded, balanced, Int.add_zero]
      exact inductionHypothesis inside _ _ _

/-! ## Labels -/

/-- A label, followed by the given text, whose body is looked for on the lines behind it: it is not
stacked on another label, no brace follows it, and it is not a case on one line that ends in a
`break`. -/
structure OwnsBody (site : Site) (rest : List Char) : Prop where
  unstacked : rest = [] → ∀ next, site.nextCode? = some next → ¬ StartsLabel next.stripped
  unbraced : rest.head? ≠ some '{'
  unbracedBelow : rest = [] → ∀ next, site.nextCode? = some next → next.stripped.head? ≠ some '{'
  unfinished : endsInBreak rest = false

variable {site : Site} {baseIndent : Int} {state : ScanState}

theorem hasBody_iff {rest : List Char} : hasBody site rest ↔ OwnsBody site rest := by
  have fields : OwnsBody site rest ↔
      (rest = [] → ∀ next, site.nextCode? = some next → ¬ StartsLabel next.stripped) ∧
        rest.head? ≠ some '{' ∧
        (rest = [] → ∀ next, site.nextCode? = some next → next.stripped.head? ≠ some '{') ∧
        endsInBreak rest = false :=
    ⟨fun ⟨unstacked, unbraced, below, unfinished⟩ => ⟨unstacked, unbraced, below, unfinished⟩,
      fun ⟨unstacked, unbraced, below, unfinished⟩ => ⟨unstacked, unbraced, below, unfinished⟩⟩
  rw [fields]
  unfold hasBody
  cases rest with
  | cons c rest => simp
  | nil => cases site.nextCode? <;> simp [← labelStart_fits_iff, and_assoc]

instance (site : Site) (rest : List Char) : Decidable (OwnsBody site rest) :=
  decidable_of_iff _ hasBody_iff

/-- A label with a body has no complaint but the one about the body, and the frame of the body. -/
theorem analyzeRest_of_hasBody {label rest : List Char} {colon : Nat} (owns : hasBody site rest) :
    analyzeRest site baseIndent label colon rest state =
      .ok (openBody site baseIndent label colon state) := by
  simp only [hasBody, Bool.and_eq_true, Bool.not_eq_true'] at owns
  obtain ⟨⟨⟨unstacked, unbraced⟩, unbracedBelow⟩, unfinished⟩ := owns
  unfold analyzeRest
  dsimp only
  rw [if_neg (Bool.not_eq_true _ ▸ unstacked), if_neg (Bool.not_eq_true _ ▸ unbraced),
    if_neg (Bool.not_eq_true _ ▸ unbracedBelow), if_neg (Bool.not_eq_true _ ▸ unfinished)]
  rfl

theorem findings_openBody (site : Site) (baseIndent : Int) (label : List Char) (colon : Nat)
    (state : ScanState) : (openBody site baseIndent label colon state).1 =
      if (body site).hasBreak || isMarked site.line || (body site).marked then []
      else [⟨.caseMissingBreak, colon, 1, [.word (String.ofList label)]⟩] := by
  unfold openBody
  dsimp only
  cases (body site).last <;> rfl

/-- A `break` is missed where none was found and no mark was seen. -/
theorem missesBreak_iff {label : List Char} {colon : Nat} :
    (∃ finding ∈ (openBody site baseIndent label colon state).1, finding.kind = .caseMissingBreak) ↔
      (body site).hasBreak = false ∧ isMarked site.line = false ∧ (body site).marked = false := by
  rw [findings_openBody]
  by_cases quiet : (body site).hasBreak || isMarked site.line || (body site).marked
  · rw [if_pos quiet]
    simp only [Bool.or_eq_true] at quiet
    rcases quiet with (broken | said) | marked
    · simp [broken]
    · simp [said]
    · simp [marked]
  · rw [if_neg quiet]
    simp only [Bool.or_eq_true, not_or, Bool.not_eq_true] at quiet
    simp [quiet]

/-- A line that is a label has all parts of one. -/
theorem exists_parts_of_isLabel (labelled : isLabel site.line.code) :
    ∃ label gap rest, parts? site.line.code = some (label, gap, rest) := by
  obtain ⟨-, fits⟩ := Bool.and_eq_true_iff.mp labelled
  obtain ⟨found, here⟩ := Option.isSome_iff_exists.mp fits
  obtain ⟨stop, reached, rfl⟩ := Pattern.exists_of_matchAt? here
  simp only [Spacing.caseLabel, Pattern.mem_outcomes_append, Pattern.mem_outcomes_capture,
    Pattern.mem_outcomes_char, Pattern.notAhead, Pattern.atEnd, Pattern.mem_outcomes_look,
    Pattern.manySpaces, Pattern.anything, Pattern.mem_outcomes_many] at reached
  obtain ⟨_, ⟨_, ⟨_, ⟨_, ⟨_, ⟨first, -, second, -, rfl⟩, _, ⟨spaces, behind, -, -, rfl⟩, rfl⟩, after,
    -, rfl⟩, -, rfl⟩, _, ⟨others, end', -, -, rfl⟩, rfl⟩, -, rfl⟩ := reached
  have complete : (parts? site.line.code).isSome := by
    unfold parts?
    rw [here]
    simp only [Option.bind_eq_bind, Option.bind_some, Cursor.part?_matched]
    rfl
  obtain ⟨⟨label, gap, rest⟩, parts⟩ := Option.isSome_iff_exists.mp complete
  exact ⟨label, gap, rest, parts⟩

/-- What a label finds about its body and enters is what the body means: a `break` is missed if no
line of the body at depth zero starts with one and neither the label nor the body says that the case
runs on, and the frame of the body is entered, up to its last line, if the body has a line with
code. -/
theorem analyze_body (labelled : isLabel site.line.code) (baseIndent : Int) (state : ScanState) :
    ∃ label gap rest, parts? site.line.code = some (label, gap, rest) ∧
      (OwnsBody site (Text.trim rest.text) →
        ∃ findings next, analyze site baseIndent state = .ok (findings, next) ∧
          ((∃ finding ∈ findings, finding.kind = .caseMissingBreak) ↔
            (∀ index, ¬ BreaksAt 0 site.after index) ∧ ¬ SaysFallThrough site.line ∧
              ∀ index, ¬ MarksAt 0 site.after index) ∧
          ((∀ index, ¬ CodeAt 0 site.after index) → next = state) ∧
          ((∃ index, CodeAt 0 site.after index) →
            ∃ index, LastAt 0 site.after index ∧
              next = { state.push (baseIndent + indentUnit) with
                cases := ⟨site.index + 1 + index, baseIndent + indentUnit⟩ :: state.cases })) := by
  obtain ⟨label, gap, rest, parts⟩ := exists_parts_of_isLabel labelled
  refine ⟨label, gap, rest, parts, fun owns => ?_⟩
  have means : (body site).Means 0 site.after (site.index + 1) none false :=
    scanBody_means (Int.le_refl 0) site.after (site.index + 1) none false
  rw [analyze_eq, parts]
  dsimp only
  rw [analyzeRest_of_hasBody (hasBody_iff.mpr owns), Answer.ok_bind, state_openBody]
  refine ⟨_, _, rfl, ?_, fun codeless => ?_, fun coded => ?_⟩
  · -- The complaint about the colon is of another kind.
    have others : (∃ finding ∈ (if gap.text.isEmpty then [] else
        [(⟨.colonNotAttached, gap.start, gap.length + 1, []⟩ : Finding)]) ++
          (openBody site baseIndent (Text.squeeze label.text) gap.stop state).1,
          finding.kind = .caseMissingBreak) ↔
        ∃ finding ∈ (openBody site baseIndent (Text.squeeze label.text) gap.stop state).1,
          finding.kind = .caseMissingBreak := by
      simp only [List.mem_append, or_and_right, exists_or, List.mem_ite_nil_left,
        List.mem_singleton]
      refine or_iff_right ?_
      rintro ⟨finding, ⟨-, rfl⟩, ⟨⟩⟩
    rw [others, missesBreak_iff, ← isMarked_iff, ← not_exists, ← means.hasBreak, Bool.not_eq_true,
      Bool.not_eq_true]
    refine and_congr_right fun noBreak => and_congr_right fun _ => ?_
    rw [← not_exists, ← Bool.not_eq_true, means.marked noBreak]
    simp
  · rcases means.last with ⟨none, -⟩ | ⟨index, ends, -⟩
    · rw [none]
      rfl
    · exact absurd ends.codeAt (codeless index)
  · rcases means.last with ⟨-, codeless⟩ | ⟨index, ends, found⟩
    · exact absurd coded (not_exists.mpr codeless)
    · rw [found]
      exact ⟨index, ends, rfl⟩

/-- A body whose only `break` is inside a block, and which runs on as the comment at its end says. -/
theorem analyze_body_runs_on :
    let site : Site := ⟨1, Line.ofRaws ["switch (x) \x7b".toList], .ofRaw .code "  case 1:".toList,
      Line.ofRaws (["    if (y) \x7b", "      break;", "    \x7d", "    // fall-through",
        "  case 2:", "    break;", "\x7d"].map String.toList)⟩
    isLabel site.line.code ∧ OwnsBody site [] ∧ CodeAt 0 site.after 0 ∧ MarksAt 0 site.after 3 ∧
      LastAt 0 site.after 2 ∧
      ∃ findings, (∀ finding ∈ findings, finding.kind ≠ .caseMissingBreak) ∧
        analyze site 2 .initial = .ok (findings, { ScanState.initial with
          frames := [4], cases := [⟨4, 4⟩] }) := by
  intro site
  have labelled : isLabel site.line.code := by decide +kernel
  have owns : OwnsBody site [] := by decide +kernel
  have code : CodeAt 0 site.after 0 := by decide +kernel
  have marks : MarksAt 0 site.after 3 := by decide +kernel
  obtain ⟨label, gap, rest, parts, meaning⟩ := analyze_body labelled 2 .initial
  have bare : Text.trim rest.text = [] := by
    have computed : (parts? site.line.code).map (fun parts => Text.trim parts.2.2.text) = some [] := by
      decide +kernel
    rw [parts] at computed
    exact Option.some.inj computed
  rw [bare] at meaning
  obtain ⟨findings, next, answers, misses, -, enters⟩ := meaning owns
  obtain ⟨index, ends, rfl⟩ := enters ⟨0, code⟩
  have unbroken : ∀ index < site.after.length, ¬ BreaksAt 0 site.after index := by decide +kernel
  have within : ∀ index < site.after.length, CodeAt 0 site.after index → index ≤ 2 := by
    decide +kernel
  have here : index = 2 := by
    cases ends with
    | atBreak breaks first => exact absurd breaks (unbroken index breaks.1.inFile)
    | atCode unbroken code last =>
      exact Nat.le_antisymm (within index code.1.inFile code) (last 2 (by decide +kernel))
  subst here
  refine ⟨labelled, owns, code, marks, ends, findings, fun finding member missing => ?_, answers⟩
  exact (misses.mp ⟨finding, member, missing⟩).2.2 3 marks

end HouseStyle.CaseBlock
