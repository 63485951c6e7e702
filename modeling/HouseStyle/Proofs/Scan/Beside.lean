import HouseStyle.Proofs.Scan.Core
import HouseStyle.Proofs.Scan.LookAhead

/-!
Contract: two files side by side that differ in one line.

Owns: the ends that the bodies of labels before this line have in the two files, and the agreement
of both scans up to the last line of code before it.
Does not own: what the two lines do themselves.

A look-ahead from before the line finds the same end in both files, or ends in both at the last line
of code before the line or behind it. So every body whose end is reached before that line of code
ends in both files together, and until then the scans agree about everything but the stored ends.

Main statement: `beside_stateBefore`.
-/

namespace HouseStyle

/-! ## Sites -/

/-- The site of one of the first lines of a file. -/
def Site.among (first rest : List Line) (index : Nat) (inside : index < first.length) : Site :=
  ⟨index, (first.take index).reverse, first[index], first.drop (index + 1) ++ rest⟩

theorem Site.at?_among {first : List Line} {index : Nat} (inside : index < first.length)
    (rest : List Line) :
    Site.at? (first ++ rest) index = some (Site.among first rest index inside) := by
  have there : (first ++ rest)[index]? = some first[index] := by
    rw [List.getElem?_append_left inside, List.getElem?_eq_getElem inside]
  rw [Site.at?, there, Option.map_some, List.take_append_of_le_length inside.le,
    List.drop_append_of_le_length inside]
  rfl

theorem Site.at?_middle (first : List Line) (middle : Line) (rest : List Line) :
    Site.at? (first ++ middle :: rest) first.length =
      some ⟨first.length, first.reverse, middle, rest⟩ := by
  have there := Site.at?_append first.reverse middle rest
  rwa [List.reverse_reverse, List.length_reverse] at there

theorem Site.at?_behind (first : List Line) (middle : Line) (rest : List Line) (offset : Nat) :
    Site.at? (first ++ middle :: rest) (first.length + 1 + offset) =
      rest[offset]?.map fun line =>
        ⟨first.length + 1 + offset, (first ++ middle :: rest.take offset).reverse, line,
          rest.drop (offset + 1)⟩ := by
  have behind : first.length ≤ first.length + 1 + offset := by omega
  have distance : first.length + 1 + offset - first.length = offset + 1 := by omega
  have past : first.length + 1 + offset + 1 - first.length = offset + 1 + 1 := by omega
  rw [Site.at?, List.getElem?_append_right behind, distance, List.getElem?_cons_succ,
    List.take_append, List.take_of_length_le behind, distance, List.take_succ_cons,
    List.drop_append, List.drop_eq_nil_of_le (Nat.le_succ_of_le behind), List.nil_append, past,
    List.drop_succ_cons]

namespace CaseBlock

/-! ## The last line of code -/

/-- The line of an index is the last one with code. -/
structure LastCode (lines : List Line) (index : Nat) : Prop where
  coded : ∃ line, lines[index]? = some line ∧ line.hasCode
  codeless : ∀ line ∈ lines.drop (index + 1), line.hasCode = false

theorem exists_lastCode (lines : List Line) :
    (∀ line ∈ lines, line.hasCode = false) ∨ ∃ index, LastCode lines index := by
  induction lines with
  | nil => exact .inl fun line member => absurd member List.not_mem_nil
  | cons line rest inductionHypothesis =>
    rcases inductionHypothesis with codeless | ⟨index, coded, codeless⟩
    · by_cases coded : line.hasCode
      · exact .inr ⟨0, ⟨line, rfl, coded⟩, codeless⟩
      · exact .inl (List.forall_mem_cons.mpr ⟨by simpa using coded, codeless⟩)
    · exact .inr ⟨index + 1, coded, codeless⟩

variable {first rest : List Line} {middle other : Line} {index edge start : Nat}

theorem LastCode.lt_length (last : LastCode first edge) : edge < first.length := by
  obtain ⟨line, there, -⟩ := last.coded
  exact (List.getElem?_eq_some_iff.mp there).1

/-- The lines behind one are those before a later one, this line, and those behind it. -/
theorem drop_eq_take_append {line : Line} (there : first[edge]? = some line) (earlier : start < edge) :
    first.drop (start + 1) =
      (first.drop (start + 1)).take (edge - (start + 1)) ++ line :: first.drop (edge + 1) := by
  obtain ⟨inside, found⟩ := List.getElem?_eq_some_iff.mp there
  have later : first.drop edge = line :: first.drop (edge + 1) := by
    rw [List.drop_eq_getElem_cons inside, found]
  have both := (List.take_append_drop (edge - (start + 1)) (first.drop (start + 1))).symm
  rwa [List.drop_drop, Nat.add_sub_of_le earlier, later] at both

/-- A reading that gets through lines has the last line of code among them as its end. -/
theorem LastCode.lastLine? (last : LastCode first edge) (earlier : start < edge)
    (behind : (depthBehind? 0 (first.drop (start + 1))).isSome) :
    CaseBlock.lastLine? (start + 1) 0 (first.drop (start + 1)) = some edge := by
  obtain ⟨line, there, coded⟩ := last.coded
  have inside := last.lt_length
  have length : ((first.drop (start + 1)).take (edge - (start + 1))).length = edge - (start + 1) := by
    rw [List.length_take, List.length_drop]
    omega
  rw [drop_eq_take_append there earlier] at behind ⊢
  rw [lastLine?_of_depthBehind? coded last.codeless behind, length, Nat.add_sub_of_le earlier]

/-! ## Bodies -/

/-- Whether the line of a site is a label whose body is looked for on the lines behind it. -/
def opensBody (site : Site) : Bool :=
  (parts? site.line.code).any fun parts => hasBody site (Text.trim parts.2.2.text)

theorem frameEnd?_eq (site : Site) :
    frameEnd? site = if opensBody site then lastLine? (site.index + 1) 0 site.after else none := by
  unfold frameEnd? opensBody
  cases parts? site.line.code with
  | none => rfl
  | some parts => rfl

theorem opensBody_congr {site moved : Site} (line : moved.line = site.line)
    (next : moved.nextCode? = site.nextCode?) : opensBody moved = opensBody site := by
  unfold opensBody hasBody
  rw [line, next]

/-- The ends that the body of a label has in two files that differ in one line behind it. -/
structure EndsBeside (first rest : List Line) (middle other : Line) (start ending otherEnding : Nat) :
    Prop where
  ends : lastLine? (start + 1) 0 (first.drop (start + 1) ++ middle :: rest) = some ending
  other : lastLine? (start + 1) 0 (first.drop (start + 1) ++ other :: rest) = some otherEnding

/-- What a reading finds lies behind the line from which it reads. -/
theorem le_of_lastLine? {depth : Int} {lines : List Line} {endLine : Nat}
    (ends : lastLine? index depth lines = some endLine) : index ≤ endLine := by
  obtain ⟨line, behind, -⟩ := exists_of_lastLine? ends
  exact behind

theorem length_drop_succ (earlier : start < first.length) :
    start + 1 + (first.drop (start + 1)).length = first.length := by
  rw [List.length_drop]
  omega

/-- A body that is still read behind the lines ends no earlier than their last line of code. -/
theorem exists_late_end (last : LastCode first edge) (earlier : start < edge) {depth : Int}
    (behind : depthBehind? 0 (first.drop (start + 1)) = some depth) (others : List Line) :
    ∃ endLine, lastLine? (start + 1) 0 (first.drop (start + 1) ++ others) = some endLine ∧
      edge ≤ endLine := by
  have inside := last.lt_length
  rw [lastLine?_append, behind]
  dsimp only
  rw [length_drop_succ (by omega), last.lastLine? earlier (by rw [behind]; rfl)]
  cases found : lastLine? first.length depth others with
  | none => exact ⟨edge, rfl, Nat.le_refl edge⟩
  | some endLine =>
    have later := le_of_lastLine? found
    exact ⟨endLine, rfl, by omega⟩

/-- A body ends in both files together, or else in both at the last line of code before the two lines
or behind it. -/
theorem same_or_late (last : LastCode first edge) (earlier : start < edge)
    (rest : List Line) (middle other : Line) :
    lastLine? (start + 1) 0 (first.drop (start + 1) ++ middle :: rest) =
        lastLine? (start + 1) 0 (first.drop (start + 1) ++ other :: rest) ∨
      ∃ ending otherEnding, EndsBeside first rest middle other start ending otherEnding ∧
        edge ≤ ending ∧ edge ≤ otherEnding := by
  cases behind : depthBehind? 0 (first.drop (start + 1)) with
  | none =>
    left
    rw [lastLine?_append, lastLine?_append, behind]
  | some depth =>
    obtain ⟨ending, ends, late⟩ := exists_late_end last earlier behind (middle :: rest)
    obtain ⟨otherEnding, ends', late'⟩ := exists_late_end last earlier behind (other :: rest)
    exact .inr ⟨ending, otherEnding, ⟨ends, ends'⟩, late, late'⟩

end CaseBlock

namespace Scan

open CaseBlock

/-- Whether the line of an index is scanned as a label of a case. -/
def labelAt (lines : List Line) (index : Nat) : Bool :=
  (Site.at? lines index).any fun site =>
    isStatement site.line (stateBefore lines index) && isLabel site.line.code

theorem labelAt_eq {lines : List Line} {index : Nat} {site : Site}
    (there : Site.at? lines index = some site) :
    labelAt lines index =
      (isStatement site.line (stateBefore lines index) && isLabel site.line.code) := by
  rw [labelAt, there, Option.any_some]

/-- The open bodies of two files that differ in one line, innermost first: each belongs in both files
to the same label before the line, and the labels come one before the other. -/
inductive BodiesBeside (first rest : List Line) (middle other : Line) :
    Nat → List CaseFrame → List CaseFrame → Prop
  | nil {index : Nat} : BodiesBeside first rest middle other index [] []
  | cons {index start : Nat} {frame moved : CaseFrame} {frames others : List CaseFrame}
      (earlier : start < index) (label : labelAt (first ++ middle :: rest) start)
      (ends : EndsBeside first rest middle other start frame.endLine moved.endLine)
      (outer : BodiesBeside first rest middle other start frames others) :
      BodiesBeside first rest middle other index (frame :: frames) (moved :: others)

variable {first rest : List Line} {middle other : Line} {index edge : Nat}
  {frames others : List CaseFrame}

theorem BodiesBeside.mono (bodies : BodiesBeside first rest middle other index frames others)
    {later : Nat} (further : index ≤ later) :
    BodiesBeside first rest middle other later frames others := by
  cases bodies with
  | nil => exact .nil
  | cons earlier label ends outer => exact .cons (by omega) label ends outer

theorem BodiesBeside.drop (bodies : BodiesBeside first rest middle other index frames others)
    (count : Nat) :
    BodiesBeside first rest middle other index (frames.drop count) (others.drop count) := by
  induction bodies generalizing count with
  | nil =>
    rw [List.drop_nil]
    exact .nil
  | cons earlier label ends outer inductionHypothesis =>
    cases count with
    | zero => exact .cons earlier label ends outer
    | succ count => exact (inductionHypothesis count).mono earlier.le

/-- Before the last line of code, as many bodies end with a line in one file as in the other. -/
theorem BodiesBeside.finished_eq (bodies : BodiesBeside first rest middle other index frames others)
    (last : LastCode first edge) (within : index ≤ edge) {ending : Nat} (earlier : ending < edge) :
    finished ending frames = finished ending others := by
  induction bodies with
  | nil => rfl
  | @cons index start frame moved frames others before label ends outer inductionHypothesis =>
    have inner := inductionHypothesis (by omega)
    have together : frame.endLine = ending ↔ moved.endLine = ending := by
      rcases same_or_late last (show start < edge by omega) rest middle other with
        same | ⟨late, lateToo, ends', here, hereToo⟩
      · rw [ends.ends, ends.other] at same
        rw [Option.some.inj same]
      · have first := Option.some.inj (ends.ends.symm.trans ends'.ends)
        have second := Option.some.inj (ends.other.symm.trans ends'.other)
        omega
    by_cases ended : frame.endLine = ending
    · rw [finished_cons ended, finished_cons (together.mp ended), inner]
    · rw [finished_cons_of_ne ended, finished_cons_of_ne fun same => ended (together.mpr same)]

/-- What a label before the last line of code enters in one file it enters in the other. -/
theorem BodiesBeside.enter {state moved : ScanState} {site otherSite : Site}
    (bodies : BodiesBeside first rest middle other index frames others)
    (same : state.core = moved.core) (line : otherSite.line = site.line)
    (label : (isStatement site.line state && isLabel site.line.code) =
      labelAt (first ++ middle :: rest) index)
    (ends : (frameEnd? site = none ∧ frameEnd? otherSite = none) ∨
      ∃ ending otherEnding, frameEnd? site = some ending ∧ frameEnd? otherSite = some otherEnding ∧
        EndsBeside first rest middle other index ending otherEnding) :
    BodiesBeside first rest middle other (index + 1) ((entered? site state).toList ++ frames)
      ((entered? otherSite moved).toList ++ others) := by
  unfold entered?
  rw [line, ← ScanState.core_isStatement same, label]
  by_cases labelled : labelAt (first ++ middle :: rest) index
  · rw [if_pos labelled, if_pos labelled]
    rcases ends with ⟨none, none'⟩ | ⟨ending, otherEnding, framed, framed', ends⟩
    · rw [none, none']
      exact bodies.mono (Nat.le_succ index)
    · rw [framed, framed']
      exact .cons (Nat.lt_succ_self index) labelled ends bodies
  · rw [if_neg labelled, if_neg labelled]
    exact bodies.mono (Nat.le_succ index)

/-! ## Up to the last line of code -/

/-- Before the last line of code, the next line of code is the same in both files. -/
theorem nextCode?_among (last : LastCode first edge) (earlier : index < edge)
    (rest others : List Line) :
    (Site.among first rest index (earlier.trans last.lt_length)).nextCode? =
      (Site.among first others index (earlier.trans last.lt_length)).nextCode? := by
  obtain ⟨line, there, coded⟩ := last.coded
  have among : line ∈ first.drop (index + 1) := by
    refine List.mem_of_getElem? (show (first.drop (index + 1))[edge - (index + 1)]? = some line from ?_)
    rw [List.getElem?_drop, Nat.add_sub_of_le earlier, there]
  have found : ((first.drop (index + 1)).find? Line.hasCode).isSome :=
    List.find?_isSome.mpr ⟨line, among, coded⟩
  obtain ⟨next, next?⟩ := Option.isSome_iff_exists.mp found
  simp only [Site.among, Site.nextCode?, List.find?_append, next?, Option.some_or]

/-- Before the last line of code, a label has a body in both files or in neither. -/
theorem frameEnd?_among (last : LastCode first edge) (earlier : index < edge)
    (rest : List Line) (middle other : Line) :
    let inside := earlier.trans last.lt_length
    let site := Site.among first (middle :: rest) index inside
    let moved := Site.among first (other :: rest) index inside
    (frameEnd? site = none ∧ frameEnd? moved = none) ∨
      ∃ ending otherEnding, frameEnd? site = some ending ∧ frameEnd? moved = some otherEnding ∧
        EndsBeside first rest middle other index ending otherEnding := by
  intro inside site moved
  have opens : opensBody moved = opensBody site :=
    opensBody_congr rfl (nextCode?_among last earlier _ _)
  rw [frameEnd?_eq, frameEnd?_eq, opens]
  by_cases opensHere : opensBody site
  · rw [if_pos opensHere, if_pos opensHere]
    rcases same_or_late last earlier rest middle other with
      same | ⟨ending, otherEnding, ends, -, -⟩
    · show (lastLine? (index + 1) 0 (first.drop (index + 1) ++ middle :: rest) = none ∧
        lastLine? (index + 1) 0 (first.drop (index + 1) ++ other :: rest) = none) ∨ _
      cases found : lastLine? (index + 1) 0 (first.drop (index + 1) ++ middle :: rest) with
      | none => exact .inl ⟨rfl, same ▸ found⟩
      | some ending => exact .inr ⟨ending, ending, found, same ▸ found, found, same ▸ found⟩
    · exact .inr ⟨ending, otherEnding, ends.ends, ends.other, ends⟩
  · rw [if_neg opensHere, if_neg opensHere]
    exact .inl ⟨rfl, rfl⟩

/-- Two states before the line of an index: the same core, and bodies of the same labels. -/
structure StatesBeside (first rest : List Line) (middle other : Line) (index : Nat)
    (state moved : ScanState) : Prop where
  core : state.core = moved.core
  bodies : BodiesBeside first rest middle other index state.cases moved.cases

/-- Two files that differ in one line are scanned alike up to the last line of code before it. -/
theorem beside_stateBefore (last : LastCode first edge) (rest : List Line) (middle other : Line) :
    ∀ index ≤ edge, StatesBeside first rest middle other index
      (stateBefore (first ++ middle :: rest) index) (stateBefore (first ++ other :: rest) index) := by
  intro index within
  induction index with
  | zero => exact ⟨rfl, .nil⟩
  | succ index inductionHypothesis =>
    obtain ⟨same, bodies⟩ := inductionHypothesis (Nat.le_of_succ_le within)
    have inside := within.trans last.lt_length.le
    have there := Site.at?_among inside (middle :: rest)
    have ends := frameEnd?_among last within rest middle other
    have outlook : (Site.among first (middle :: rest) index inside).SameOutlook
        (Site.among first (other :: rest) index inside) := by
      refine ⟨⟨rfl, rfl, ?_⟩, ?_⟩
      · intro indent
        unfold Indent.blockIndent
        rw [nextCode?_among last within]
      · rcases ends with ⟨none, none'⟩ | ⟨_, _, framed, framed', -⟩
        · rw [none, none']
        · rw [framed, framed']
          rfl
    rw [stateBefore_succ there, stateBefore_succ (Site.at?_among inside (other :: rest))]
    have next := ScanState.core_lineNext same outlook
    have entered := bodies.enter same outlook.line (labelAt_eq there).symm ends
    rw [← cases_lineNext, ← cases_lineNext] at entered
    have together : finished index (lineNext (Site.among first (middle :: rest) index inside)
        (stateBefore (first ++ middle :: rest) index)).cases =
        finished index (lineNext (Site.among first (other :: rest) index inside)
          (stateBefore (first ++ other :: rest) index)).cases :=
      entered.finished_eq last within (Nat.lt_of_succ_le within)
    refine ⟨ScanState.core_advance_eq next together, ?_⟩
    have kept := entered.drop (finished index (lineNext (Site.among first (middle :: rest) index inside)
      (stateBefore (first ++ middle :: rest) index)).cases)
    rw [ScanState.cases_advance, ScanState.cases_advance]
    nth_rewrite 2 [together] at kept
    exact kept

end Scan

end HouseStyle
