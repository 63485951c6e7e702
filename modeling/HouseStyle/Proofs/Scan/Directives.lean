import HouseStyle.Proofs.Scan.Behind
import HouseStyle.Proofs.Scan.Insertion
import HouseStyle.Proofs.Scan.Reindent

/-!
Contract: which directives take no part in indentation.

Owns: the complaints about indentation in the run of a file with a directive inserted, compared with
the run of the file without it.
Does not own: the states that the lines leave.

The scan itself skips a directive. The look-ahead of a label does not: it takes the directive for a
line of the body. The complaints about all other lines stay the same where the look-ahead passes over
the directive, and may change where it does not. The file without the directive is first given a
blank line in its place, which leaves two files whose lines have the same indices.

Main statement: `run_directive`.
-/

namespace HouseStyle

/-- A line inserted into a text leaves the other lines as they are if it leaves the comment state. -/
theorem Line.ofRaws_insertIdx {raws : List (List Char)} {position : Nat} {raw : List Char}
    (inside : position ≤ raws.length)
    (neutral : (Line.ofRaw (Source.stateAfter .code (raws.take position)) raw).after =
      Source.stateAfter .code (raws.take position)) :
    Line.ofRaws (raws.insertIdx position raw) =
      (Line.ofRaws raws).take position ++
        Line.ofRaw (Source.stateAfter .code (raws.take position)) raw ::
          (Line.ofRaws raws).drop position := by
  have length : (Line.ofRawsFrom .code (raws.take position)).length = position := by
    rw [Line.length_ofRawsFrom, List.length_take, Nat.min_eq_left inside]
  have split := Line.ofRawsFrom_append .code (raws.take position) (raws.drop position)
  rw [List.take_append_drop] at split
  rw [insertIdx_eq_append raw inside, Line.ofRaws, Line.ofRaws, split, Line.ofRawsFrom_append,
    Line.ofRawsFrom, neutral, List.take_left' length, List.drop_left' length]

theorem Line.isBlank_of_hasCode {before : CommentState} {raw : List Char}
    (coded : (Line.ofRaw before raw).hasCode) : (Line.ofRaw before raw).isBlank = false := by
  by_contra blank
  rw [Line.hasCode_ofRaw_of_isBlank (by simpa [Line.isBlank] using blank)] at coded
  cases coded

namespace Scan

open CaseBlock

/-! ## The complaints of a run -/

/-- Records of one line with the same complaints about indentation. -/
structure SameComplaints (record other : Record) : Prop where
  index : other.index = record.index
  mismatches : other.diagnostics.filter isMismatch = record.diagnostics.filter isMismatch

/-- Records of one line with the same complaints about indentation, up to the line numbers, which are
moved past an inserted line. -/
structure SlidComplaints (position : Nat) (record other : Record) : Prop where
  index : other.index = slideIndex position record.index
  mismatches : other.diagnostics.filter isMismatch =
    (record.diagnostics.filter isMismatch).map (.slide position)

variable {settings : Settings} {lines others : List Line} {index position : Nat}

/-- The complaints that the line of an index calls for by its own width. -/
def complaintsAt (lines : List Line) (index : Nat) : List Diagnostic :=
  (lines[index]?.map fun line =>
    complaints (index + 1) (expectedAt? lines index) line.raw).getD []

theorem complaints_of_run {record : Record}
    (scanned : (run settings lines).1[index]? = some record) :
    record.index = index ∧ record.diagnostics.filter isMismatch = complaintsAt lines index := by
  obtain ⟨site, there, here, passes, step⟩ := step_of_run scanned
  have outcome := step_outcome settings site (stateBefore lines index)
  rw [passes] at outcome
  obtain ⟨diagnostics, stepped, complained⟩ := outcome
  rw [step] at stepped
  obtain ⟨rfl, -⟩ := Prod.mk.inj (Except.ok.inj stepped)
  refine ⟨here, ?_⟩
  rw [complained, mismatches_eq_complaints, complaintsAt, Site.getElem?_of_at? there, expectedAt?,
    there, Option.bind_some, Site.number, Site.index_of_at? there]
  rfl

/-- The complaints of a run are those that the scanned lines call for. -/
theorem filter_isMismatch_run (settings : Settings) (lines : List Line) :
    ((run settings lines).1.flatMap Record.diagnostics).filter isMismatch =
      (List.range (run settings lines).1.length).flatMap (complaintsAt lines) := by
  rw [List.filter_flatMap, List.flatMap_def, List.flatMap_def]
  congr 1
  apply List.ext_getElem
  · rw [List.length_map, List.length_map, List.length_range]
  · intro index inside insideToo
    rw [List.getElem_map, List.getElem_map, List.getElem_range]
    rw [List.length_map] at inside
    exact (complaints_of_run (List.getElem?_eq_getElem inside)).2

/-- A line that is scanned in two files or in neither, and expected at the same indentation, gets the
same complaints. -/
theorem rel_run (line : lines[index]? = others[index]?)
    (scanned : index < (run settings lines).1.length ↔ index < (run settings others).1.length)
    (expected : index < (run settings others).1.length →
      expectedAt? lines index = expectedAt? others index) :
    Option.Rel SameComplaints (run settings lines).1[index]? (run settings others).1[index]? := by
  by_cases inside : index < (run settings others).1.length
  · have here := List.getElem?_eq_getElem (scanned.mpr inside)
    have there := List.getElem?_eq_getElem inside
    obtain ⟨indexHere, complained⟩ := complaints_of_run here
    obtain ⟨indexThere, complainedToo⟩ := complaints_of_run there
    rw [here, there]
    refine .some ⟨indexThere.trans indexHere.symm, ?_⟩
    rw [complained, complainedToo, complaintsAt, complaintsAt, line, expected inside]
  · have outside : ¬ index < (run settings lines).1.length := fun here => inside (scanned.mp here)
    rw [List.getElem?_eq_none (Nat.not_lt.mp outside), List.getElem?_eq_none (Nat.not_lt.mp inside)]
    exact .none

/-! ## A directive in the place of a blank line -/

section Directive

variable {first rest : List Line} {middle directive : Line}

/-- The lines before two different ones are scanned in both files alike. -/
theorem lt_length_run_beside (before : index < first.length) (middle other : Line)
    (rest : List Line) :
    index < (run settings (first ++ middle :: rest)).1.length ↔
      index < (run settings (first ++ other :: rest)).1.length := by
  rw [lt_length_run, lt_length_run, List.length_append, List.length_append, List.length_cons]
  refine and_congr_right fun _ => forall₂_congr fun earlier within => ?_
  rw [(agree_of_lt (Nat.lt_of_le_of_lt within before) middle other rest).2]

/-- Two files that agree on all lines but a directive and another line in its place. -/
def AgreeBeside (first rest : List Line) (middle directive : Line) : Prop :=
  ∀ index ≠ first.length,
    expectedAt? (first ++ middle :: rest) index = expectedAt? (first ++ directive :: rest) index ∧
      ∀ settings, faultAt? settings (first ++ middle :: rest) index =
        faultAt? settings (first ++ directive :: rest) index

variable (codeless : middle.hasCode = false) (blank : middle.isBlank)
  (agree : first.length < (run settings (first ++ directive :: rest)).1.length →
    AgreeBeside first rest middle directive)
include codeless blank agree

theorem faultAt?_beside
    (scanned : first.length < (run settings (first ++ directive :: rest)).1.length) :
    faultAt? settings (first ++ middle :: rest) = faultAt? settings (first ++ directive :: rest) := by
  funext index
  by_cases here : index = first.length
  · rw [here, faultAt?_of_blank (Site.at?_middle first middle rest) codeless blank,
      (lt_length_run.mp scanned).2 first.length (Nat.le_refl _)]
  · exact (agree scanned index here).2 settings

/-- Unless the directive fails, as many lines are scanned in both files. -/
theorem length_run_beside
    (passes : (run settings (first ++ directive :: rest)).1.length ≠ first.length) :
    (run settings (first ++ middle :: rest)).1.length =
      (run settings (first ++ directive :: rest)).1.length := by
  refine eq_of_forall_lt_iff fun index => ?_
  rcases Nat.lt_or_gt_of_ne passes with stopped | scanned
  · rcases Nat.lt_or_ge index first.length with before | behind
    · exact lt_length_run_beside before middle directive rest
    · have stoppedToo := (@lt_length_run_beside settings _ _ stopped middle directive rest).not
      omega
  · rw [lt_length_run, lt_length_run, faultAt?_beside codeless blank agree scanned, List.length_append,
      List.length_append, List.length_cons, List.length_cons]

theorem fault_run_beside
    (passes : (run settings (first ++ directive :: rest)).1.length ≠ first.length) :
    (run settings (first ++ directive :: rest)).2 = (run settings (first ++ middle :: rest)).2 := by
  rw [fault_run_length, fault_run_length, length_run_beside codeless blank agree passes]
  rcases Nat.lt_or_gt_of_ne passes with stopped | scanned
  · exact ((agree_of_lt stopped middle directive rest).2 settings).symm
  · rw [faultAt?_beside codeless blank agree scanned]

/-- Every line but the directive gets the same complaints in both files, the lines behind the
directive unless the directive fails. -/
theorem rel_run_beside (further : index ≠ first.length) (passes : index < first.length ∨
      (run settings (first ++ directive :: rest)).1.length ≠ first.length) :
    Option.Rel SameComplaints (run settings (first ++ middle :: rest)).1[index]?
      (run settings (first ++ directive :: rest)).1[index]? := by
  have line : (first ++ middle :: rest)[index]? = (first ++ directive :: rest)[index]? := by
    rcases Nat.lt_or_gt_of_ne further with before | behind
    · rw [List.getElem?_append_left before, List.getElem?_append_left before]
    · obtain ⟨offset, rfl⟩ := Nat.exists_eq_add_of_le (Nat.succ_le_of_lt behind)
      rw [List.getElem?_append_right behind.le, List.getElem?_append_right behind.le,
        show first.length.succ + offset - first.length = offset + 1 by omega,
        List.getElem?_cons_succ, List.getElem?_cons_succ]
  rcases Nat.lt_or_gt_of_ne further with before | behind
  · exact rel_run line (lt_length_run_beside before middle directive rest) fun _ =>
      (agree_of_lt before middle directive rest).1
  · have passes := passes.resolve_left (Nat.not_lt.mpr behind.le)
    refine rel_run line (by rw [length_run_beside codeless blank agree passes]) fun inside => ?_
    exact (agree (Nat.lt_trans behind inside) index further).1

end Directive

/-! ## A blank line in the place of the directive -/

theorem labelAt_eq_any (lines : List Line) (index : Nat) :
    labelAt lines index = lines[index]?.any fun line =>
      isStatement line (stateBefore lines index) && isLabel line.code := by
  rw [labelAt, Site.at?, Option.any_map]

/-- Up to an inserted line without code, the states differ in what this line moves and in the count of
blank lines only. -/
theorem stateBefore_of_inserts
    (inserts : Insertion.Inserts position position .initial (run settings lines) (run settings others))
    (within : index ≤ position) (scanned : index ≤ (run settings lines).1.length) :
    ∃ blankRun, stateBefore others index =
      { (stateBefore lines index).slide position with blankRun } := by
  cases index with
  | zero => exact ⟨0, rfl⟩
  | succ index =>
    have here := List.getElem?_eq_getElem (show index < (run settings lines).1.length from scanned)
    have kept : slideIndex position index = index := if_pos within
    have same := inserts.records index
    rw [kept, here] at same
    cases there : (run settings others).1[index]? with
    | none =>
      rw [there] at same
      cases same
    | some other =>
      rw [there] at same
      cases same with
      | some same =>
        rw [← state_of_run here, ← state_of_run there]
        exact same.state

theorem filter_isMismatch_lasting (diagnostics : List Diagnostic) :
    (Insertion.lasting diagnostics).filter isMismatch = diagnostics.filter isMismatch := by
  rw [Insertion.lasting, List.filter_filter]
  refine List.filter_congr fun diagnostic _ => ?_
  by_cases mismatch : isMismatch diagnostic
  · have kind : diagnostic.kind = Kind.indentationMismatch.name := by
      simpa [isMismatch] using mismatch
    rw [mismatch, Bool.true_and, kind]
    decide
  · rw [Bool.eq_false_iff.mpr mismatch, Bool.false_and]

theorem filter_isMismatch_slide (diagnostics : List Diagnostic) :
    (diagnostics.map (Diagnostic.slide position)).filter isMismatch =
      (diagnostics.filter isMismatch).map (.slide position) := by
  rw [List.filter_map]
  rfl

/-- A line inserted in two steps: first a blank line, then another in its place. -/
theorem rel_slidComplaints {record? middle? other? : Option Record}
    (same : Option.Rel (Insertion.SameRecord position) record? middle?)
    (sameToo : Option.Rel SameComplaints middle? other?) :
    Option.Rel (SlidComplaints position) record? other? := by
  cases same with
  | none =>
    cases sameToo
    exact .none
  | some same =>
    cases sameToo with
    | some sameToo =>
      refine .some ⟨sameToo.index.trans same.index, ?_⟩
      rw [sameToo.mismatches, ← filter_isMismatch_lasting, same.diagnostics,
        filter_isMismatch_slide, filter_isMismatch_lasting]

/-- A directive at a position takes no part in indentation. Every other line has the same complaints
about its indentation, the directive has none, and both runs fail alike. Behind the directive this
holds unless the directive itself fails. -/
structure TakesNoPart (position : Nat) (run other : List Record × Option Fault) : Prop where
  others : ∀ index : Nat, index < position ∨ other.1.length ≠ position →
    Option.Rel (SlidComplaints position) run.1[index]? other.1[slideIndex position index]?
  own : ∀ record, other.1[position]? = some record → record.diagnostics.filter isMismatch = []
  fault : other.1.length ≠ position → other.2 = run.2

/-- A directive is not expected anywhere. -/
theorem complaintsAt_directive {site : Site} (there : Site.at? lines index = some site)
    (isDirective : site.line.IsDirective) : complaintsAt lines index = [] := by
  have noStatement : isStatement site.line (stateBefore lines index) = false := by
    simp [isStatement, isDirective.sharp]
  rw [complaintsAt, Site.getElem?_of_at? there, expectedAt?, there, Option.bind_some, expected?,
    noStatement, if_neg Bool.false_ne_true]
  rfl

/-- If the lines before a directive are scanned, a blank line in its place leaves what the directive
needs as it is in the file without it. -/
theorem agreeBeside_of_inserts {middle directive : Line} (codeless : middle.hasCode = false)
    (blankLine : middle.isBlank)
    (inserts : Insertion.Inserts position position .initial (run settings lines)
      (run settings (lines.take position ++ middle :: lines.drop position)))
    (inside : position ≤ lines.length) (outside : Outside (stateBefore lines position))
    (isDirective : directive.IsDirective)
    (inked : ∀ line ∈ directive :: lines.drop position, line.hasCode → line.isBlank = false)
    (passed : PassedOver (labelAt lines) (lines.take position) (lines.drop position) directive)
    (scanned : (lines.take position).length <
      (run settings (lines.take position ++ directive :: lines.drop position)).1.length) :
    AgreeBeside (lines.take position) (lines.drop position) middle directive := by
  have length : (lines.take position).length = position := by
    rw [List.length_take, Nat.min_eq_left inside]
  let blank := lines.take position ++ middle :: lines.drop position
  have place : Site.at? blank position =
      some ⟨position, (lines.take position).reverse, middle, lines.drop position⟩ := by
    have found := Site.at?_middle (lines.take position) middle (lines.drop position)
    rwa [length] at found
  have scannedBlank : position < (run settings blank).1.length := by
    refine lt_length_run.mpr ⟨Site.lt_length_of_at? place, fun earlier within => ?_⟩
    rcases Nat.lt_or_eq_of_le within with before | rfl
    · rw [(agree_of_lt (length.symm ▸ before) middle directive (lines.drop position)).2]
      exact (lt_length_run.mp scanned).2 earlier (length.symm ▸ within)
    · exact faultAt?_of_blank place codeless blankLine settings
  have enough : position ≤ (run settings lines).1.length := by
    refine inserts.scanned.mp ?_
    rw [List.getElem?_eq_getElem scannedBlank]
    rfl
  have states : ∀ index ≤ position, ∃ blankRun, stateBefore blank index =
      { (stateBefore lines index).slide position with blankRun } := fun index within =>
    stateBefore_of_inserts inserts within (within.trans enough)
  have outsideBlank : Outside (stateBefore blank (lines.take position).length) := by
    obtain ⟨blankRun, same⟩ := states position (Nat.le_refl position)
    rw [length, same]
    exact outside
  have labels : ∀ start < (lines.take position).length, labelAt blank start = labelAt lines start := by
    intro start before
    obtain ⟨blankRun, same⟩ := states start (length ▸ before).le
    have line : blank[start]? = lines[start]? := by
      rw [List.getElem?_append_left before, List.getElem?_take_of_lt (length ▸ before)]
    rw [labelAt_eq_any, labelAt_eq_any, line, same]
    rfl
  intro index further
  exact agree_of_ne codeless isDirective inked outsideBlank (passed.congr labels) further

end Scan

/-- A directive of a single line, inserted outside comments, lists of parameters and definitions,
takes no part in indentation if the look-ahead of the labels before it passes over it. -/
theorem run_directive (settings : Settings) (raws : List (List Char)) (position : Nat)
    (raw : List Char) (inside : position ≤ raws.length)
    (comment : Source.stateAfter .code (raws.take position) = .code)
    (outside : Scan.Outside (Scan.stateBefore (Line.ofRaws raws) position))
    (isDirective : (Line.ofRaw .code raw).IsDirective)
    (closed : (Line.ofRaw .code raw).after = .code)
    (passed : CaseBlock.PassedOver (Scan.labelAt (Line.ofRaws raws))
      ((Line.ofRaws raws).take position) ((Line.ofRaws raws).drop position) (Line.ofRaw .code raw)) :
    Scan.TakesNoPart position (Scan.run settings (Line.ofRaws raws))
      (Scan.run settings (Line.ofRaws (raws.insertIdx position raw))) := by
  have codeless : (Line.ofRaw .code []).hasCode = false := by decide +kernel
  have blank : (Line.ofRaw .code []).isBlank := by decide +kernel
  have neutral : (Line.ofRaw .code []).after = .code := by decide +kernel
  have unmarked : CaseBlock.isMarked (Line.ofRaw .code []) = false := by decide +kernel
  have within : position ≤ (Line.ofRaws raws).length := by
    rwa [Line.ofRaws, Line.length_ofRawsFrom]
  have length : ((Line.ofRaws raws).take position).length = position := by
    rw [List.length_take, Nat.min_eq_left within]
  rw [← comment] at codeless blank neutral unmarked closed
  have inserts := Insertion.inserts_insertIdx inside codeless
    ((@Scan.lengthFault?_eq_none_iff settings _).mpr (.inl blank)) neutral unmarked
  rw [Line.ofRaws_insertIdx inside neutral, comment] at inserts
  rw [Line.ofRaws_insertIdx inside closed, comment]
  rw [comment] at codeless blank
  have inked : ∀ line ∈ Line.ofRaw .code raw :: (Line.ofRaws raws).drop position,
      line.hasCode → line.isBlank = false := by
    intro line member
    rcases List.mem_cons.mp member with rfl | later
    · exact Line.isBlank_of_hasCode
    · obtain ⟨before, raw, rfl⟩ := Line.exists_ofRaw_of_mem (List.mem_of_mem_drop later)
      exact Line.isBlank_of_hasCode
  have agree :=
    Scan.agreeBeside_of_inserts codeless blank inserts within outside isDirective inked passed
  refine ⟨?_, ?_, ?_⟩
  · intro index passes
    have further : slideIndex position index ≠ ((Line.ofRaws raws).take position).length :=
      length.symm ▸ slideIndex_ne position index
    refine Scan.rel_slidComplaints (inserts.records index)
      (Scan.rel_run_beside codeless blank agree further ?_)
    rw [length]
    refine passes.imp_left fun before => ?_
    rw [slideIndex, if_pos before]
    exact before
  · intro record scanned
    obtain ⟨-, complained⟩ := Scan.complaints_of_run scanned
    have place := Site.at?_middle ((Line.ofRaws raws).take position) (Line.ofRaw .code raw)
      ((Line.ofRaws raws).drop position)
    rw [length] at place
    rw [complained, Scan.complaintsAt_directive place isDirective]
  · intro passes
    rw [← inserts.fault]
    exact Scan.fault_run_beside codeless blank agree (length.symm ▸ passes)

/-- A directive with balanced braces right behind a label whose body opens and closes a block. -/
theorem run_directive_behind_label :
    let raws := ["switch (x) \x7b", "  case 1:", "    if (y) \x7b", "    \x7d", "    break;", "\x7d"].map
      String.toList
    let raw := "#define ORIGIN \x7b0\x7d".toList
    2 ≤ raws.length ∧ Source.stateAfter .code (raws.take 2) = .code ∧
      Scan.Outside (Scan.stateBefore (Line.ofRaws raws) 2) ∧ (Line.ofRaw .code raw).IsDirective ∧
      (Line.ofRaw .code raw).after = .code ∧
      CaseBlock.PassedOver (Scan.labelAt (Line.ofRaws raws)) ((Line.ofRaws raws).take 2)
        ((Line.ofRaws raws).drop 2) (Line.ofRaw .code raw) ∧
      Scan.TakesNoPart 2 (Scan.run .default (Line.ofRaws raws))
        (Scan.run .default (Line.ofRaws (raws.insertIdx 2 raw))) := by
  intro raws raw
  have inside : 2 ≤ raws.length := by decide
  have comment : Source.stateAfter .code (raws.take 2) = .code := by decide +kernel
  have outside : Scan.Outside (Scan.stateBefore (Line.ofRaws raws) 2) := by
    unfold Scan.Outside
    decide +kernel
  have isDirective : (Line.ofRaw .code raw).IsDirective :=
    ⟨by decide +kernel, by decide +kernel⟩
  have closed : (Line.ofRaw .code raw).after = .code := by decide +kernel
  have passed : CaseBlock.PassedOver (Scan.labelAt (Line.ofRaws raws)) ((Line.ofRaws raws).take 2)
      ((Line.ofRaws raws).drop 2) (Line.ofRaw .code raw) := by
    decide +kernel
  exact ⟨inside, comment, outside, isDirective, closed, passed,
    run_directive .default raws 2 raw inside comment outside isDirective closed passed⟩

/-- A directive with a closing brace inside the body of a case: without it no line is misplaced, with
it the body ends on the line before, and the lines behind are expected two columns further left. -/
theorem run_directive_closing_brace :
    let raws := ["switch (x) \x7b", "  case 1:", "    a();", "    b();", "    break;", "\x7d"].map
      String.toList
    let raw := "#define END \x7d".toList
    let mismatches := fun raws : List (List Char) =>
      ((Scan.run .default (Line.ofRaws raws)).1.flatMap Scan.Record.diagnostics).filter Scan.isMismatch
    3 ≤ raws.length ∧ Source.stateAfter .code (raws.take 3) = .code ∧
      Scan.Outside (Scan.stateBefore (Line.ofRaws raws) 3) ∧ (Line.ofRaw .code raw).IsDirective ∧
      (Line.ofRaw .code raw).after = .code ∧ mismatches raws = [] ∧
      mismatches (raws.insertIdx 3 raw) =
        [Scan.mismatch 5 2 "    b();".toList, Scan.mismatch 6 2 "    break;".toList] := by
  intro raws raw mismatches
  have counted : ∀ raws : List (List Char),
      (∀ index < (Line.ofRaws raws).length, Scan.faultAt? .default (Line.ofRaws raws) index = none) →
      mismatches raws = (List.range (Line.ofRaws raws).length).flatMap
        (Scan.complaintsAt (Line.ofRaws raws)) := by
    intro raws passes
    rw [← Scan.length_run_of_passes passes]
    exact Scan.filter_isMismatch_run .default (Line.ofRaws raws)
  have without := counted raws (by decide +kernel)
  have inserted := counted (raws.insertIdx 3 raw) (by decide +kernel)
  rw [without, inserted]
  refine ⟨by decide, by decide +kernel, ?_, ⟨by decide +kernel, by decide +kernel⟩,
    by decide +kernel, by decide +kernel, by decide +kernel⟩
  unfold Scan.Outside
  decide +kernel

end HouseStyle
