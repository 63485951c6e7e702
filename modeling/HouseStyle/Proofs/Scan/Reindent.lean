import HouseStyle.Proofs.Scan.Invariant
import HouseStyle.Proofs.Scan.Parallel
import HouseStyle.Proofs.Scan.Run
import Mathlib.Data.List.DropRight

/-!
Contract: indentation does not cascade.

Owns: the width at which a scan expects each line, the reading of that width from a complaint, and
the file whose lines are moved to where their complaints say.
Does not own: what a single line does to the state.

The width at which a line is expected is a function of the file without its indentation. A complaint
about the indentation of a line therefore compares the line's own width with it and nothing else.

Main statement: `run_reindent`.
-/

namespace HouseStyle

namespace Scan

/-- The complaint about a line that is not at the width at which it is expected, if it is expected
at one. -/
def complaints (number : Nat) (width? : Option Int) (raw : List Char) : List Diagnostic :=
  match width? with
  | none => []
  | some width =>
    if (Source.indentWidth raw : Int) = width then [] else [mismatch number width raw]

theorem mismatches_eq_complaints (site : Site) (state : ScanState) :
    mismatches site state = complaints site.number (expected? site.line state) site.line.raw := by
  unfold mismatches statementMismatches expected? complaints
  by_cases statement : isStatement site.line state
  · rw [if_pos statement, if_pos statement]
    simp only [bne_iff_ne, ne_eq, ite_not]
  · rw [if_neg statement, if_neg statement]

/-- The widths at which the lines up to the first that fails are expected. The lines already scanned
are listed from the nearest on. -/
def widthsFrom (settings : Settings) (index : Nat) (before : List Line) (state : ScanState) :
    List Line → List (Option Int)
  | [] => []
  | line :: rest =>
    match step settings ⟨index, before, line, rest⟩ state with
    | .error _ => []
    | .ok (_, next) =>
      expected? line state :: widthsFrom settings (index + 1) (line :: before) next rest

/-- The widths at which the lines of a file up to the first that fails are expected. -/
def widths (settings : Settings) (lines : List Line) : List (Option Int) :=
  widthsFrom settings 0 [] .initial lines

/-- The width at which the line of an index is expected, if it is scanned and has one. -/
def widthAt (settings : Settings) (raws : List (List Char)) (index : Nat) : Option Int :=
  (widths settings (Line.ofRaws raws))[index]?.join

/-- A scan as far as it gets, in one step: the first line fails, or its record comes first. -/
theorem runFrom_cons (settings : Settings) (index : Nat) (before : List Line) (state : ScanState)
    (line : Line) (rest : List Line) :
    let site : Site := ⟨index, before, line, rest⟩
    let next := advance site state
    match fault? settings site state with
    | some fault =>
      runFrom settings index before state (line :: rest) = ([], some fault) ∧
        widthsFrom settings index before state (line :: rest) = []
    | none => ∃ diagnostics,
        runFrom settings index before state (line :: rest) =
          (⟨index, diagnostics, next⟩ ::
              (runFrom settings (index + 1) (line :: before) next rest).1,
            (runFrom settings (index + 1) (line :: before) next rest).2) ∧
        widthsFrom settings index before state (line :: rest) =
          expected? line state :: widthsFrom settings (index + 1) (line :: before) next rest ∧
        diagnostics.filter isMismatch = complaints (index + 1) (expected? line state) line.raw := by
  simp only
  have outcome := step_outcome settings ⟨index, before, line, rest⟩ state
  cases fails : fault? settings ⟨index, before, line, rest⟩ state with
  | some fault =>
    rw [fails] at outcome
    have step : step settings ⟨index, before, line, rest⟩ state = .error fault := outcome
    refine ⟨runFrom_cons_error step, ?_⟩
    rw [widthsFrom, step]
  | none =>
    rw [fails] at outcome
    rcases outcome with ⟨diagnostics, step, complained⟩
    refine ⟨diagnostics, runFrom_cons_ok step, ?_, ?_⟩
    · rw [widthsFrom, step]
    · rw [complained, mismatches_eq_complaints]
      rfl

/-- Every line that is scanned gets the complaint that its width calls for. -/
theorem filter_isMismatch_of_runFrom {settings : Settings} {index : Nat} {before : List Line}
    {state : ScanState} {lines : List Line} {position : Nat} {record : Record}
    (scanned : (runFrom settings index before state lines).1[position]? = some record) :
    ∃ line, lines[position]? = some line ∧ record.index = index + position ∧
      record.diagnostics.filter isMismatch =
        complaints (index + position + 1)
          ((widthsFrom settings index before state lines)[position]?.join) line.raw := by
  induction lines generalizing index before state position with
  | nil => cases scanned
  | cons line rest inductionHypothesis =>
    have first := runFrom_cons settings index before state line rest
    simp only at first
    split at first
    next =>
      rw [first.1] at scanned
      cases scanned
    next =>
      rcases first with ⟨diagnostics, run, widths, complained⟩
      rw [run] at scanned
      rw [widths]
      cases position with
      | zero =>
        cases scanned
        exact ⟨line, rfl, rfl, complained⟩
      | succ position =>
        rcases inductionHypothesis scanned with ⟨later, found, indexed, complains⟩
        refine ⟨later, found, ?_, ?_⟩
        · omega
        · rw [complains, Nat.add_right_comm index 1 position]
          rfl

/-- Two scans that get equally far, with the same fault, through parallel states. -/
structure SameCourse (run other : List Record × Option Fault) : Prop where
  fault : run.2 = other.2
  states : List.Forall₂ (fun record other => record.state.Parallel other.state) run.1 other.1

theorem SameCourse.symm {run other : List Record × Option Fault} (same : SameCourse run other) :
    SameCourse other run where
  fault := same.fault.symm
  states := (same.states.imp fun _ _ parallel => parallel.symm).flip

theorem forall₂_parallel_trans {records others thirds : List Record}
    (first : List.Forall₂ (fun record other => record.state.Parallel other.state) records others)
    (further : List.Forall₂ (fun record other => record.state.Parallel other.state) others
      thirds) :
    List.Forall₂ (fun record other => record.state.Parallel other.state) records thirds := by
  induction first generalizing thirds with
  | nil =>
    cases further
    exact .nil
  | cons here _ inductionHypothesis =>
    cases further with
    | cons hereToo later => exact .cons (here.trans hereToo) (inductionHypothesis later)

theorem SameCourse.trans {run other third : List Record × Option Fault}
    (same : SameCourse run other) (further : SameCourse other third) : SameCourse run third where
  fault := same.fault.trans further.fault
  states := forall₂_parallel_trans same.states further.states

theorem runFrom_sameCourse (settings : Settings) {lines bases : List Line}
    (indents : List.Forall₂ Line.Indents lines bases) {index : Nat} {before others : List Line}
    (earlier : List.Forall₂ Line.Indents before others) {state other : ScanState}
    (parallel : state.Parallel other) :
    SameCourse (runFrom settings index before state lines)
        (runFrom settings index others other bases) ∧
      widthsFrom settings index before state lines =
        widthsFrom settings index others other bases := by
  induction indents generalizing index before others state other with
  | nil => exact ⟨⟨rfl, .nil⟩, rfl⟩
  | @cons line base lines bases here indents inductionHypothesis =>
    -- look-ahead reads the lines still related, look-behind those related already
    have site := Site.indents_of_forall₂ indents earlier here index
    have first := runFrom_cons settings index before state line lines
    have firstToo := runFrom_cons settings index others other base bases
    simp only [parallel.fault?_eq site settings] at first
    simp only at firstToo
    cases fails : fault? settings ⟨index, others, base, bases⟩ other with
    | some fault =>
      simp only [fails] at first firstToo
      rw [first.1, firstToo.1, first.2, firstToo.2]
      exact ⟨⟨rfl, .nil⟩, rfl⟩
    | none =>
      simp only [fails] at first firstToo
      rcases first with ⟨diagnostics, run, widths, -⟩
      rcases firstToo with ⟨diagnosticsToo, runToo, widthsToo, -⟩
      have next := parallel.advance site
      rcases inductionHypothesis (.cons here earlier) next with ⟨course, later⟩
      rw [run, runToo, widths, widthsToo, later, parallel.expected?_eq here]
      exact ⟨⟨course.fault, .cons next course.states⟩, rfl⟩

/-- Files that differ in indentation only are scanned on the same course, and expect every line at
the same width. -/
theorem run_sameCourse (settings : Settings) {raws others : List (List Char)}
    (same : raws.map Source.flush = others.map Source.flush) :
    SameCourse (run settings (Line.ofRaws raws)) (run settings (Line.ofRaws others)) ∧
      widthAt settings raws = widthAt settings others := by
  have toFlush : ∀ raws : List (List Char),
      SameCourse (run settings (Line.ofRaws raws))
          (run settings (Line.ofRaws (raws.map Source.flush))) ∧
        widthAt settings raws = widthAt settings (raws.map Source.flush) := by
    intro raws
    have indents := Line.forall₂_indents_ofRaws raws
    rcases runFrom_sameCourse settings indents .nil (.refl .initial) with ⟨course, width⟩
    refine ⟨course, ?_⟩
    funext index
    exact congrArg (fun widths : List (Option Int) => widths[index]?.join) width
  rcases toFlush raws with ⟨course, width⟩
  rcases toFlush others with ⟨courseToo, widthToo⟩
  rw [← same] at courseToo widthToo
  exact ⟨course.trans courseToo.symm, width.trans widthToo.symm⟩

/-- No line is expected left of the margin. -/
theorem widthsFrom_nonneg (settings : Settings) (index : Nat) (before : List Line)
    {state : ScanState} (sound : state.Sound) (lines : List Line) :
    ∀ width, some width ∈ widthsFrom settings index before state lines → 0 ≤ width := by
  induction lines generalizing index before state with
  | nil =>
    intro width member
    exact absurd member List.not_mem_nil
  | cons line rest inductionHypothesis =>
    intro width member
    have first := runFrom_cons settings index before state line rest
    simp only at first
    split at first
    next =>
      rw [first.2] at member
      exact absurd member List.not_mem_nil
    next =>
      rcases first with ⟨diagnostics, -, widths, -⟩
      rw [widths] at member
      rcases List.mem_cons.mp member with here | later
      · rcases Option.ite_none_right_eq_some.mp here.symm with ⟨-, same⟩
        have above := (sound.expectedAt line).2
        rw [Option.some.inj same] at above
        omega
      · exact inductionHypothesis (index + 1) (line :: before) (sound.advance _) width later

theorem widthAt_nonneg {settings : Settings} {raws : List (List Char)} {index : Nat} {width : Int}
    (expected : widthAt settings raws index = some width) : 0 ≤ width := by
  have member := List.mem_of_getElem? (Option.join_eq_some_iff.mp expected)
  exact widthsFrom_nonneg settings 0 [] ScanState.sound_initial _ width member

/-- Every line that is scanned gets the complaint that its width calls for. -/
theorem filter_isMismatch_of_run {settings : Settings} {raws : List (List Char)} {index : Nat}
    {record : Record} (scanned : (run settings (Line.ofRaws raws)).1[index]? = some record) :
    ∃ raw, raws[index]? = some raw ∧
      record.diagnostics.filter isMismatch =
        complaints (index + 1) (widthAt settings raws index) raw := by
  rcases filter_isMismatch_of_runFrom scanned with ⟨line, found, -, complained⟩
  have written : raws[index]? = some line.raw := by
    rw [← Line.map_raw_ofRawsFrom .code raws, List.getElem?_map]
    exact congrArg (Option.map Line.raw) found
  rw [Nat.zero_add] at complained
  exact ⟨line.raw, written, complained⟩

/-! ## Moving lines to where they are expected -/

/-- The width that a complaint about indentation asks for, read off its message. -/
def reportedWidth (complaint : Diagnostic) : Nat :=
  let number := complaint.message.toList.drop "line should be indented to ".length
  Nat.ofDigitChars 10 (number.takeWhile Char.isDigit) 0

/-- A line at the width that its complaint asks for, if it has one. -/
def moved (complaint? : Option Diagnostic) (raw : List Char) : List Char :=
  match complaint? with
  | some complaint => List.replicate (reportedWidth complaint) ' ' ++ Source.flush raw
  | none => raw

/-- The lines of a file, each at the width that the complaint about its indentation asks for. -/
def reindented (diagnostics : List Diagnostic) (raws : List (List Char)) : List (List Char) :=
  raws.mapIdx fun index raw =>
    moved (diagnostics.find? fun diagnostic =>
      isMismatch diagnostic && diagnostic.line == index + 1) raw

/-- The width that a complaint asks for can be read off it. -/
theorem reportedWidth_mismatch (number width : Nat) (raw : List Char) :
    reportedWidth (mismatch number width raw) = width := by
  have digits : ∀ c ∈ Nat.toDigits 10 width, c.isDigit := fun c member =>
    Nat.isDigit_of_mem_toDigits (by decide) (by decide) member
  let found := " spaces (found ".toList ++
    ((toString (Source.indentWidth raw)).toList ++ ")".toList)
  have message : (mismatch number width raw).message.toList =
      "line should be indented to ".toList ++ (Nat.toDigits 10 width ++ found) := by
    show ("line should be indented to " ++ Nat.repr width ++ " spaces (found " ++
      toString (Source.indentWidth raw) ++ ")").toList = _
    simp only [found, String.toList_append, List.append_assoc, Nat.toList_repr]
  have number : (mismatch number width raw).message.toList.drop
      "line should be indented to ".length = Nat.toDigits 10 width ++ found := by
    rw [message, ← String.length_toList, List.drop_left]
  have ends : found.takeWhile Char.isDigit = [] := rfl
  simp only [reportedWidth, number]
  rw [List.takeWhile_append_of_pos digits, ends, List.append_nil, Nat.ofDigitChars_ten_toDigits]

theorem indentWidth_flush (raw : List Char) : Source.indentWidth (Source.flush raw) = 0 := by
  cases rest : Source.flush raw with
  | nil => rfl
  | cons c rest' =>
    have stops : Source.isIndentation c = false := by
      have first := List.head?_dropWhile_not Source.isIndentation raw
      rw [show raw.dropWhile Source.isIndentation = _ from rest] at first
      simpa using first
    unfold Source.indentWidth
    split
    next starts =>
      rw [(List.cons.inj starts).1] at stops
      cases stops
    next starts =>
      rw [(List.cons.inj starts).1] at stops
      cases stops
    next => rfl

theorem indentWidth_moved (width : Nat) (raw : List Char) :
    Source.indentWidth (List.replicate width ' ' ++ Source.flush raw) = width := by
  rw [Source.indentWidth_replicate, indentWidth_flush, Nat.add_zero]

theorem flush_moved (complaint? : Option Diagnostic) (raw : List Char) :
    Source.flush (moved complaint? raw) = Source.flush raw := by
  cases complaint? with
  | none => rfl
  | some complaint =>
    have spaces : ∀ c ∈ List.replicate (reportedWidth complaint) ' ', Source.isIndentation c := by
      intro c member
      rw [List.eq_of_mem_replicate member]
      rfl
    show (List.replicate _ ' ' ++ Source.flush raw).dropWhile Source.isIndentation = _
    rw [List.dropWhile_append_of_pos spaces]
    exact List.dropWhile_idempotent _ _

/-- Moving lines changes nothing but their indentation. -/
theorem map_flush_reindented (diagnostics : List Diagnostic) (raws : List (List Char)) :
    (reindented diagnostics raws).map Source.flush = raws.map Source.flush := by
  apply List.ext_getElem (by simp [reindented])
  intro index within withinToo
  simp only [reindented, List.getElem_map, List.getElem_mapIdx, flush_moved]

theorem mem_complaints {number : Nat} {width? : Option Int} {raw : List Char}
    {diagnostic : Diagnostic} :
    diagnostic ∈ complaints number width? raw ↔
      ∃ width, width? = some width ∧ (Source.indentWidth raw : Int) ≠ width ∧
        diagnostic = mismatch number width raw := by
  cases width? with
  | none => simp [complaints]
  | some width =>
    by_cases there : (Source.indentWidth raw : Int) = width
    · simp [complaints, there]
    · simp [complaints, there]

/-- A complaint about the indentation of a line is the one that the line's width calls for. -/
theorem mem_complaints_of_mem_run {settings : Settings} {raws : List (List Char)} {index : Nat}
    {complaint : Diagnostic}
    (among : complaint ∈ (run settings (Line.ofRaws raws)).1.flatMap Record.diagnostics)
    (complains : isMismatch complaint) (line : complaint.line = index + 1) :
    ∃ raw, raws[index]? = some raw ∧
      complaint ∈ complaints (index + 1) (widthAt settings raws index) raw := by
  rcases List.mem_flatMap.mp among with ⟨record, there, inside⟩
  rcases List.mem_iff_getElem?.mp there with ⟨position, scanned⟩
  rcases filter_isMismatch_of_run scanned with ⟨raw, written, complained⟩
  have member := List.mem_filter.mpr ⟨inside, complains⟩
  rw [complained] at member
  -- a complaint names its line, so no other record can hold it
  have here : position = index := by
    rcases mem_complaints.mp member with ⟨width, -, -, same⟩
    have number : ((position + 1 : Nat) : Int) = index + 1 := by
      rw [← line, same]
      rfl
    omega
  subst here
  exact ⟨raw, written, member⟩

theorem complaints_eq_head {number : Nat} {width? : Option Int} {raw : List Char}
    {complaint : Diagnostic} (member : complaint ∈ complaints number width? raw) :
    (complaints number width? raw).head? = some complaint := by
  rcases mem_complaints.mp member with ⟨width, rfl, apart, rfl⟩
  rw [complaints, if_neg apart, List.head?_cons]

/-- The complaint about the indentation of a line, among all diagnostics. -/
theorem find?_complaint {settings : Settings} {raws : List (List Char)} {index : Nat}
    {record : Record} {raw : List Char}
    (scanned : (run settings (Line.ofRaws raws)).1[index]? = some record)
    (written : raws[index]? = some raw) :
    (((run settings (Line.ofRaws raws)).1.flatMap Record.diagnostics).find? fun diagnostic =>
        isMismatch diagnostic && diagnostic.line == index + 1) =
      (complaints (index + 1) (widthAt settings raws index) raw).head? := by
  rcases filter_isMismatch_of_run scanned with ⟨same, writtenToo, complained⟩
  rw [written, Option.some.injEq] at writtenToo
  subst writtenToo
  cases found : ((run settings (Line.ofRaws raws)).1.flatMap Record.diagnostics).find? _ with
  | some complaint =>
    have asked := List.find?_some found
    rw [Bool.and_eq_true, beq_iff_eq] at asked
    rcases mem_complaints_of_mem_run (List.mem_of_find?_eq_some found) asked.1 asked.2 with
      ⟨there, writtenThere, member⟩
    rw [written, Option.some.injEq] at writtenThere
    rw [writtenThere, complaints_eq_head member]
  | none =>
    rw [List.find?_eq_none] at found
    cases first : complaints (index + 1) (widthAt settings raws index) raw with
    | nil => rfl
    | cons complaint others =>
      have member : complaint ∈ complaints (index + 1)
          (widthAt settings raws index) raw := by
        rw [first]
        exact List.mem_cons_self
      rcases mem_complaints.mp member with ⟨width, -, -, same⟩
      rw [← complained] at member
      rcases List.mem_filter.mp member with ⟨among, complains⟩
      have line : complaint.line = index + 1 := by
        rw [same]
        rfl
      have listed := List.mem_flatMap.mpr ⟨record, List.mem_of_getElem? scanned, among⟩
      refine absurd ?_ (found complaint listed)
      rw [complains, line, beq_self_eq_true, Bool.and_self]

/-- A line that is moved to where its complaint says gets no complaint there. -/
theorem complaints_moved (number : Nat) {width? : Option Int}
    (nonneg : ∀ width, width? = some width → 0 ≤ width) (raw : List Char) :
    complaints number width? (moved (complaints number width? raw).head? raw) = [] := by
  cases width? with
  | none => rfl
  | some width =>
    rcases Int.eq_ofNat_of_zero_le (nonneg width rfl) with ⟨width, rfl⟩
    by_cases there : (Source.indentWidth raw : Int) = width
    · simp only [complaints, if_pos there, List.head?_nil, moved]
    · simp only [complaints, if_neg there, List.head?_cons, moved, reportedWidth_mismatch,
        indentWidth_moved, if_true]

/-- Moving every line to where its complaint says leaves no complaint about indentation. -/
theorem quiet_run_reindented (settings : Settings) (raws : List (List Char)) :
    ∀ record ∈ (run settings (Line.ofRaws (reindented
      ((run settings (Line.ofRaws raws)).1.flatMap Record.diagnostics) raws))).1,
      Quiet record.diagnostics := by
  intro record member
  have kept := map_flush_reindented
    ((run settings (Line.ofRaws raws)).1.flatMap Record.diagnostics) raws
  rcases run_sameCourse settings kept.symm with ⟨course, width⟩
  rcases List.mem_iff_getElem?.mp member with ⟨index, scanned⟩
  rcases filter_isMismatch_of_run scanned with ⟨fixed, writtenFixed, complained⟩
  have inside : index < (run settings (Line.ofRaws raws)).1.length := by
    rw [course.states.length_eq]
    exact (List.getElem?_eq_some_iff.mp scanned).1
  have first := List.getElem?_eq_getElem inside
  rcases filter_isMismatch_of_run first with ⟨raw, written, -⟩
  have place : fixed = moved
      (complaints (index + 1) (widthAt settings raws index) raw).head? raw := by
    rw [reindented, List.getElem?_mapIdx, written, Option.map_some,
      find?_complaint first written] at writtenFixed
    exact (Option.some.inj writtenFixed).symm
  rw [← width, place, complaints_moved (index + 1) (fun _ => widthAt_nonneg) raw,
    List.filter_eq_nil_iff] at complained
  intro diagnostic among
  exact Bool.eq_false_iff.mpr (complained diagnostic among)

/-- Records in which every line has the complaint that its own width calls for, and no other
complaint about indentation. -/
def ComplainsAt (width? : Nat → Option Int) (raws : List (List Char)) (records : List Record) :
    Prop :=
  ∀ index record, records[index]? = some record → ∃ raw, raws[index]? = some raw ∧
    record.diagnostics.filter isMismatch = complaints (index + 1) (width? index) raw

end Scan

/-- An indentation mistake never cascades. Files that differ in leading spaces and tabs only are
scanned on the same course and expect every line at the same width, so that the complaint about a
line's indentation depends on its own indentation alone. Once every line is moved to where its
complaint says, the same scan complains about no indentation at all. -/
theorem run_reindent (settings : Settings) {raws others : List (List Char)}
    (same : raws.map Source.flush = others.map Source.flush) :
    let run := fun raws => Scan.run settings (Line.ofRaws raws)
    let fixed := Scan.reindented ((run raws).1.flatMap Scan.Record.diagnostics) raws
    Scan.SameCourse (run raws) (run others) ∧
      (∃ width? : Nat → Option Int, Scan.ComplainsAt width? raws (run raws).1 ∧
        Scan.ComplainsAt width? others (run others).1) ∧
      (∀ (index : Nat) (record other : Scan.Record), (run raws).1[index]? = some record →
        (run others).1[index]? = some other → raws[index]? = others[index]? →
          record.diagnostics.filter Scan.isMismatch = other.diagnostics.filter Scan.isMismatch) ∧
      Scan.SameCourse (run raws) (run fixed) ∧
      ∀ record ∈ (run fixed).1, Scan.Quiet record.diagnostics := by
  intro run fixed
  rcases Scan.run_sameCourse settings same with ⟨course, width⟩
  have complains : Scan.ComplainsAt (Scan.widthAt settings raws) raws (run raws).1 :=
    fun _ _ => Scan.filter_isMismatch_of_run
  have complainsToo : Scan.ComplainsAt (Scan.widthAt settings raws) others (run others).1 := by
    rw [width]
    exact fun _ _ => Scan.filter_isMismatch_of_run
  refine ⟨course, ⟨_, complains, complainsToo⟩, ?_, ?_, Scan.quiet_run_reindented settings raws⟩
  · intro index record other scanned scannedToo equal
    rcases complains index record scanned with ⟨raw, written, complained⟩
    rcases complainsToo index other scannedToo with ⟨rawToo, writtenToo, complainedToo⟩
    rw [equal, writtenToo, Option.some.injEq] at written
    rw [complained, complainedToo, written]
  · exact (Scan.run_sameCourse settings (Scan.map_flush_reindented _ raws).symm).1

/-- A control statement and its body behind the end of a block comment, misplaced in two ways. -/
theorem run_reindent_after_comment :
    let raws := ["if (x)", "/* no", "more */ y();"].map String.toList
    let others := ["\tif (x)", " /* no", "   more */ y();"].map String.toList
    let run := fun raws => Scan.run .default (Line.ofRaws raws)
    let fixed := Scan.reindented ((run raws).1.flatMap Scan.Record.diagnostics) raws
    raws.map Source.flush = others.map Source.flush ∧
      (run raws).1.map (fun record => (record.diagnostics.filter Scan.isMismatch).length) =
        [0, 0, 1] ∧
      (run others).1.map (fun record => (record.diagnostics.filter Scan.isMismatch).length) =
        [1, 0, 1] ∧
      Scan.SameCourse (run raws) (run others) ∧
      ∀ record ∈ (run fixed).1, Scan.Quiet record.diagnostics := by
  intro raws others run fixed
  have same : raws.map Source.flush = others.map Source.flush := by decide
  rcases run_reindent .default same with ⟨course, -, -, -, quiet⟩
  refine ⟨same, ?_, ?_, course, quiet⟩
  · decide +kernel
  · decide +kernel

end HouseStyle
