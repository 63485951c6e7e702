import HouseStyle.Proofs.Scan.Alike

/-!
Contract: two scans side by side, of files whose lines read the same.

Owns: the agreement of both scans, line by line, on every diagnostic and on the state.
Does not own: which lines read the same.

Lines that look alike differ for a scan in single characters, and where they are directives: whether
a line is an inclusion and whether a definition goes on is read off the line as it is written. Lines
that agree in these too are scanned alike.

Main statement: `diagnostics_of_readsAs`.
-/

namespace HouseStyle

/-- Two lines of which a scan reads the same. -/
structure Line.ReadsAs (line other : Line) : Prop extends
    line.Alike other, line.SameCharacters other where
  inclusion : line.hasCode → Scan.isInclusion line = Scan.isInclusion other
  continues : ((Text.trimRight line.raw).getLast? == some '\\') =
    ((Text.trimRight other.raw).getLast? == some '\\')

namespace Site.Alike

variable {site other : Site} (alike : site.Alike other) (reads : site.line.ReadsAs other.line)
include alike reads

theorem phase_eq (phase : Phase) (settings : Settings) (state : ScanState) :
    (Rule.runPhase phase (site.view settings state) >>= Scan.report site) =
      (Rule.runPhase phase (other.view settings state) >>= Scan.report other) := by
  have rules : Rule.runPhase phase (site.view settings state) =
      Rule.runPhase phase (other.view settings state) := by
    unfold Rule.runPhase
    rw [Answer.mapM_congr fun rule member =>
      Rule.check_eq_of_alike (alike.view settings state) rule (Rule.mem_all_of_mem_ofPhase member)
        fun _ => reads.toSameCharacters]
  rw [rules]
  exact congrArg _ (funext alike.report_eq)

theorem directiveLine_eq (code : site.line.hasCode) (state : ScanState) :
    Scan.directiveLine site state = Scan.directiveLine other state := by
  unfold Scan.directiveLine
  simp only [reads.inclusion code, alike.line.leadingLength_eq, reads.continues, alike.report_eq]

theorem contentDiagnostics_eq (code : site.line.hasCode) (settings : Settings)
    (state : ScanState) :
    Scan.contentDiagnostics settings site state = Scan.contentDiagnostics settings other state := by
  have phase := alike.phase_eq reads .content settings state
  unfold Scan.contentDiagnostics
  rw [reads.inclusion code]
  simp only [phase]

theorem inkedLine_eq (inked : site.line.isBlank = false) (settings : Settings) (state : ScanState) :
    Scan.inkedLine settings site state = Scan.inkedLine settings other state := by
  have ended : Scan.endBlankRun site state = Scan.endBlankRun other state := by
    rw [Scan.endBlankRun, Scan.endBlankRun, alike.index]
  unfold Scan.inkedLine
  rw [ended]
  cases Scan.endBlankRun other state with
  | error fault => rfl
  | ok outcome =>
    simp only [Answer.ok_bind, ← bind_assoc, alike.phase_eq reads, alike.line.isSkipped_eq]
    cases skipped : other.line.isSkipped with
    | true => simp only [if_true]
    | false =>
      have code : site.line.hasCode := by
        rw [← alike.line.isSkipped_eq, Line.isSkipped, inked] at skipped
        simpa using skipped
      have contents := alike.contentDiagnostics_eq reads code settings outcome.2
      have codes : ∀ state, Scan.codeLine settings site state = Scan.codeLine settings other state :=
        fun state => alike.codeLine_eq settings fun _ => alike.directiveLine_eq reads code state
      rw [contents, codes]

/-- A scan finds the same on lines that read the same, and leaves the same state. -/
theorem step_eq (settings : Settings) (state : ScanState) :
    Scan.step settings site state = Scan.step settings other state := by
  have lines : Scan.line settings site state = Scan.line settings other state := by
    unfold Scan.line
    rw [alike.line.isBlank_eq, alike.blankLine_eq]
    split
    · rfl
    next inked =>
      rw [← alike.line.isBlank_eq, Bool.not_eq_true] at inked
      exact alike.inkedLine_eq reads inked settings state
  unfold Scan.step
  rw [lines, alike.index, alike.line.after]

end Site.Alike

namespace Scan

theorem forall₂_alike_of_readsAs {lines others : List Line}
    (reads : List.Forall₂ Line.ReadsAs lines others) : List.Forall₂ Line.Alike lines others :=
  reads.imp fun _ _ same => same.toAlike

theorem recordsFrom_of_readsAs (settings : Settings) {lines others : List Line}
    (reads : List.Forall₂ Line.ReadsAs lines others) {before othersBefore : List Line}
    (earlier : List.Forall₂ Line.Alike before othersBefore) (index : Nat) (state : ScanState) :
    recordsFrom settings index before state lines =
      recordsFrom settings index othersBefore state others := by
  induction reads generalizing before othersBefore index state with
  | nil => rfl
  | @cons line other lines others first later inductionHypothesis =>
    have alike := Site.alike_of_forall₂ earlier first.toAlike (forall₂_alike_of_readsAs later) index
    unfold recordsFrom
    simp only [alike.step_eq first, inductionHypothesis (.cons first.toAlike earlier)]

/-- Two scans of lines that read the same raise the same fault, or find the same. -/
theorem diagnostics_of_readsAs (settings : Settings) {lines others : List Line}
    (reads : List.Forall₂ Line.ReadsAs lines others) :
    Scan.diagnostics settings lines = Scan.diagnostics settings others := by
  unfold Scan.diagnostics records
  rw [recordsFrom_of_readsAs settings reads .nil]

end Scan

end HouseStyle
