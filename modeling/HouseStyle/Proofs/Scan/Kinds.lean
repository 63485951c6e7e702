import HouseStyle.Proofs.Scan.Origins

/-!
Contract: the kinds of complaints that a line can get.

Owns: the kinds of complaints that no rule makes, and the kinds of all complaints of a scan.
Does not own: which findings a rule or a reading of the indentation has.

Some complaints stand behind no rule: those about blank lines, inclusions, labels for jumps, types,
lists of parameters and one-line statements. All others are findings of the rules or of the reading
of the indentation.

Main statements: `reported_of_step` and `reported_of_diagnostics`.
-/

namespace HouseStyle.Scan

/-- The kinds of complaints that neither a rule nor the indentation of a statement gives rise to. -/
def fixedKinds : List Kind :=
  [.tooManyBlankLines, .blankLineIndented, .includeIndented, .labelIndented, .labelNotSnake,
    .colonNotAttached] ++ ParamBlock.kinds ++ InlineControl.kinds ++ TypeScope.kinds

/-- Every complaint about a line at a site is of one of the given kinds, wherever it comes from. -/
structure Sources (kinds : List Kind) (settings : Settings) (site : Site) (state : ScanState) :
    Prop where
  fixed : fixedKinds ⊆ kinds
  rules : ∀ (phase : Phase) (state : ScanState) (findings : List Finding),
    Rule.runPhase phase (site.view settings state) = .ok findings →
      ∀ finding ∈ findings, finding.kind ∈ kinds
  indentation : ∀ outcome : Indent.Outcome,
    Indent.step settings.chainLimit site site.previousCode { state with blankRun := 0 } =
        .ok outcome →
      ∀ finding ∈ outcome.findings, finding.kind ∈ kinds

theorem Sources.all (settings : Settings) (site : Site) (state : ScanState) :
    Sources Kind.all settings site state where
  fixed := fun kind _ => kind.mem_all
  rules := fun _ _ _ _ finding _ => finding.kind.mem_all
  indentation := fun _ _ finding _ => finding.kind.mem_all

section Sources

variable {kinds : List Kind} {settings : Settings} {site : Site} {state next : ScanState}
  {diagnostics : List Diagnostic} (sources : Sources kinds settings site state)
include sources

theorem Sources.of_declared {declaredKinds : List Kind} {findings : List Finding}
    (declared : Declared declaredKinds findings) (sub : declaredKinds ⊆ fixedKinds) :
    ∀ finding ∈ findings, finding.kind ∈ kinds :=
  fun finding member => sources.fixed (sub (declared finding member).1)

/-- What arises in a step, wherever it does, is of one of the kinds. -/
theorem Sources.origins :
    Origins (fun finding => finding.kind ∈ kinds)
      (fun diagnostic => ∃ kind ∈ kinds, diagnostic.IsOf kind) settings site state where
  reported := fun finding _ among printed => ⟨finding.kind, among, Kind.isOf_of_diagnostic printed⟩
  blankRun := fun _ _ given =>
    ⟨_, sources.fixed (show Kind.tooManyBlankLines ∈ fixedKinds by decide),
      Kind.isOf_of_diagnostic given⟩
  indentedBlank := sources.fixed (show Kind.blankLineIndented ∈ fixedKinds by decide)
  rules := fun phase seen findings _ ruled => sources.rules phase seen findings ruled
  list := fun _ block => sources.of_declared
    (ParamBlock.declared_proceed block site.line.raw site.line.code _) (by decide)
  directive := sources.fixed (show Kind.includeIndented ∈ fixedKinds by decide)
  label := fun _ label => sources.of_declared (declared_labelFindings? label) (by decide)
  indentation := sources.indentation
  inline := fun _ => sources.of_declared (InlineControl.declared_findings site.line.code) (by decide)
  types := by
    intro diagnostics next answers
    have types : TypeScope.kinds ⊆ fixedKinds := by decide
    exact (reported_of_typeStep answers).mono (List.Subset.trans types sources.fixed)

/-- Every complaint about a line is of one of the kinds of its sources. -/
theorem reported_of_step (passes : step settings site state = .ok (diagnostics, next)) :
    Reported kinds diagnostics :=
  sources.origins.forall_of_step passes

end Sources

section Scan

variable {settings : Settings} {state : ScanState} {lines : List Line}

theorem reported_of_recordsFrom {index : Nat} {before : List Line} {records : List Record}
    (passes : recordsFrom settings index before state lines = .ok records) :
    Reported Kind.all (records.flatMap Record.diagnostics) := by
  induction lines generalizing index before state records with
  | nil =>
    cases passes
    exact Reported.nil
  | cons line rest inductionHypothesis =>
    obtain ⟨⟨found, settled⟩, scanned, passes⟩ := Answer.bind_eq_ok.mp passes
    obtain ⟨others, later, passes⟩ := Answer.bind_eq_ok.mp passes
    cases passes
    exact Reported.append.mpr
      ⟨reported_of_step (Sources.all settings _ state) scanned, inductionHypothesis later⟩

/-- Every diagnostic of a scan is of some kind. -/
theorem reported_of_diagnostics {diagnostics : List Diagnostic}
    (passes : Scan.diagnostics settings lines = .ok diagnostics) :
    Reported Kind.all diagnostics := by
  obtain ⟨records, scanned, passes⟩ := Answer.bind_eq_ok.mp passes
  cases passes
  exact reported_of_recordsFrom scanned

end Scan

end HouseStyle.Scan
